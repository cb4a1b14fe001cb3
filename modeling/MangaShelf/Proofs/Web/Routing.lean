import Mathlib.Data.List.TakeWhile
import MangaShelf.Proofs.Config.Document
import MangaShelf.Web.App

/-!
# From a path to a reply

A path leads to a route if it is the path of the route, with or without slashes after it; with them,
the client is sent on first: `handle_eq`. At the end of one route the reply is checked like a message
from outside, which every resolution passes unchanged: `pagesReply_eq`.
-/

namespace MangaShelf.Web

open Config (Check FieldKey)
open Config.FieldKey (Apart read_writeAll require_writeAll writeAll)

/-! ### Routes -/

namespace Route

lemma at?_eq_some {path : List Char} {route : Route} :
    at? path = some route ↔ path = route.path.toList := by
  constructor
  · intro h
    have hfound := List.find?_some h
    exact (beq_iff_eq.mp hfound).symm
  · rintro rfl
    cases route <;> decide

lemma bare_append (path : List Char) (count : Nat) :
    bare (path ++ List.replicate count '/') = bare path := by
  have hslashes : (List.replicate count '/').reverse.dropWhile (· == '/') = [] := by
    simp
  rw [bare, bare, List.reverse_append, List.dropWhile_append, hslashes]
  rfl

/-- A path is what is left of it with the slashes that were dropped. -/
lemma exists_eq_bare_append (path : List Char) :
    ∃ count, path = bare path ++ List.replicate count '/' := by
  have hdropped : ∀ c ∈ path.reverse.takeWhile (· == '/'), c = '/' := by
    intro c hc
    simpa using List.mem_takeWhile_imp hc
  refine ⟨(path.reverse.takeWhile (· == '/')).length, ?_⟩
  have hpath := congrArg List.reverse (List.takeWhile_append_dropWhile (p := (· == '/'))
    (l := path.reverse))
  rw [List.reverse_append, List.reverse_reverse] at hpath
  rw [bare, ← List.reverse_replicate, ← List.eq_replicate_of_mem hdropped, hpath]

lemma bare_path (route : Route) : bare route.path.toList = route.path.toList := by
  cases route <;> decide

/-- A path leads to a route exactly if it is the path of the route with slashes after it, or with
none. -/
lemma ofPath?_eq_some {path : String} {route : Route} :
    ofPath? path = some route ↔
      ∃ count, path.toList = route.path.toList ++ List.replicate count '/' := by
  rw [ofPath?, redirect?]
  constructor
  · cases hat : at? path.toList with
    | some found =>
      intro h
      cases h
      exact ⟨0, by simpa using at?_eq_some.mp hat⟩
    | none =>
      intro h
      obtain ⟨count, hcount⟩ := exists_eq_bare_append path.toList
      rw [at?_eq_some.mp (show at? (bare path.toList) = some route from h)] at hcount
      exact ⟨count, hcount⟩
  · rintro ⟨count, hpath⟩
    have hbare : at? (bare path.toList) = some route := by
      rw [hpath, bare_append, bare_path]
      exact at?_eq_some.mpr rfl
    cases hat : at? path.toList with
    | none => exact hbare
    | some found =>
      have hfound := at?_eq_some.mp hat
      rw [hfound, bare_path, ← hfound, hat] at hbare
      exact hbare

end Route

/-- A client that follows redirections gets the reply of the route that the path leads to. -/
lemma handle_eq (setup : Setup) (source : Source) (registry : Registry) (r : Request) :
    handle setup source registry r =
      match Route.ofPath? r.path with
      | none => (registry, .detail 404 "Not Found")
      | some route => answerAt setup source registry r route := by
  rw [handle, serve, Route.ofPath?]
  cases Route.at? r.path.toList with
  | some route => rfl
  | none => cases Route.redirect? r.path.toList <;> rfl

/-! ### Lists of pages -/

namespace PageEntry

/-- The fields of a page with their values. -/
def values (p : PageEntry) : List (FieldKey × Json) :=
  [(.same "page", .int p.page), (.same "url", .string p.url)]

lemma apart (p : PageEntry) : (p.values.map (·.1)).Pairwise Apart := by
  simp only [values, List.map_cons, List.map_nil]
  decide

lemma reads_toJson : check.Reads toJson := by
  intro p
  show check (.object (writeAll .plain p.values)) = .ok p
  simp only [check, Check.model, Check.fields]
  rw [require_writeAll p.apart Check.reads_int (.head _),
    require_writeAll p.apart Check.reads_string (.tail _ (.head _))]
  rfl

end PageEntry

namespace PageList

/-- The fields of a list with their values. -/
def values (p : PageList) : List (FieldKey × Json) :=
  [(.same "pages", .array (p.pages.map PageEntry.toJson)),
    (.same "chapter_title", .string p.chapterTitle), (.same "manga_title", .string p.mangaTitle),
    (.same "max_chapter_count", writeInt p.chapterCount)]

lemma apart (p : PageList) : (p.values.map (·.1)).Pairwise Apart := by
  simp only [values, List.map_cons, List.map_nil]
  decide

/-- A list of pages is read back from what is written of it. -/
lemma reads_toJson : check.Reads toJson := by
  intro p
  show check (.object (writeAll .plain p.values)) = .ok p
  simp only [check, Check.fields]
  rw [require_writeAll p.apart PageEntry.reads_toJson.list (.head _),
    require_writeAll p.apart Check.reads_string (.tail _ (.head _)),
    require_writeAll p.apart Check.reads_string (.tail _ (.tail _ (.head _))),
    read_writeAll p.apart (Check.reads_int.optional fun _ => rfl)
      (.tail _ (.tail _ (.tail _ (.head _))))]
  rfl

/-- The list of the pages of a resolution. -/
def ofResolution (r : Resolution) : PageList :=
  ⟨r.pages.map fun p => ⟨p.number, p.url⟩, r.chapterTitle, r.mangaTitle,
    r.chapterCount.map fun n => (n : Int)⟩

lemma toJson_ofResolution (r : Resolution) : (ofResolution r).toJson = r.toJson := by
  obtain ⟨pages, chapterTitle, mangaTitle, chapterCount⟩ := r
  have hpages : (pages.map fun p => PageEntry.mk p.number p.url).map PageEntry.toJson =
      pages.map Page.toJson := by
    rw [List.map_map]
    rfl
  cases chapterCount <;> simp only [toJson, ofResolution, Resolution.toJson, hpages] <;> rfl

end PageList

/-- Every resolution passes as a list of pages, and is answered as it is. -/
lemma pagesReply_eq (r : Resolution) : pagesReply r = .ok r.toJson := by
  rw [pagesReply, ← PageList.toJson_ofResolution, PageList.reads_toJson]

end MangaShelf.Web
