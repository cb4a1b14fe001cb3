import Mathlib.Data.List.Forall2
import Mathlib.Tactic.Lemma
import MangaShelf.Chapter.List
import MangaShelf.Markup.Document
import MangaShelf.Proofs.Extraction.Shape

/-!
# The links of a chapter list

A chapter list has a chapter for each text that its rule takes from the page as an ordinary list of
values: `collect_eq_extracted`. Whether the rule takes texts or several values is of no account, and
the order of the rule only says from which end the chapters are counted.
-/

namespace MangaShelf.Chapter

open Config (Arranger FieldRule)
open Extraction (Subject resultsOf)

/-- The rule that takes the links of a page as an ordinary list of values. -/
def listRule (rule : FieldRule) : FieldRule :=
  { rule with
    text := false
    multiple := true
    attr := some ((Extraction.given rule.attr).getD "href") }

/-- The texts other than the empty one among some values. -/
def linkTexts (vs : List Json) : List String :=
  (vs.filterMap Json.asString?).filter (· ≠ "")

/-- What a chapter is apart from its number. -/
def entry (c : Chapter) : String × String :=
  (c.title, c.url)

/-- An entry keeps the title of a link and has its address on the page at the address `base`. -/
def Resolves (base : String) (link entry : String × String) : Prop :=
  entry.1 = link.1 ∧ absolute (Text.trim link.2) base = .ok entry.2

variable {page s : Subject} {rule : FieldRule} {base : String}

/-! ### Links -/

lemma linkTexts_append (vs ws : List Json) : linkTexts (vs ++ ws) = linkTexts vs ++ linkTexts ws := by
  simp [linkTexts]

lemma linkTexts_cons (v : Json) (vs : List Json) :
    linkTexts (v :: vs) = linkTexts [v] ++ linkTexts vs :=
  linkTexts_append [v] vs

lemma linkTexts_dropNulls (vs : List Json) :
    linkTexts (Extraction.dropNulls vs) = linkTexts vs := by
  induction vs with
  | nil => rfl
  | cons v vs ih =>
    rw [linkTexts_cons, ← ih]
    cases v with
    | null => rfl
    | bool _ | int _ | float _ | string _ | array _ | object _ => exact linkTexts_cons _ _

lemma urls_linksOf_array (s : Subject) (vs : List Json) :
    (linksOf s (.array vs)).map Prod.snd = linkTexts vs := by
  induction vs with
  | nil => rfl
  | cons v vs ih =>
    rw [linkTexts_cons, ← ih]
    cases v with
    | string url =>
      by_cases hurl : url = "" <;> simp [linksOf, linkTexts, Json.asString?, hurl]
    | null | bool _ | int _ | float _ | array _ | object _ => rfl

/-- The links of a value are the texts among its results. -/
lemma urls_linksOf (s : Subject) (v : Json) :
    (linksOf s v).map Prod.snd = linkTexts (Extraction.results v) := by
  cases v with
  | array vs => rw [urls_linksOf_array, Extraction.results, linkTexts_dropNulls]
  | string url =>
    by_cases hurl : url = "" <;>
      simp [linksOf, linkTexts, Extraction.results, Json.asString?, hurl]
  | null | bool _ | int _ | float _ | object _ => rfl

lemma urls_of_mapM {subjects : List Subject} {found : List (List (String × String))}
    (h : (subjects.mapM fun s => do
      return linksOf s (← Extraction.read s (linkRule rule))) = .ok found) :
    ∃ vs, resultsOf (listRule rule) subjects = .ok vs ∧
      found.flatten.map Prod.snd = linkTexts vs := by
  induction subjects generalizing found with
  | nil =>
    obtain rfl := pure_eq_ok.mp h
    exact ⟨[], rfl, rfl⟩
  | cons s subjects ih =>
    obtain ⟨links, rest, hlinks, hrest, rfl⟩ := mapM_cons_eq_ok.mp h
    obtain ⟨v, hv, hlinks⟩ := bind_eq_ok.mp hlinks
    obtain rfl := pure_eq_ok.mp hlinks
    obtain ⟨vs, hvs, htexts⟩ := ih hrest
    obtain ⟨values, hvalues, rfl⟩ := Extraction.resultsOf_eq_ok.mp hvs
    have hall : (s :: subjects).mapM (fun s => Extraction.read s (listRule rule)) =
        .ok (v :: values) := mapM_cons_eq_ok.mpr ⟨v, values, hv, hvalues, rfl⟩
    refine ⟨_, Extraction.resultsOf_eq_ok.mpr ⟨_, hall, rfl⟩, ?_⟩
    rw [List.flatten_cons, List.map_append, urls_linksOf, htexts, List.flatMap_cons,
      linkTexts_append]

/-- The links of a page are the texts that its rule takes as an ordinary list, in the order in which
they are found. -/
lemma urls_links {found : List (String × String)} (h : links page rule = .ok found) :
    ∃ vs, Extraction.extract page (listRule rule) =
        .ok (.array (Arranger.arrange rule.arranger vs)) ∧
      found.map Prod.snd = linkTexts vs := by
  obtain ⟨subjects, hsubjects, h⟩ := bind_eq_ok.mp h
  obtain ⟨lists, hlists, h⟩ := bind_eq_ok.mp h
  obtain rfl := pure_eq_ok.mp h
  obtain ⟨vs, hvs, htexts⟩ := urls_of_mapM hlists
  exact ⟨vs, (Extraction.extract_eq_ok_of_multiple rfl).mpr ⟨subjects, vs, hsubjects, hvs, rfl⟩,
    htexts⟩

lemma map_arrange {α β : Type} (order : Option Arranger) (f : α → β) (as : List α) :
    (Arranger.arrange order as).map f = Arranger.arrange order (as.map f) := by
  unfold Arranger.arrange
  split
  · exact List.map_reverse
  · rfl

lemma linkTexts_arrange (order : Option Arranger) (vs : List Json) :
    linkTexts (Arranger.arrange order vs) = Arranger.arrange order (linkTexts vs) := by
  unfold Arranger.arrange
  split
  · simp [linkTexts]
  · rfl

/-! ### Numbers -/

/-- Numbering ends well when each link can be resolved, and gives the chapters their numbers one
after the other. -/
lemma numbered_eq_ok {first : Nat} {links : List (String × String)} {chapters : List Chapter} :
    numbered base first links = .ok chapters ↔
      List.Forall₂ (Resolves base) links (chapters.map entry) ∧
        chapters.map (·.number) = List.range' first chapters.length := by
  induction links generalizing first chapters with
  | nil =>
    rw [numbered, List.forall₂_nil_left_iff, List.map_eq_nil_iff]
    constructor
    · rintro ⟨⟩
      exact ⟨rfl, rfl⟩
    · rintro ⟨rfl, -⟩
      rfl
  | cons link rest ih =>
    obtain ⟨title, url⟩ := link
    rw [numbered, bind_eq_ok]
    constructor
    · rintro ⟨resolved, hresolved, h⟩
      obtain ⟨later, hlater, h⟩ := bind_eq_ok.mp h
      obtain rfl := pure_eq_ok.mp h
      obtain ⟨hlinks, hnumbers⟩ := ih.mp hlater
      refine ⟨.cons ⟨rfl, hresolved⟩ hlinks, ?_⟩
      rw [List.map_cons, hnumbers, List.length_cons, List.range'_succ]
    · rintro ⟨hlinks, hnumbers⟩
      cases chapters with
      | nil => cases hlinks
      | cons c later =>
        obtain ⟨number, title', url'⟩ := c
        rw [List.map_cons, List.forall₂_cons] at hlinks
        obtain ⟨⟨rfl, hresolved⟩, hlinks⟩ := hlinks
        rw [List.map_cons, List.length_cons, List.range'_succ] at hnumbers
        obtain ⟨rfl, hlater⟩ := List.cons.inj hnumbers
        exact ⟨url', hresolved, bind_eq_ok.mpr ⟨later, ih.mpr ⟨hlinks, hlater⟩, rfl⟩⟩

/-- Chapters counted anew from one. -/
def renumbered (chapters : List Chapter) : List Chapter :=
  (chapters.zipIdx 1).map fun (c, number) => { c with number }

lemma entries_renumbered (chapters : List Chapter) :
    (renumbered chapters).map entry = chapters.map entry := by
  have hentry : entry ∘ (fun x : Chapter × Nat => { x.1 with number := x.2 }) =
      entry ∘ Prod.fst := rfl
  rw [renumbered, List.map_map, hentry, ← List.map_map, List.zipIdx_map_fst]

lemma numbers_renumbered (chapters : List Chapter) :
    (renumbered chapters).map (·.number) = List.range' 1 (renumbered chapters).length := by
  rw [renumbered, List.map_map, List.length_map, List.length_zipIdx]
  exact List.zipIdx_map_snd 1 chapters

/-- The same links from the other end give the same chapters from the other end, counted anew. -/
lemma numbered_reverse {links : List (String × String)} {chapters : List Chapter}
    (h : numbered base 1 links = .ok chapters) :
    numbered base 1 links.reverse = .ok (renumbered chapters.reverse) := by
  refine numbered_eq_ok.mpr ⟨?_, numbers_renumbered _⟩
  rw [entries_renumbered, List.map_reverse, List.forall₂_reverse_iff]
  exact (numbered_eq_ok.mp h).1

/-! ### Chapter lists -/

lemma collect_eq (hgiven : rule.selector.getD "" ≠ "") :
    collect page (some rule) base =
      (links page rule >>= fun found => numbered base 1 (Arranger.arrange rule.arranger found)) := by
  simp [collect, hgiven]

/-- The chapters of a page come from some links, in order. -/
lemma exists_numbered_of_collect {rule : Option FieldRule} {chapters : List Chapter}
    (h : collect page rule base = .ok chapters) : ∃ links, numbered base 1 links = .ok chapters := by
  unfold collect at h
  cases rule with
  | none => exact ⟨[], h⟩
  | some rule =>
    dsimp only at h
    split at h
    · exact ⟨[], h⟩
    · obtain ⟨links, -, h⟩ := bind_eq_ok.mp h
      exact ⟨_, h⟩

/-- The chapters of a page are numbered from one. -/
lemma numbers_of_collect {rule : Option FieldRule} {chapters : List Chapter}
    (h : collect page rule base = .ok chapters) :
    chapters.map (·.number) = List.range' 1 chapters.length := by
  obtain ⟨links, hlinks⟩ := exists_numbered_of_collect h
  exact (numbered_eq_ok.mp hlinks).2

/-- The chapter at an index has the number that follows it. -/
lemma number_of_collect {rule : Option FieldRule} {chapters : List Chapter}
    (h : collect page rule base = .ok chapters) {i : Nat} {c : Chapter}
    (hc : chapters[i]? = some c) : c.number = i + 1 := by
  have hnumbers := congrArg (·[i]?) (numbers_of_collect h)
  obtain ⟨hi, -⟩ := List.getElem?_eq_some_iff.mp hc
  simp only [List.getElem?_map, hc, Option.map_some, List.getElem?_range' hi,
    Option.some.injEq] at hnumbers
  omega

/-- What is written of the chapter at an index. -/
lemma toJson_of_collect {rule : Option FieldRule} {chapters : List Chapter}
    (h : collect page rule base = .ok chapters) {i : Nat} {c : Chapter}
    (hc : chapters[i]? = some c) :
    (chapters.map toJson)[i]? = some
      (.object [("number", .int (i + 1)), ("title", .string c.title), ("url", .string c.url)]) := by
  rw [List.getElem?_map, hc, Option.map_some, toJson, number_of_collect h hc]
  rfl

/-- A chapter list has one chapter for each text other than the empty one that its rule takes as an
ordinary list, in the same order and counted from one. It does not matter whether the rule asks for
texts or for several values, and with the newest first the same entries come from the other end. -/
theorem collect_eq_extracted {chapters : List Chapter} (hgiven : rule.selector.getD "" ≠ "")
    (h : collect page (some rule) base = .ok chapters) :
    (∃ vs, Extraction.extract page (listRule rule) = .ok (.array vs) ∧
      List.Forall₂ (fun text c => absolute (Text.trim text) base = .ok c.url)
        (linkTexts vs) chapters) ∧
    chapters.map (·.number) = List.range' 1 chapters.length ∧
    (∀ text multiple,
      collect page (some { rule with text, multiple }) base = collect page (some rule) base) ∧
    (rule.arranger ≠ some .newestFirst → ∃ reversed,
      collect page (some { rule with arranger := some .newestFirst }) base = .ok reversed ∧
      reversed.map entry = (chapters.map entry).reverse ∧
      reversed.map (·.number) = List.range' 1 reversed.length) := by
  rw [collect_eq hgiven, bind_eq_ok] at h
  obtain ⟨found, hfound, h⟩ := h
  obtain ⟨hresolves, hnumbers⟩ := numbered_eq_ok.mp h
  refine ⟨?_, hnumbers, fun _ _ => rfl, fun horder => ?_⟩
  · obtain ⟨vs, hvs, htexts⟩ := urls_links hfound
    refine ⟨_, hvs, ?_⟩
    rw [linkTexts_arrange, ← htexts, ← map_arrange, List.forall₂_map_left_iff]
    rw [List.forall₂_map_right_iff] at hresolves
    exact hresolves.imp fun _ _ hlink => hlink.2
  · rw [Extraction.arrange_of_ne horder] at h
    refine ⟨renumbered chapters.reverse, ?_, ?_, numbers_renumbered _⟩
    · rw [collect_eq (by exact hgiven)]
      exact bind_eq_ok.mpr ⟨found, hfound, numbered_reverse h⟩
    · rw [entries_renumbered, List.map_reverse]

/-- A rule for the addresses in a script. -/
def scriptRule : FieldRule :=
  { FieldRule.empty with selector := some "script", parsesJson := true }

/-- A page with a script that holds addresses and other values. -/
def scriptPage : Subject :=
  .ofPage (Markup.document "<script>[\"/1\", null, \"\", \" /2 \", 3]</script>")

/-- The two texts in a script that are not empty give two chapters, in either order. -/
theorem collect_eq_extracted_of_script :
    collect scriptPage (some scriptRule) "http://a.test/m" =
        .ok [⟨1, "", "http://a.test/1"⟩, ⟨2, "", "http://a.test/2"⟩] ∧
      ∃ vs reversed, Extraction.extract scriptPage (listRule scriptRule) = .ok (.array vs) ∧
        (linkTexts vs).length = 2 ∧
        collect scriptPage (some { scriptRule with arranger := some .newestFirst })
          "http://a.test/m" = .ok reversed ∧
        reversed.map entry = [("", "http://a.test/2"), ("", "http://a.test/1")] := by
  have h : collect scriptPage (some scriptRule) "http://a.test/m" =
      .ok [⟨1, "", "http://a.test/1"⟩, ⟨2, "", "http://a.test/2"⟩] :=
    toOption_eq_some.mp (by decide +kernel)
  obtain ⟨⟨vs, hvs, hlinks⟩, -, -, hreversed⟩ := collect_eq_extracted (by decide) h
  obtain ⟨reversed, hcollect, hentries, -⟩ := hreversed (by decide)
  exact ⟨h, vs, reversed, hvs, hlinks.length_eq, hcollect, hentries⟩

end MangaShelf.Chapter
