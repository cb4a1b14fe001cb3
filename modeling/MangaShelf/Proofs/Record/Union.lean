import MangaShelf.Proofs.Chapter.Links
import MangaShelf.Proofs.Record.Cleanup
import MangaShelf.Proofs.Record.Mishap

/-!
# Records field by field

A record of several fields is the union of the records of each of them alone, so it does not depend
on the order in which they are requested, on repetitions, or on words that name no field:
`assemble_union`.
-/

namespace MangaShelf

/-- The fields that some words name, one after the other; other words name none. -/
def RequestField.named (words : List String) : List RequestField :=
  words.filterMap ofWord?

lemma RequestField.ofWord?_eq_some {word : String} {field : RequestField} :
    ofWord? word = some field ↔ word = field.word := by
  constructor
  · intro h
    unfold ofWord? at h
    simpa [eq_comm] using List.find?_some h
  · rintro rfl
    cases field <;> decide

lemma RequestField.mem_named {words : List String} {field : RequestField} :
    field ∈ named words ↔ field.word ∈ words := by
  simp [named, List.mem_filterMap, ofWord?_eq_some]

lemma RequestField.named_word (field : RequestField) : named [field.word] = [field] := by
  rw [named, List.filterMap_cons_some (ofWord?_eq_some.mpr rfl), List.filterMap_nil]

namespace Record

open Config (FieldRule)
open Extraction (Subject)
open RequestField (mem_named named named_word)

variable {s : Subject} {rules : Rules} {base : String} {fields fields' : List RequestField}
  {r r' : Record}

/-! ### Ending well -/

/-- What goes wrong with a record goes wrong with one of its fields alone. -/
lemma mishap_iff {failure : Failure} :
    Mishap s rules fields base failure ↔
      ∃ field ∈ fields, Mishap s rules [field] base failure := by
  constructor
  · intro h
    cases h with
    | field hfield h => exact ⟨_, hfield, .field (List.mem_singleton_self _) h⟩
    | image hfield hrule hurl h =>
      exact ⟨_, hfield, .image (List.mem_singleton_self _) hrule hurl h⟩
  · rintro ⟨field, hfield, h⟩
    cases h with
    | field hmem h => exact .field (List.mem_singleton.mp hmem ▸ hfield) h
    | image hmem hrule hurl h => exact .image (List.mem_singleton.mp hmem ▸ hfield) hrule hurl h

/-- A record can be put together exactly if it can for each field alone. -/
lemma exists_assemble_iff :
    (∃ r, assemble s rules fields base = .ok r) ↔
      ∀ field ∈ fields, ∃ part, assemble s rules [field] base = .ok part := by
  simp only [(failsFor_assemble s rules base _).exists_ok_iff]
  rw [forall_congr' fun failure => not_congr mishap_iff]
  exact ⟨fun h field hfield failure hmishap => h failure ⟨field, hfield, hmishap⟩,
    fun h failure ⟨field, hfield, hmishap⟩ => h field hfield failure hmishap⟩

/-! ### One key at a time -/

/-- Whatever else is requested, the value under a key is the same wherever the field of the key is
requested. -/
lemma get?_assemble_congr (h : assemble s rules fields base = .ok r)
    (h' : assemble s rules fields' base = .ok r') {key : RecordKey}
    (hiff : key.field ∈ fields ↔ key.field ∈ fields') : r.get? key = r'.get? key := by
  obtain ⟨raw, hraw, hclean⟩ := bind_eq_ok.mp h
  obtain ⟨raw', hraw', hclean'⟩ := bind_eq_ok.mp h'
  have hkey : raw.get? key = raw'.get? key := by
    by_cases hmem : key.field ∈ fields
    · obtain ⟨entries, hentries, hget⟩ := get?_foldlM_of_mem hraw hmem
      obtain ⟨entries', hentries', hget'⟩ := get?_foldlM_of_mem hraw' (hiff.mp hmem)
      obtain rfl := Except.ok.inj (hentries.symm.trans hentries')
      rw [hget, hget']
    · rw [get?_foldlM_of_notMem hraw hmem, get?_foldlM_of_notMem hraw' (hmem ∘ hiff.mpr)]
  rcases get?_clean_cases hclean key with ⟨hv, hnone⟩ | ⟨v, cleaned, hv, hcleaned, hsome⟩
  · rcases get?_clean_cases hclean' key with ⟨-, hnone'⟩ | ⟨v', cleaned', hv', -, -⟩
    · rw [hnone, hnone']
    · rw [← hkey, hv] at hv'
      cases hv'
  · rcases get?_clean_cases hclean' key with ⟨hv', -⟩ | ⟨v', cleaned', hv', hcleaned', hsome'⟩
    · rw [← hkey, hv] at hv'
      cases hv'
    · rw [← hkey, hv] at hv'
      obtain rfl := Option.some.inj hv'
      rw [hsome, hsome', Except.ok.inj (hcleaned.symm.trans hcleaned')]

/-- A field with a value is requested. -/
lemma field_mem_of_get? (h : assemble s rules fields base = .ok r) {key : RecordKey} {v : Json}
    (hv : r.get? key = some v) : key.field ∈ fields := by
  by_contra hmem
  rw [get?_assemble_eq_none h (.inl hmem)] at hv
  cases hv

/-- A record has a value exactly if the record of one of its fields alone has it. -/
lemma get?_assemble_iff (h : assemble s rules fields base = .ok r) {key : RecordKey} {v : Json} :
    r.get? key = some v ↔ ∃ field ∈ fields, ∃ part,
      assemble s rules [field] base = .ok part ∧ part.get? key = some v := by
  constructor
  · intro hv
    have hmem := field_mem_of_get? h hv
    obtain ⟨part, hpart⟩ := exists_assemble_iff.mp ⟨r, h⟩ key.field hmem
    refine ⟨key.field, hmem, part, hpart, ?_⟩
    rw [← hv]
    exact get?_assemble_congr hpart h (by simp [hmem])
  · rintro ⟨field, hfield, part, hpart, hv⟩
    obtain rfl := List.mem_singleton.mp (field_mem_of_get? hpart hv)
    rw [← hv]
    exact get?_assemble_congr h hpart (by simp [hfield])

/-! ### Lists -/

/-- The genres of a record are tidy. -/
lemma get?_assemble_genres {rule : FieldRule} (h : assemble s rules fields base = .ok r)
    (hgenres : .genres ∈ fields) (hrule : rules .genres = some rule) :
    ∃ names, IsTidy names ∧ r.get? .genres = some (.array (names.map .string)) := by
  obtain ⟨raw, hraw, hclean⟩ := bind_eq_ok.mp h
  obtain ⟨entries, hentries, hget⟩ :=
    get?_foldlM_of_mem hraw (show RecordKey.genres.field ∈ fields from hgenres)
  obtain ⟨labelled, rfl⟩ := entriesOf_genres hrule hentries
  rcases get?_clean_cases hclean .genres with ⟨hnone, -⟩ | ⟨v, cleaned, -, hcleaned, hsome⟩
  · rw [hget] at hnone
    cases hnone
  · obtain ⟨names, -, hpure⟩ := bind_eq_ok.mp hcleaned
    rw [pure_eq_ok.mp hpure] at hsome
    exact ⟨tidy names, isTidy_tidy names, hsome⟩

/-! ### Words -/

/-- A field that is not both asked for and ruled lacks one of the two. -/
lemma notMem_named_or_of_not_and {words : List String} {field : RequestField}
    (h : ¬ (field.word ∈ words ∧ (field.rule? rules).isSome)) :
    field ∉ named words ∨ field.rule? rules = none := by
  rw [not_and_or, ← mem_named, Option.not_isSome_iff_eq_none] at h
  exact h

/-- A record can be put together for some words exactly if it can for each word alone. -/
lemma exists_assemble_named_iff {words : List String} :
    (∃ r, assemble s rules (named words) base = .ok r) ↔
      ∀ word ∈ words, ∃ part, assemble s rules (named [word]) base = .ok part := by
  constructor
  · intro h word hword
    refine exists_assemble_iff.mpr fun field hfield => exists_assemble_iff.mp h field ?_
    obtain rfl := List.mem_singleton.mp (mem_named.mp hfield)
    exact mem_named.mpr hword
  · intro h
    refine exists_assemble_iff.mpr fun field hfield => ?_
    exact named_word field ▸ h field.word (mem_named.mp hfield)

/-- A record of some words has a value exactly if the record of one of the words alone has it. -/
lemma get?_assemble_named_iff {words : List String}
    (h : assemble s rules (named words) base = .ok r) {key : RecordKey} {v : Json} :
    r.get? key = some v ↔ ∃ word ∈ words, ∃ part,
      assemble s rules (named [word]) base = .ok part ∧ part.get? key = some v := by
  constructor
  · intro hv
    obtain ⟨field, hfield, part, hpart, hvalue⟩ := (get?_assemble_iff h).mp hv
    exact ⟨field.word, mem_named.mp hfield, part, (named_word field).symm ▸ hpart, hvalue⟩
  · rintro ⟨word, hword, part, hpart, hv⟩
    have hkey := mem_named.mp (field_mem_of_get? hpart hv)
    obtain rfl := List.mem_singleton.mp hkey
    exact (get?_assemble_iff h).mpr
      ⟨key.field, mem_named.mpr hword, part, named_word key.field ▸ hpart, hv⟩

/-- The chapters of a record are objects that are numbered from one, and it has their number. -/
lemma get?_assemble_chapters {rule : FieldRule} (h : assemble s rules fields base = .ok r)
    (hchapters : .chapters ∈ fields) (hrule : rules .chapters = some rule) :
    ∃ entries : List Json, r.get? .chapters = some (.array entries) ∧
      r.get? .chapterCount = some (.int entries.length) ∧
      ∀ i < entries.length, ∃ title url : String, entries[i]? = some
        (.object [("number", .int (i + 1)), ("title", .string title), ("url", .string url)]) := by
  obtain ⟨chapters, hcollect, hlist, hcount⟩ := get?_chapters h hchapters hrule
  refine ⟨chapters.map Chapter.toJson, hlist, by rwa [List.length_map], fun i hi => ?_⟩
  rw [List.length_map] at hi
  exact ⟨_, _, Chapter.toJson_of_collect hcollect (List.getElem?_eq_getElem hi)⟩

/-- A record of some words can be put together exactly if it can for each word alone, and it is
then the union of those records: their order, repetitions and the other words do not count, and
there are no other entries, also not in the object that stands for it. Genres and chapters are there
exactly if they are asked for and have a rule; the genres are tidy, and the chapters are numbered
from one and come with their number. -/
theorem assemble_union (s : Subject) (rules : Rules) (base : String) (words : List String) :
    ((∃ r, assemble s rules (named words) base = .ok r) ↔
      ∀ word ∈ words, ∃ part, assemble s rules (named [word]) base = .ok part) ∧
    ∀ r, assemble s rules (named words) base = .ok r →
      (∀ word v, r.toJson.get? word = some v ↔
        ∃ key : RecordKey, key.word = word ∧ r.get? key = some v) ∧
      (∀ key v, r.get? key = some v ↔ ∃ word ∈ words, ∃ part,
        assemble s rules (named [word]) base = .ok part ∧ part.get? key = some v) ∧
      (∀ words', (∀ word, word ∈ words' ↔ word ∈ words) →
        ∃ r', assemble s rules (named words') base = .ok r' ∧ ∀ key, r'.get? key = r.get? key) ∧
      (∀ words' r', assemble s rules (named words') base = .ok r' → ∀ key : RecordKey,
        key.field.word ∈ words → key.field.word ∈ words' → r'.get? key = r.get? key) ∧
      (∀ key v, r.get? key = some v →
        key.word ∈ words ∨ key = .chapterCount ∧ "manga_chapters" ∈ words) ∧
      (if "genres" ∈ words ∧ (rules .genres).isSome then
        ∃ names, IsTidy names ∧ r.get? .genres = some (.array (names.map .string))
      else r.get? .genres = none) ∧
      (if "manga_chapters" ∈ words ∧ (rules .chapters).isSome then
        ∃ entries : List Json, r.get? .chapters = some (.array entries) ∧
          r.get? .chapterCount = some (.int entries.length) ∧
          ∀ i < entries.length, ∃ title url : String, entries[i]? = some
            (.object [("number", .int (i + 1)), ("title", .string title), ("url", .string url)])
      else r.get? .chapters = none ∧ r.get? .chapterCount = none) := by
  refine ⟨exists_assemble_named_iff, fun r h => ⟨fun _ _ => get?_toJson_iff,
    fun _ _ => get?_assemble_named_iff h, ?_, ?_, ?_, ?_, ?_⟩⟩
  · intro words' hsame
    have hparts := exists_assemble_named_iff.mp ⟨r, h⟩
    obtain ⟨r', h'⟩ := exists_assemble_named_iff.mpr fun word hword =>
      hparts word ((hsame word).mp hword)
    refine ⟨r', h', fun key => get?_assemble_congr h' h ?_⟩
    rw [mem_named, mem_named, hsame]
  · intro words' r' h' key hword hword'
    exact get?_assemble_congr h' h (by simp only [mem_named, hword, hword'])
  · intro key v hv
    have hword := mem_named.mp (field_mem_of_get? h hv)
    cases key with
    | chapterCount => exact .inr ⟨rfl, hword⟩
    | id | name | description | genres | image | chapters => exact .inl hword
  · split
    next hgiven =>
      obtain ⟨rule, hrule⟩ := Option.isSome_iff_exists.mp hgiven.2
      exact get?_assemble_genres h (mem_named.mpr hgiven.1) hrule
    next hmissing =>
      exact get?_assemble_eq_none h (notMem_named_or_of_not_and hmissing)
  · split
    next hgiven =>
      obtain ⟨rule, hrule⟩ := Option.isSome_iff_exists.mp hgiven.2
      exact get?_assemble_chapters h (mem_named.mpr hgiven.1) hrule
    next hmissing =>
      have hnone : .chapters ∉ named words ∨ RequestField.chapters.rule? rules = none :=
        notMem_named_or_of_not_and hmissing
      exact ⟨get?_assemble_eq_none h hnone, get?_assemble_eq_none h hnone⟩

/-- The name is in a heading, a genre is in bold, and the chapters are links; there is no rule for
anything else. -/
def headingRules : Rules
  | .name => some { FieldRule.empty with selector := some "h1" }
  | .genres => some { FieldRule.empty with selector := some "b" }
  | .chapters => some { FieldRule.empty with selector := some "a" }
  | _ => none

/-- A page with a name, a genre and a chapter. -/
def headingPage : Subject :=
  Chapter.pageOf "<h1>N</h1><b> Drama </b><a href=/1>A</a>"

/-- A name, a genre and a chapter, asked for with a repetition and with a word that names nothing,
and asked for in the other order. -/
theorem assemble_union_of_headings :
    ∃ r r', assemble headingPage headingRules
        (named ["genres", "manga_name", "genres", "stars", "manga_chapters"]) "http://a.test/" =
          .ok r ∧
      assemble headingPage headingRules
        (named ["manga_name", "manga_chapters", "stars", "genres"]) "http://a.test/" = .ok r' ∧
      (r.get? .name).bind Json.asString? = some "N" ∧ r'.get? .name = r.get? .name ∧
      (∃ names, IsTidy names ∧ r.get? .genres = some (.array (names.map .string))) ∧
      r.toJson.get? "max_chapters" = some (.int 1) ∧
      ∃ title url, r.toJson.get? "manga_chapters" = some (.array [.object
        [("number", .int 1), ("title", .string title), ("url", .string url)]]) := by
  have hfound : (assemble headingPage headingRules
      (named ["genres", "manga_name", "genres", "stars", "manga_chapters"])
        "http://a.test/").toOption.map (fun r => ((r.get? .name).bind Json.asString?,
          (r.get? .chapterCount).bind Json.asInt?)) = some (some "N", some 1) := by
    decide +kernel
  obtain ⟨r, hr, hvalues⟩ := Option.map_eq_some_iff.mp hfound
  rw [toOption_eq_some] at hr
  obtain ⟨hname, hone⟩ := Prod.mk.injEq .. ▸ hvalues
  obtain ⟨hjson, -, hsame, -, -, hgenres, hchapters⟩ :=
    (assemble_union headingPage headingRules "http://a.test/" _).2 r hr
  obtain ⟨r', hr', hother⟩ :=
    hsame ["manga_name", "manga_chapters", "stars", "genres"] fun word => by
      simp only [List.mem_cons, List.not_mem_nil]
      tauto
  rw [if_pos (by decide)] at hgenres hchapters
  obtain ⟨entries, hentries, hcount, hnumbered⟩ := hchapters
  rw [hcount] at hone
  have hlength : entries.length = 1 := Int.ofNat.inj (Option.some.inj hone)
  obtain ⟨entry, rfl⟩ := List.length_eq_one_iff.mp hlength
  obtain ⟨title, url, hfirst⟩ := hnumbered 0 Nat.zero_lt_one
  obtain rfl := Option.some.inj hfirst
  exact ⟨r, r', hr, hr', hname, hother .name, hgenres,
    (hjson _ _).mpr ⟨.chapterCount, rfl, hcount⟩, title, url,
    (hjson _ _).mpr ⟨.chapters, rfl, hentries⟩⟩

end Record

end MangaShelf
