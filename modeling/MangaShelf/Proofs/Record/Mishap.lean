import Mathlib.Tactic.Lemma
import MangaShelf.Proofs.Chapter.Agreement
import MangaShelf.Proofs.Chapter.Mishap
import MangaShelf.Proofs.Record.Cleanup

/-!
# What can go wrong on the way to a record

The record of a manga fails with the mishaps of its fields and for the link to its image. Together
with those of a resolution, they are all that keeps the reading of a profile from giving a result,
whatever the pages and the rules of a site say: `ends_well_iff`.
-/

namespace MangaShelf

open Config (Field FieldRule ProfilePage Spider)
open Extraction (Subject)

namespace Record

/-- What goes wrong when a requested field is read. -/
def FieldMishap (s : Subject) (rules : Rules) (base : String) (field : RequestField)
    (failure : Failure) : Prop :=
  match plainSource? field, field with
  | some (source, _, extraction), _ => ∃ rule, rules source = some rule ∧
    Extraction.Mishap s (rule.prepared extraction { multiple := some false }) failure
  | none, .genres => ∃ rule, rules .genres = some rule ∧
    Extraction.Mishap s (rule.prepared { text := some true } { multiple := some true }) failure
  | none, .chapters => ∃ rule, rules .chapters = some rule ∧ Chapter.ListMishap s rule base failure
  | none, _ => False

/-- What goes wrong when a record is put together: a field cannot be read, or the link to the image
cannot be resolved. -/
inductive Mishap (s : Subject) (rules : Rules) (fields : List RequestField) (base : String) :
    Failure → Prop where
  | field {field : RequestField} {failure : Failure} (hfield : field ∈ fields)
    (h : FieldMishap s rules base field failure) : Mishap s rules fields base failure
  | image {rule : FieldRule} {url : String} {fault : Url.ReferenceFault} (hfield : .image ∈ fields)
    (hrule : rules .image = some rule)
    (hurl : Extraction.extract s
      (rule.prepared { attr := some (some "src") } { multiple := some false }) = .ok (.string url))
    (h : Url.absolute url base = .error fault) : Mishap s rules fields base (.reference fault)

lemma FieldMishap.ofSite {s : Subject} {rules : Rules} {base : String} {field : RequestField}
    {failure : Failure} (h : FieldMishap s rules base field failure) : failure.OfSite := by
  unfold FieldMishap at h
  split at h
  next =>
    obtain ⟨rule, -, h⟩ := h
    exact h.ofSite
  next =>
    obtain ⟨rule, -, h⟩ := h
    exact h.ofSite
  next =>
    obtain ⟨rule, -, h⟩ := h
    exact h.ofSite
  next => exact h.elim

lemma Mishap.ofSite {s : Subject} {rules : Rules} {fields : List RequestField} {base : String}
    {failure : Failure} (h : Mishap s rules fields base failure) : failure.OfSite := by
  cases h with
  | field _ h => exact h.ofSite
  | image => exact .reference _

variable (s : Subject) (rules : Rules) (base : String)

lemma failsFor_entriesOf (field : RequestField) :
    FailsFor (FieldMishap s rules base field) (entriesOf s rules base field) := by
  unfold entriesOf FieldMishap
  cases plainSource? field with
  | some plain =>
    obtain ⟨source, key, extraction⟩ := plain
    dsimp only
    cases rules source with
    | none => exact (FailsFor.ok []).congr (by simp)
    | some rule =>
      have hall := (Extraction.failsFor_extract s
        (rule.prepared extraction { multiple := some false })).bind_const fun v _ =>
          FailsFor.ok (if v.isNull then [] else [(key, v)])
      exact hall.congr (by simp)
  | none =>
    cases field with
    | genres =>
      dsimp only
      cases rules .genres with
      | none => exact (FailsFor.ok []).congr (by simp)
      | some rule =>
        have hall := (Extraction.failsFor_extract s
          (rule.prepared { text := some true } { multiple := some true })).bind_const fun v _ =>
            FailsFor.ok [(RecordKey.genres, texts v)]
        exact hall.congr (by simp)
    | chapters =>
      dsimp only
      cases rules .chapters with
      | none => exact (FailsFor.ok []).congr (by simp)
      | some rule =>
        have hall := (Chapter.failsFor_collect s rule base).bind_const fun chapters _ =>
          FailsFor.ok [(RecordKey.chapters, .array (chapters.map Chapter.toJson)),
            (.chapterCount, Json.int chapters.length)]
        exact hall.congr (by simp)
    | id | name | description | image | pageNumber | pageImage => exact FailsFor.ok []

lemma failsFor_addField (r : Record) (field : RequestField) :
    FailsFor (FieldMishap s rules base field) (addField s rules base r field) := by
  rw [addField_eq]
  exact (failsFor_entriesOf s rules base field).map _

lemma failsFor_fields (fields : List RequestField) :
    FailsFor (fun failure => ∃ field ∈ fields, FieldMishap s rules base field failure)
      (fields.foldlM (addField s rules base) empty) :=
  FailsFor.foldlM (fun r field _ => failsFor_addField s rules base r field) empty

/-- The texts in a list are a list of texts. -/
lemma exists_texts (vs : List Json) :
    ∃ names : List String, texts (.array vs) = .array (names.map .string) := by
  have hmap : (vs.filter fun v => v.asString?.isSome) = (vs.filterMap Json.asString?).map .string := by
    induction vs with
    | nil => rfl
    | cons v vs ih =>
      rw [List.filter_cons, List.filterMap_cons]
      cases v with
      | string s => exact congrArg (Json.string s :: ·) ih
      | null | bool _ | int _ | float _ | array _ | object _ => exact ih
  exact ⟨_, congrArg Json.array hmap⟩

/-- The genres that a rule finds are a list of texts. -/
lemma entriesOf_genres {s : Subject} {rules : Rules} {base : String} {rule : FieldRule}
    {entries : List (RecordKey × Json)} (hrule : rules .genres = some rule)
    (h : entriesOf s rules base .genres = .ok entries) :
    ∃ names : List String, entries = [(.genres, .array (names.map .string))] := by
  simp only [entriesOf, plainSource?, hrule] at h
  obtain ⟨v, hv, hpure⟩ := bind_eq_ok.mp h
  obtain ⟨subjects, vs, -, -, rfl⟩ := (Extraction.extract_eq_ok_of_multiple rfl).mp hv
  obtain rfl := pure_eq_ok.mp hpure
  obtain ⟨names, hnames⟩ := exists_texts _
  exact ⟨names, congrArg (fun v => [(RecordKey.genres, v)]) hnames⟩

section

variable {s rules base} {fields : List RequestField} {r : Record}
  (h : fields.foldlM (addField s rules base) empty = .ok r)

include h

/-- The genres of a record are a list of texts, if there are any. -/
lemma get?_genres : r.get? .genres = none ∨
    ∃ names : List String, r.get? .genres = some (.array (names.map .string)) := by
  by_cases hmem : RecordKey.genres.field ∈ fields
  · obtain ⟨entries, hentries, hget⟩ := get?_foldlM_of_mem h hmem
    rw [get?_empty, Option.or_none] at hget
    rw [hget]
    cases hrule : rules .genres with
    | none =>
      have hempty :=
        entriesOf_of_no_rule s base (show RequestField.genres.rule? rules = none from hrule)
      obtain rfl : [] = entries := Except.ok.inj (hempty.symm.trans hentries)
      exact .inl rfl
    | some rule =>
      obtain ⟨names, rfl⟩ := entriesOf_genres hrule hentries
      exact .inr ⟨names, rfl⟩
  · rw [get?_foldlM_of_notMem h hmem]
    exact .inl rfl

/-- The link to the image is the text that the rule for the image finds. -/
lemma get?_image_iff {url : String} : r.get? .image = some (.string url) ↔
    .image ∈ fields ∧ ∃ rule, rules .image = some rule ∧ Extraction.extract s
      (rule.prepared { attr := some (some "src") } { multiple := some false }) =
        .ok (.string url) := by
  by_cases hmem : .image ∈ fields
  · obtain ⟨entries, hentries, hget⟩ :=
      get?_foldlM_of_mem h (show RecordKey.image.field ∈ fields from hmem)
    rw [get?_empty, Option.or_none] at hget
    rw [hget]
    cases hrule : rules .image with
    | none =>
      have hempty :=
        entriesOf_of_no_rule s base (show RequestField.image.rule? rules = none from hrule)
      obtain rfl : [] = entries := Except.ok.inj (hempty.symm.trans hentries)
      simp
    | some rule =>
      simp only [entriesOf, plainSource?, RecordKey.field, hrule] at hentries
      obtain ⟨v, hv, hpure⟩ := bind_eq_ok.mp hentries
      rw [pure_eq_ok.mp hpure]
      cases v <;> simp [hmem, hv, Json.isNull]
  · rw [get?_foldlM_of_notMem h (show RecordKey.image.field ∉ fields from hmem), get?_empty]
    simp [hmem]

end

lemma failsFor_resolveImage (r : Record) :
    FailsFor (fun failure => ∃ url fault, r.get? .image = some (.string url) ∧
      Url.absolute url base = .error fault ∧ failure = .reference fault) (resolveImage base r) := by
  unfold resolveImage
  split
  next url himage =>
    split
    next resolved hresolved =>
      exact (FailsFor.ok _).congr (by simp [himage, hresolved])
    next fault hfault =>
      refine (FailsFor.error_eq _).congr ?_
      simp [himage, hfault, eq_comm]
  next hnone =>
    refine (FailsFor.ok _).congr fun failure => ⟨False.elim, ?_⟩
    rintro ⟨url, -, himage, -⟩
    exact hnone url himage

/-- Genres that are a list of texts are tidied. -/
lemma exists_tidyGenres {r : Record} (h : r.get? .genres = none ∨
    ∃ names : List String, r.get? .genres = some (.array (names.map .string))) :
    ∃ r', tidyGenres r = .ok r' := by
  unfold tidyGenres
  obtain h | ⟨names, h⟩ := h <;> rw [h]
  · exact ⟨r, rfl⟩
  · dsimp only
    rw [labels_strings]
    exact ⟨_, rfl⟩

variable (fields : List RequestField)

/-- The record of a subject fails for its fields and for the link to the image only: the genres are
always a list of texts, which can be tidied. -/
lemma failsFor_assemble :
    FailsFor (Mishap s rules fields base) (assemble s rules fields base) := by
  have hclean (r : Record) (hr : fields.foldlM (addField s rules base) empty = .ok r) :=
    (failsFor_resolveImage base r).bind (f := tidyGenres) (Q := fun _ _ => False) fun r' hr' => by
      obtain ⟨tidied, htidied⟩ := exists_tidyGenres (r := r') (by
        rw [get?_resolveImage hr' (by decide)]
        exact get?_genres hr)
      rw [htidied]
      exact FailsFor.ok tidied
  -- a link that cannot be resolved is in the way even where a field fails
  refine (((failsFor_fields s rules base fields).bind hclean).or (Q := fun failure =>
    .image ∈ fields ∧ ∃ rule url fault, rules .image = some rule ∧
      Extraction.extract s (rule.prepared { attr := some (some "src") } { multiple := some false }) =
        .ok (.string url) ∧ Url.absolute url base = .error fault ∧ failure = .reference fault)
    ?_).congr fun failure => ⟨?_, ?_⟩
  · rintro failure ⟨hfield, rule, url, fault, hrule, hurl, h, rfl⟩ record hok
    obtain ⟨r, hr, hok⟩ := bind_eq_ok.mp hok
    obtain ⟨r', hr', -⟩ := bind_eq_ok.mp hok
    have himage := (get?_image_iff hr).mpr ⟨hfield, rule, hrule, hurl⟩
    exact (failsFor_resolveImage base r).not_ok _ ⟨url, fault, himage, h, rfl⟩ r' hr'
  · rintro ((⟨field, hfield, h⟩ | ⟨r, hr, ⟨url, fault, himage, h, rfl⟩ | ⟨_, _, h⟩⟩) |
      ⟨hfield, rule, url, fault, hrule, hurl, h, rfl⟩)
    · exact .field hfield h
    · obtain ⟨hfield, rule, hrule, hurl⟩ := (get?_image_iff hr).mp himage
      exact .image hfield hrule hurl h
    · exact h.elim
    · exact .image hfield hrule hurl h
  · rintro (⟨hfield, h⟩ | ⟨hfield, hrule, hurl, h⟩)
    · exact .inl (.inl ⟨_, hfield, h⟩)
    · exact .inr ⟨hfield, _, _, _, hrule, hurl, h, rfl⟩

end Record

/-! ### Profiles -/

/-- What goes wrong when the record of a manga is read. -/
inductive Config.Spider.DetailsMishap (source : Source) (p : ProfilePage) (id : String)
    (fields : List RequestField) : Failure → Prop where
  /-- The address of the profile page cannot be put together. -/
  | address {failure : Failure} (h : p.findAddress id = .error failure) :
    DetailsMishap source p id fields failure
  | request {base : String} {failure : Failure} (hbase : p.findAddress id = .ok base)
    (h : source.text base = .error failure) : DetailsMishap source p id fields failure
  | record {base html : String} {failure : Failure} (hbase : p.findAddress id = .ok base)
    (htext : source.text base = .ok (some html))
    (h : Record.Mishap (Chapter.pageOf html) p.target.rule (fields.filter (· ≠ .id)) base failure) :
    DetailsMishap source p id fields failure

namespace Config.Spider

lemma DetailsMishap.ofSite {source : Source} {p : ProfilePage} {id : String}
    {fields : List RequestField} {failure : Failure} (h : DetailsMishap source p id fields failure) :
    failure.OfSite ∨ ∃ url, source.text url = .error failure := by
  cases h with
  | address h => exact .inl (Chapter.ofSite_of_findAddress h)
  | request _ h => exact .inr ⟨_, h⟩
  | record _ _ h => exact .inl h.ofSite

variable (spider : Spider) (source : Source)

/-- What an answer for the profile page at the address `base` gives: the record of the manga, if the
page is there. -/
def answered (p : ProfilePage) (id : String) (fields : List RequestField) (base : String) :
    Option String → Except Failure (Option Record)
  | none => .ok none
  | some html =>
    (Record.assemble (Chapter.pageOf html) p.target.rule (fields.filter (· ≠ .id)) base).map
      fun record => some (record.set .id (.string id))

lemma failsFor_answered (p : ProfilePage) (id : String) (fields : List RequestField) (base : String)
    (answer : Option String) :
    FailsFor (fun failure => ∃ html, answer = some html ∧
      Record.Mishap (Chapter.pageOf html) p.target.rule (fields.filter (· ≠ .id)) base failure)
      (answered p id fields base answer) := by
  cases answer with
  | none => exact (FailsFor.ok none).congr (by simp)
  | some html =>
    exact ((Record.failsFor_assemble (Chapter.pageOf html) p.target.rule base
      (fields.filter (· ≠ .id))).map _).congr (by simp)

/-- A record is read from the answer for the profile page. -/
lemma details_outcome {p : ProfilePage} (hp : spider.site.bind (·.profileById) = some p)
    (id : String) (fields : List RequestField) :
    (spider.details id fields source).outcome =
      (p.findAddress id >>= fun base => source.text base >>= answered p id fields base) := by
  rw [details, hp]
  simp only [Fetching.bind_outcome, Fetching.lift_outcome, Fetching.text_outcome]
  congr 1
  funext base
  congr 1
  funext answer
  cases answer with
  | none => rfl
  | some html =>
    dsimp only
    rw [Fetching.bind_outcome, Fetching.lift_outcome, answered, Chapter.pageOf]
    cases Record.assemble (Subject.ofPage (Markup.document html)) p.target.rule
      (fields.filter (· ≠ .id)) base <;> rfl

/-- The reading of a record fails with a mishap only, and it does not end well where there is
one. -/
lemma failsFor_details {p : ProfilePage} (hp : spider.site.bind (·.profileById) = some p)
    (id : String) (fields : List RequestField) :
    FailsFor (DetailsMishap source p id fields) (spider.details id fields source).outcome := by
  rw [details_outcome spider source hp]
  refine ((FailsFor.error_eq (p.findAddress id)).bind fun base _ =>
    (FailsFor.error_eq (source.text base)).bind fun answer _ =>
      failsFor_answered p id fields base answer).congr fun failure => ⟨?_, ?_⟩
  · rintro (h | ⟨base, hbase, h | ⟨_, htext, html, rfl, h⟩⟩)
    · exact .address h
    · exact .request hbase h
    · exact .record hbase htext h
  · rintro (h | ⟨hbase, h⟩ | ⟨hbase, htext, h⟩)
    · exact .inl h
    · exact .inr ⟨_, hbase, .inl h⟩
    · exact .inr ⟨_, hbase, .inr ⟨_, htext, _, rfl, h⟩⟩

/-- Whatever a site has on its pages and in its rules, and whatever is asked for: a chapter is
resolved, and the record of a manga is read, exactly where there is none of the mishaps, and nothing
but a mishap is a failure. A site without profile pages has none. Where the source answers, each
mishap is JSON that is nested too deep, or a reference, path, selector or pattern that fails outside
what is caught; and no title can be made of a wanted number that has too many digits and is not in the
list of chapters. -/
theorem ends_well_iff (id : Option String) (wanted : Chapter.Wanted) (manga : String)
    (fields : List RequestField) :
    ((∃ r, (Chapter.resolve Script.addresses spider id wanted source).outcome = .ok r) ↔
      ∀ p, spider.site.bind (·.profileById) = some p →
        ∀ failure, ¬ Chapter.Mishap Script.addresses source p id wanted failure) ∧
    (∀ failure, (Chapter.resolve Script.addresses spider id wanted source).outcome =
        .error failure →
      ((failure.OfSite ∨ ∃ url, source.text url = .error failure) ∨
        failure = .tooManyDigits ∧
          ∃ n, wanted.number = some n ∧ (Json.int n).isOverlong = true) ∧
        ∃ p, spider.site.bind (·.profileById) = some p ∧
          Chapter.Mishap Script.addresses source p id wanted failure) ∧
    ((∃ records, (spider.details manga fields source).outcome = .ok records) ↔
      ∀ p, spider.site.bind (·.profileById) = some p →
        ∀ failure, ¬ DetailsMishap source p manga fields failure) ∧
    (∀ failure, (spider.details manga fields source).outcome = .error failure →
      (failure.OfSite ∨ ∃ url, source.text url = .error failure) ∧
        ∃ p, spider.site.bind (·.profileById) = some p ∧
          DetailsMishap source p manga fields failure) := by
  cases hp : spider.site.bind (·.profileById) with
  | none =>
    have hdetails : spider.details manga fields source = ⟨[], .ok none⟩ := by
      rw [details, hp]
      rfl
    rw [Chapter.resolve_of_no_profile hp, hdetails]
    simp
  | some p =>
    have hresolve := Chapter.failsFor_resolve Script.addresses source hp id wanted
    have hdetails := failsFor_details spider source hp manga fields
    refine ⟨?_, ?_, ?_, ?_⟩
    · rw [hresolve.exists_ok_iff]
      simp
    · intro failure h
      have hmishap := hresolve.of_error failure h
      exact ⟨hmishap.ofSite, p, rfl, hmishap⟩
    · rw [hdetails.exists_ok_iff]
      simp
    · intro failure h
      have hmishap := hdetails.of_error failure h
      exact ⟨hmishap.ofSite, p, rfl, hmishap⟩

/-- An address with brackets that enclose no host leaves no result, not even an empty one: as the
address of the wanted chapter, with nothing fetched, and as a link on the profile page. -/
theorem resolve_of_malformed_address :
    (∀ r, (Chapter.resolve Script.addresses Chapter.plainSpider (some "m") ⟨none, some "//["⟩
      ⟨fun _ => .ok none, fun _ => .ok none, fun _ => .ok none⟩).outcome ≠ .ok r) ∧
    ∀ r, (Chapter.resolve Script.addresses Chapter.plainSpider (some "m") ⟨some 1, none⟩
      ⟨fun _ => .ok (some "<a href='//['>T</a>"), fun _ => .ok none, fun _ => .ok none⟩).outcome ≠
        .ok r := by
  constructor
  · exact ne_ok_of_toOption (by decide +kernel)
  · exact ne_ok_of_toOption (by decide +kernel)

end Config.Spider

end MangaShelf
