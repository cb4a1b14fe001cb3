import Mathlib.Tactic.Lemma
import MangaShelf.Proofs.Run
import MangaShelf.Record.Assembly

/-!
# How the fields of a record come together

Each requested field adds entries of its own, whatever other fields are requested:
`get?_assemble_of_mem` says that the value under a key is what the field of that key adds. Cleaning
up changes only the image and the genres.
-/

namespace MangaShelf

/-! ### Entries -/

/-- The requested field that sets an entry of a record. -/
def RecordKey.field : RecordKey → RequestField
  | .id => .id
  | .name => .name
  | .description => .description
  | .genres => .genres
  | .image => .image
  | .chapters => .chapters
  | .chapterCount => .chapters

/-- The entries of a record that a requested field sets, in order. -/
def RequestField.keys (field : RequestField) : List RecordKey :=
  RecordKey.all.filter (·.field = field)

lemma RequestField.mem_keys {field : RequestField} {key : RecordKey} :
    key ∈ field.keys ↔ key.field = field := by
  have hall : key ∈ RecordKey.all := by cases key <;> decide
  simp [keys, hall]

lemma RequestField.keys_nodup (field : RequestField) : field.keys.Nodup :=
  List.Pairwise.filter _ (by decide)

/-- The rule that a requested field is read by. -/
def RequestField.rule? (rules : Record.Rules) : RequestField → Option Config.FieldRule
  | .id => rules .mangaId
  | .name => rules .name
  | .description => rules .description
  | .genres => rules .genres
  | .image => rules .image
  | .chapters => rules .chapters
  | .pageNumber | .pageImage => none

lemma RecordKey.word_inj {key key' : RecordKey} : key.word = key'.word ↔ key = key' := by
  constructor
  · cases key <;> cases key' <;> decide
  · rintro rfl
    rfl

namespace Record

open Config (Field FieldRule)
open Extraction (Subject)

lemma lookup_cons_eq (key k : RecordKey) (v : Json) (rest : List (RecordKey × Json)) :
    ((k, v) :: rest).lookup key = if key = k then some v else rest.lookup key := by
  rw [List.lookup_cons]
  by_cases h : key = k
  · simp [h]
  · rw [beq_false_of_ne h, if_neg h]

lemma lookup_eq_none {entries : List (RecordKey × Json)} {key : RecordKey}
    (h : key ∉ entries.map (·.1)) : entries.lookup key = none := by
  rw [List.lookup_eq_none_iff]
  intro e he
  have hne : key ≠ e.1 := fun heq => h (List.mem_map.mpr ⟨e, he, heq.symm⟩)
  simpa using hne

lemma lookup_setEntry (key key' : RecordKey) (v : Json) (entries : List (RecordKey × Json)) :
    (setEntry key v entries).lookup key' = if key' = key then some v else entries.lookup key' := by
  induction entries with
  | nil => rw [setEntry, lookup_cons_eq]
  | cons e rest ih =>
    obtain ⟨k, w⟩ := e
    rw [setEntry]
    by_cases hk : k = key
    · subst hk
      rw [if_pos rfl, lookup_cons_eq, lookup_cons_eq]
      by_cases h : key' = k <;> simp [h]
    · rw [if_neg hk, lookup_cons_eq, lookup_cons_eq, ih]
      by_cases h : key' = k
      · subst h
        simp [hk]
      · rw [if_neg h, if_neg h]

/-- A record as a value has its values under the words for their fields. -/
lemma get?_toJson (r : Record) (key : RecordKey) : r.toJson.get? key.word = r.get? key := by
  obtain ⟨entries⟩ := r
  show Json.member? key.word (entries.map fun e => (e.1.word, e.2)) = entries.lookup key
  induction entries with
  | nil => rfl
  | cons e rest ih =>
    rw [lookup_cons_eq, List.map_cons, Json.member?, ih]
    simp only [RecordKey.word_inj, eq_comm]

/-- A record as a value has nothing else. -/
lemma get?_toJson_iff {r : Record} {word : String} {v : Json} :
    r.toJson.get? word = some v ↔ ∃ key : RecordKey, key.word = word ∧ r.get? key = some v := by
  constructor
  · intro h
    obtain ⟨entries⟩ := r
    obtain ⟨key, rfl⟩ : ∃ key : RecordKey, key.word = word := by
      replace h : Json.member? word (entries.map fun e => (e.1.word, e.2)) = some v := h
      induction entries with
      | nil => cases h
      | cons e rest ih =>
        rw [List.map_cons, Json.member?] at h
        split at h
        next hkey => exact ⟨e.1, hkey⟩
        next => exact ih h
    exact ⟨key, rfl, get?_toJson ⟨entries⟩ key ▸ h⟩
  · rintro ⟨key, rfl, h⟩
    rw [get?_toJson, h]

@[simp] lemma get?_set (r : Record) (key key' : RecordKey) (v : Json) :
    (r.set key v).get? key' = if key' = key then some v else r.get? key' :=
  lookup_setEntry key key' v r.entries

@[simp] lemma get?_empty (key : RecordKey) : empty.get? key = none := rfl

/-- A record with some entries set, one after the other. -/
def setAll (r : Record) (entries : List (RecordKey × Json)) : Record :=
  entries.foldl (fun r e => r.set e.1 e.2) r

lemma get?_setAll {entries : List (RecordKey × Json)} (r : Record) (key : RecordKey)
    (hkeys : (entries.map (·.1)).Nodup) :
    (r.setAll entries).get? key = (entries.lookup key).or (r.get? key) := by
  induction entries generalizing r with
  | nil => rfl
  | cons e rest ih =>
    obtain ⟨k, v⟩ := e
    rw [List.map_cons, List.nodup_cons] at hkeys
    have hset : (r.setAll ((k, v) :: rest)).get? key = ((r.set k v).setAll rest).get? key := rfl
    rw [hset, ih _ hkeys.2, get?_set]
    rw [lookup_cons_eq]
    by_cases h : key = k
    · subst h
      rw [if_pos rfl, if_pos rfl, lookup_eq_none hkeys.1]
      rfl
    · rw [if_neg h, if_neg h]

/-! ### Fields -/

variable {s : Subject} {rules : Rules} {base : String}

/-- The entries that a requested field adds to a record. -/
def entriesOf (s : Subject) (rules : Rules) (base : String) (field : RequestField) :
    Except Failure (List (RecordKey × Json)) :=
  match plainSource? field, field with
  | some (source, key, extraction), _ =>
    match rules source with
    | none => .ok []
    | some rule => do
      let v ← Extraction.extract s (rule.prepared extraction { multiple := some false })
      return if v.isNull then [] else [(key, v)]
  | none, .genres =>
    match rules .genres with
    | none => .ok []
    | some rule => do
      let v ← Extraction.extract s (rule.prepared { text := some true } { multiple := some true })
      return [(.genres, texts v)]
  | none, .chapters =>
    match rules .chapters with
    | none => .ok []
    | some rule => do
      let chapters ← Chapter.collect s (some rule) base
      return [(.chapters, .array (chapters.map Chapter.toJson)),
        (.chapterCount, .int chapters.length)]
  | none, _ => .ok []

/-- A field without a rule adds nothing. -/
lemma entriesOf_of_no_rule (s : Subject) (base : String) {field : RequestField}
    (h : field.rule? rules = none) : entriesOf s rules base field = .ok [] := by
  cases field with
  | id | name | description | genres | image | chapters =>
    simp only [RequestField.rule?] at h
    simp [entriesOf, plainSource?, h]
  | pageNumber | pageImage => rfl

/-- A requested field does nothing but add its entries. -/
lemma addField_eq (r : Record) (field : RequestField) :
    addField s rules base r field = (entriesOf s rules base field).map r.setAll := by
  unfold addField entriesOf
  cases hplain : plainSource? field with
  | some plain =>
    obtain ⟨source, key, extraction⟩ := plain
    cases hrule : rules source with
    | none => simp [hrule, Except.map, setAll]
    | some rule =>
      cases hv : Extraction.extract s (rule.prepared extraction { multiple := some false }) with
      | error failure => simp [hrule, hv, bind, Except.bind, Except.map]
      | ok v =>
        cases hnull : v.isNull <;>
          simp [hrule, hv, hnull, bind, Except.bind, pure, Except.pure, Except.map, setAll]
  | none =>
    cases field with
    | genres =>
      cases rules .genres with
      | none => rfl
      | some rule =>
        cases hv : Extraction.extract s
            (rule.prepared { text := some true } { multiple := some true }) <;>
          simp [hv, bind, Except.bind, pure, Except.pure, Except.map, setAll]
    | chapters =>
      cases rules .chapters with
      | none => rfl
      | some rule =>
        cases hcs : Chapter.collect s (some rule) base <;>
          simp [hcs, bind, Except.bind, pure, Except.pure, Except.map, setAll]
    | id | name | description | image => cases hplain
    | pageNumber | pageImage => rfl

/-- A field that is read as it stands has one entry. -/
lemma keys_of_plain {field : RequestField} {source : Field} {key : RecordKey}
    {extraction : FieldRule.Extraction} (h : plainSource? field = some (source, key, extraction)) :
    field.keys = [key] := by
  cases field with
  | id | name | description | image =>
    simp only [plainSource?, Option.some.injEq, Prod.mk.injEq] at h
    obtain ⟨-, rfl, -⟩ := h
    rfl
  | genres | chapters | pageNumber | pageImage => cases h

/-- A field adds entries of its own only, each at most once. -/
lemma keys_sublist {field : RequestField} {entries : List (RecordKey × Json)}
    (h : entriesOf s rules base field = .ok entries) :
    (entries.map (·.1)).Sublist field.keys := by
  unfold entriesOf at h
  cases hplain : plainSource? field with
  | some plain =>
    obtain ⟨source, key, extraction⟩ := plain
    have hkeys := keys_of_plain hplain
    rw [hplain] at h
    dsimp only at h
    split at h
    · cases h
      exact List.nil_sublist _
    · obtain ⟨v, -, h⟩ := bind_eq_ok.mp h
      rw [pure_eq_ok.mp h, hkeys]
      split
      · exact List.nil_sublist _
      · exact List.Sublist.refl _
  | none =>
    rw [hplain] at h
    cases field with
    | genres =>
      dsimp only at h
      split at h
      · cases h
        exact List.nil_sublist _
      · obtain ⟨v, -, h⟩ := bind_eq_ok.mp h
        rw [pure_eq_ok.mp h]
        exact List.Sublist.refl _
    | chapters =>
      dsimp only at h
      split at h
      · cases h
        exact List.nil_sublist _
      · obtain ⟨chapters, -, h⟩ := bind_eq_ok.mp h
        rw [pure_eq_ok.mp h]
        exact List.Sublist.refl _
    | id | name | description | image => cases hplain
    | pageNumber | pageImage =>
      cases h
      exact List.nil_sublist _

/-- What adding a field does to each entry. -/
lemma get?_addField {r r' : Record} {field : RequestField}
    (h : addField s rules base r field = .ok r') :
    ∃ entries, entriesOf s rules base field = .ok entries ∧
      ∀ key, r'.get? key =
        if key.field = field then (entries.lookup key).or (r.get? key) else r.get? key := by
  rw [addField_eq] at h
  cases hes : entriesOf s rules base field with
  | error failure =>
    rw [hes] at h
    cases h
  | ok entries =>
    rw [hes] at h
    obtain rfl : r.setAll entries = r' := by simpa [Except.map] using h
    have hkeys := keys_sublist hes
    refine ⟨entries, rfl, fun key => ?_⟩
    rw [get?_setAll r key (hkeys.nodup field.keys_nodup)]
    by_cases hf : key.field = field
    · rw [if_pos hf]
    · have hnone : entries.lookup key = none :=
        lookup_eq_none fun hmem => hf (RequestField.mem_keys.mp (hkeys.subset hmem))
      rw [if_neg hf, hnone, Option.none_or]

/-! ### Whole records -/

variable {fields : List RequestField} {r r' : Record}

/-- Fields that are not requested stay as they are. -/
lemma get?_foldlM_of_notMem (h : fields.foldlM (addField s rules base) r = .ok r')
    {key : RecordKey} (hkey : key.field ∉ fields) : r'.get? key = r.get? key := by
  induction fields generalizing r with
  | nil =>
    obtain rfl : r' = r := pure_eq_ok.mp h
    rfl
  | cons field rest ih =>
    rw [List.foldlM_cons] at h
    obtain ⟨r₁, hr₁, hrest⟩ := bind_eq_ok.mp h
    obtain ⟨entries, -, hget⟩ := get?_addField hr₁
    rw [List.mem_cons, not_or] at hkey
    rw [ih hrest hkey.2, hget, if_neg hkey.1]

/-- A requested field is read once, however often it is requested and whatever else is. -/
lemma get?_foldlM_of_mem (h : fields.foldlM (addField s rules base) r = .ok r')
    {key : RecordKey} (hkey : key.field ∈ fields) :
    ∃ entries, entriesOf s rules base key.field = .ok entries ∧
      r'.get? key = (entries.lookup key).or (r.get? key) := by
  induction fields generalizing r with
  | nil => cases hkey
  | cons field rest ih =>
    rw [List.foldlM_cons] at h
    obtain ⟨r₁, hr₁, hrest⟩ := bind_eq_ok.mp h
    obtain ⟨entries, hentries, hget⟩ := get?_addField hr₁
    by_cases hmem : key.field ∈ rest
    · obtain ⟨entries', hentries', hget'⟩ := ih hrest hmem
      refine ⟨entries', hentries', ?_⟩
      rw [hget', hget]
      by_cases hf : key.field = field
      · -- the field comes twice: the same entries are set again
        obtain rfl : entries' = entries := by
          rw [hf, hentries] at hentries'
          exact (Except.ok.inj hentries').symm
        rw [if_pos hf]
        cases entries'.lookup key <;> rfl
      · rw [if_neg hf]
    · have hf : key.field = field := (List.mem_cons.mp hkey).resolve_right hmem
      refine ⟨entries, hf ▸ hentries, ?_⟩
      rw [get?_foldlM_of_notMem hrest hmem, hget, if_pos hf]

/-! ### Cleaning up -/

/-- A link to the image is replaced by the resolved one; anything else stays as it is. -/
lemma resolveImage_cases (h : resolveImage base r = .ok r') :
    (∃ url resolved, r.get? .image = some (.string url) ∧ Url.absolute url base = .ok resolved ∧
      r' = r.set .image (.string resolved)) ∨
    ((∀ url, r.get? .image ≠ some (.string url)) ∧ r' = r) := by
  unfold resolveImage at h
  split at h
  next url himage =>
    split at h
    next resolved hresolved => exact .inl ⟨url, resolved, himage, hresolved, (Except.ok.inj h).symm⟩
    next => cases h
  next hnone => exact .inr ⟨hnone, (Except.ok.inj h).symm⟩

/-- Genres are replaced by their labels, made tidy, if there are any. -/
lemma tidyGenres_cases (h : tidyGenres r = .ok r') :
    (∃ v names, r.get? .genres = some v ∧ labels v = .ok names ∧
      r' = r.set .genres (.array ((tidy names).map .string))) ∨
    (r.get? .genres = none ∧ r' = r) := by
  unfold tidyGenres at h
  split at h
  next hnone => exact .inr ⟨hnone, (Except.ok.inj h).symm⟩
  next v hv =>
    obtain ⟨names, hnames, h⟩ := bind_eq_ok.mp h
    exact .inl ⟨v, names, hv, hnames, pure_eq_ok.mp h⟩

lemma get?_resolveImage (h : resolveImage base r = .ok r') {key : RecordKey} (hkey : key ≠ .image) :
    r'.get? key = r.get? key := by
  rcases resolveImage_cases h with ⟨url, resolved, -, -, rfl⟩ | ⟨-, rfl⟩
  · rw [get?_set, if_neg hkey]
  · rfl

lemma get?_tidyGenres (h : tidyGenres r = .ok r') {key : RecordKey} (hkey : key ≠ .genres) :
    r'.get? key = r.get? key := by
  rcases tidyGenres_cases h with ⟨v, names, -, -, rfl⟩ | ⟨-, rfl⟩
  · rw [get?_set, if_neg hkey]
  · rfl

/-- Cleaning up touches the image and the genres only. -/
lemma get?_clean (h : clean base r = .ok r') {key : RecordKey} (himage : key ≠ .image)
    (hgenres : key ≠ .genres) : r'.get? key = r.get? key := by
  obtain ⟨resolved, hresolved, htidied⟩ := bind_eq_ok.mp h
  rw [get?_tidyGenres htidied hgenres, get?_resolveImage hresolved himage]

/-- What becomes of the value of a field. -/
def cleanedValue (base : String) : RecordKey → Json → Except Failure Json
  | .image, .string url =>
    match Url.absolute url base with
    | .ok resolved => .ok (.string resolved)
    | .error fault => .error (.reference fault)
  | .genres, v => do return .array ((tidy (← labels v)).map .string)
  | _, v => .ok v

/-- A cleaned record has the same fields as before, each with its value cleaned. -/
lemma get?_clean_cases (h : clean base r = .ok r') (key : RecordKey) :
    (r.get? key = none ∧ r'.get? key = none) ∨
      ∃ v v', r.get? key = some v ∧ cleanedValue base key v = .ok v' ∧ r'.get? key = some v' := by
  have hkept (heq : r'.get? key = r.get? key)
      (hvalue : ∀ v, r.get? key = some v → cleanedValue base key v = .ok v) :
      (r.get? key = none ∧ r'.get? key = none) ∨
        ∃ v v', r.get? key = some v ∧ cleanedValue base key v = .ok v' ∧ r'.get? key = some v' := by
    cases hv : r.get? key with
    | none => exact .inl ⟨rfl, heq.trans hv⟩
    | some v => exact .inr ⟨v, v, rfl, hvalue v hv, heq.trans hv⟩
  obtain ⟨resolved, hresolved, htidied⟩ := bind_eq_ok.mp h
  cases key with
  | image =>
    have hlater := get?_tidyGenres htidied (show RecordKey.image ≠ .genres by decide)
    rcases resolveImage_cases hresolved with ⟨url, address, hurl, haddress, rfl⟩ | ⟨hnone, rfl⟩
    · rw [get?_set, if_pos rfl] at hlater
      refine .inr ⟨_, _, hurl, ?_, hlater⟩
      rw [cleanedValue, haddress]
    · refine hkept hlater fun v hv => ?_
      cases v with
      | string url => exact absurd hv (hnone url)
      | null | bool _ | int _ | float _ | array _ | object _ => rfl
  | genres =>
    have hearlier := get?_resolveImage hresolved (show RecordKey.genres ≠ .image by decide)
    rcases tidyGenres_cases htidied with ⟨v, names, hv, hnames, rfl⟩ | ⟨hnone, rfl⟩
    · refine .inr ⟨v, _, hearlier ▸ hv, ?_, by rw [get?_set, if_pos rfl]⟩
      rw [cleanedValue, hnames]
      rfl
    · exact .inl ⟨hearlier ▸ hnone, hnone⟩
  | id | name | description | chapters | chapterCount =>
    exact hkept (get?_clean h (by decide) (by decide)) fun _ _ => rfl

/-- A record holds what its requested fields add, the image and the genres after the cleanup. -/
lemma get?_assemble_of_mem (h : assemble s rules fields base = .ok r) (key : RecordKey)
    (himage : key ≠ .image) (hgenres : key ≠ .genres) (hkey : key.field ∈ fields) :
    ∃ entries, entriesOf s rules base key.field = .ok entries ∧ r.get? key = entries.lookup key := by
  obtain ⟨r₁, hr₁, hclean⟩ := bind_eq_ok.mp h
  obtain ⟨entries, hentries, hget⟩ := get?_foldlM_of_mem hr₁ hkey
  refine ⟨entries, hentries, ?_⟩
  rw [get?_clean hclean himage hgenres, hget, get?_empty, Option.or_none]

/-- A field that is not requested, or has no rule, has no value. -/
lemma get?_assemble_eq_none (h : assemble s rules fields base = .ok r) {key : RecordKey}
    (hkey : key.field ∉ fields ∨ key.field.rule? rules = none) : r.get? key = none := by
  obtain ⟨raw, hraw, hclean⟩ := bind_eq_ok.mp h
  have hnone : raw.get? key = none := by
    by_cases hmem : key.field ∈ fields
    · obtain ⟨entries, hentries, hget⟩ := get?_foldlM_of_mem hraw hmem
      have hempty := entriesOf_of_no_rule s base (hkey.resolve_left (not_not_intro hmem))
      rw [hget, ← Except.ok.inj (hempty.symm.trans hentries)]
      rfl
    · rw [get?_foldlM_of_notMem hraw hmem, get?_empty]
  rcases get?_clean_cases hclean key with ⟨-, hcleaned⟩ | ⟨v, -, hv, -⟩
  · exact hcleaned
  · rw [hnone] at hv
    cases hv

/-- A record with chapters has the chapters of the page and their number. -/
lemma get?_chapters {rule : FieldRule} (h : assemble s rules fields base = .ok r)
    (hchapters : .chapters ∈ fields) (hrule : rules .chapters = some rule) :
    ∃ chapters, Chapter.collect s (some rule) base = .ok chapters ∧
      r.get? .chapters = some (.array (chapters.map Chapter.toJson)) ∧
      r.get? .chapterCount = some (.int chapters.length) := by
  obtain ⟨entries, hentries, hlist⟩ :=
    get?_assemble_of_mem h .chapters (by decide) (by decide) hchapters
  obtain ⟨entries', hentries', hcount⟩ :=
    get?_assemble_of_mem h .chapterCount (by decide) (by decide) hchapters
  obtain rfl : entries = entries' := Except.ok.inj (hentries.symm.trans hentries')
  simp only [entriesOf, plainSource?, RecordKey.field, hrule] at hentries
  obtain ⟨chapters, hcollect, hpure⟩ := bind_eq_ok.mp hentries
  obtain rfl := pure_eq_ok.mp hpure
  exact ⟨chapters, hcollect, hlist, hcount⟩

end Record

end MangaShelf
