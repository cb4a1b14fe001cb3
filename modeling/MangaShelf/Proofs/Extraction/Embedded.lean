import Mathlib.Tactic.ByContra
import Mathlib.Tactic.Lemma
import MangaShelf.Extraction.Extract
import MangaShelf.Markup.Document
import MangaShelf.Proofs.Run

/-!
# Embedded JSON comes first

When a rule asks for embedded JSON, a candidate that holds some is read as what is embedded, and any
other candidate as if the rule had not asked: `read_embedded_first`. The only candidates that come
off worse are those on which the reading fails, by JSON that is nested too deep or by a path that
cannot be used.
-/

namespace MangaShelf

/-- The rule that does not ask for embedded JSON. -/
def Config.FieldRule.plain (rule : Config.FieldRule) : Config.FieldRule :=
  { rule with parsesJson := false, jsonPath := none }

namespace Extraction

open Config (Arranger FieldRule)

variable {s : Subject} {rule : FieldRule}

/-! ### Subjects with embedded JSON -/

/-- The text that a rule reads as JSON: that of the subject without the blanks around it, when the
rule asks for JSON and something is left. -/
def Embeds (s : Subject) (rule : FieldRule) (text : String) : Prop :=
  rule.parsesJson = true ∧ (∃ whole, s.text? = some whole ∧ text = Text.trim whole) ∧ text ≠ ""

/-- What is chosen from the values that a path finds: the items of a single list, or else the
values themselves. -/
def choice : List Json → List Json
  | [.array items] => items
  | found => found

/-- The embedded JSON of a subject decides for a value: it is this value and not null, or the path
of the rule finds this list of values other than null in it, at least one. -/
inductive Decides (s : Subject) (rule : FieldRule) : Json → Prop where
  | whole {text : String} {v : Json} (htext : Embeds s rule text) (hv : Json.parse text = .ok v)
      (hpath : given rule.jsonPath = none) (hnull : v ≠ .null) : Decides s rule v
  | chosen {text path : String} {v : Json} {found : List Json}
      (htext : Embeds s rule text) (hv : Json.parse text = .ok v)
      (hpath : given rule.jsonPath = some path) (hfound : JsonPath.select path v = .ok found)
      (hsome : ∃ w ∈ choice found, w ≠ .null) :
      Decides s rule (.array (dropNulls (choice found)))

/-- The reading of embedded JSON fails: it is nested too deep, or the path fails on it. -/
inductive Fails (s : Subject) (rule : FieldRule) : Failure → Prop where
  | tooDeep {text : String} (htext : Embeds s rule text)
      (hdeep : Json.parse text = .error .tooDeep) : Fails s rule .tooDeep
  | path {text path : String} {v : Json} {fault : JsonPath.Fault}
      (htext : Embeds s rule text) (hv : Json.parse text = .ok v)
      (hpath : given rule.jsonPath = some path) (hfault : JsonPath.select path v = .error fault) :
      Fails s rule (.path fault)

/-! ### Reading embedded JSON -/

lemma isNull_iff {v : Json} : v.isNull = true ↔ v = .null := by
  cases v <;> simp [Json.isNull]

lemma dropNulls_eq_nil_iff {vs : List Json} : dropNulls vs = [] ↔ ¬ ∃ v ∈ vs, v ≠ .null := by
  simp [dropNulls, List.filter_eq_nil_iff, isNull_iff]

lemma selected_of_ok {path : String} {v : Json} {found : List Json}
    (h : JsonPath.select path v = .ok found) : selected path v = .ok (dropNulls (choice found)) := by
  rw [selected, h]
  unfold choice
  split <;> simp_all

lemma selected_of_error {path : String} {v : Json} {fault : JsonPath.Fault}
    (h : JsonPath.select path v = .error fault) : selected path v = .error (.path fault) := by
  rw [selected, h]

/-- Without a text to be read as JSON, the embedded JSON is passed over. -/
lemma fromJson_of_not_embeds (h : ∀ text, ¬ Embeds s rule text) : fromJson s rule = .ok none := by
  unfold fromJson
  cases hasks : rule.parsesJson with
  | false => rfl
  | true =>
    cases hwhole : s.text? with
    | none => rfl
    | some whole =>
      have hblank : Text.trim whole = "" := by
        by_contra hne
        exact h _ ⟨hasks, ⟨whole, hwhole, rfl⟩, hne⟩
      simp only [Bool.not_true, Bool.false_eq_true, if_false, hblank, if_true]
      rfl

/-- A text that is read as JSON is passed over, fails, or holds a value from which is taken what
the rule asks for. -/
lemma fromJson_of_embeds {text : String} (h : Embeds s rule text) :
    fromJson s rule = match Json.parse text with
      | .error .tooDeep => .error .tooDeep
      | .error _ => .ok none
      | .ok v =>
        match given rule.jsonPath with
        | none => .ok (if v.isNull then none else some v)
        | some path =>
          (selected path v).map fun found => if found.isEmpty then none else some (.array found) := by
  obtain ⟨hasks, ⟨whole, hwhole, rfl⟩, hne⟩ := h
  unfold fromJson embedded
  rw [hasks, hwhole]
  simp only [Bool.not_true, Bool.false_eq_true, if_false, hne]
  cases Json.parse (Text.trim whole) with
  | error e => cases e <;> rfl
  | ok v => cases given rule.jsonPath <;> rfl

lemma fromJson_of_decides {v : Json} (h : Decides s rule v) : fromJson s rule = .ok (some v) := by
  cases h with
  | whole htext hparse hpath hnull =>
    rw [fromJson_of_embeds htext]
    simp [hparse, hpath, isNull_iff, hnull]
  | @chosen _ _ _ found htext hparse hpath hfound hsome =>
    have hne : ¬ (dropNulls (choice found)).isEmpty = true := by
      rw [List.isEmpty_iff, dropNulls_eq_nil_iff, not_not]
      exact hsome
    rw [fromJson_of_embeds htext]
    simp [hparse, hpath, selected_of_ok hfound, Except.map, hne]

lemma fromJson_of_fails {failure : Failure} (h : Fails s rule failure) :
    fromJson s rule = .error failure := by
  cases h with
  | tooDeep htext hdeep =>
    rw [fromJson_of_embeds htext, hdeep]
  | path htext hparse hpath hfault =>
    rw [fromJson_of_embeds htext]
    simp [hparse, hpath, selected_of_error hfault, Except.map]

/-- Embedded JSON is passed over where it neither decides nor fails. -/
lemma fromJson_cases (s : Subject) (rule : FieldRule) :
    fromJson s rule = .ok none ∨ (∃ v, Decides s rule v) ∨ ∃ failure, Fails s rule failure := by
  by_cases htext : ∃ text, Embeds s rule text
  · obtain ⟨text, htext⟩ := htext
    rw [fromJson_of_embeds htext]
    cases hparse : Json.parse text with
    | error e =>
      cases e with
      | tooDeep => exact .inr (.inr ⟨_, .tooDeep htext hparse⟩)
      | malformed _ | tooManyDigits => exact .inl rfl
    | ok v =>
      cases hpath : given rule.jsonPath with
      | none =>
        by_cases hnull : v = .null
        · exact .inl (by simp [isNull_iff, hnull])
        · exact .inr (.inl ⟨v, .whole htext hparse hpath hnull⟩)
      | some path =>
        cases hfound : JsonPath.select path v with
        | error fault => exact .inr (.inr ⟨_, .path htext hparse hpath hfound⟩)
        | ok found =>
          by_cases hsome : ∃ w ∈ choice found, w ≠ .null
          · exact .inr (.inl ⟨_, .chosen htext hparse hpath hfound hsome⟩)
          · rw [← dropNulls_eq_nil_iff] at hsome
            exact .inl (by simp [selected_of_ok hfound, Except.map, hsome])
  · exact .inl (fromJson_of_not_embeds fun text ht => htext ⟨text, ht⟩)

/-- The embedded JSON gives the values for which it decides. -/
lemma fromJson_eq_ok_some {v : Json} : fromJson s rule = .ok (some v) ↔ Decides s rule v := by
  refine ⟨fun h => ?_, fromJson_of_decides⟩
  rcases fromJson_cases s rule with hpassed | ⟨w, hw⟩ | ⟨failure, hfails⟩
  · simp [hpassed] at h
  · obtain rfl : w = v := by simpa [fromJson_of_decides hw] using h
    exact hw
  · simp [fromJson_of_fails hfails] at h

/-! ### Reading candidates -/

/-- A rule reads embedded JSON in the same way, whatever else it would take. -/
lemma Decides.congr {v : Json} {other : FieldRule} (h : Decides s rule v)
    (hasks : other.parsesJson = rule.parsesJson) (hpath : other.jsonPath = rule.jsonPath) :
    Decides s other v := by
  have hembeds {text : String} (htext : Embeds s rule text) : Embeds s other text :=
    ⟨hasks.trans htext.1, htext.2⟩
  cases h with
  | whole htext hv hgiven hnull => exact .whole (hembeds htext) hv (hpath ▸ hgiven) hnull
  | chosen htext hv hgiven hfound hsome =>
    exact .chosen (hembeds htext) hv (hpath ▸ hgiven) hfound hsome

lemma read_of_decides {v : Json} (h : Decides s rule v) : read s rule = .ok v := by
  rw [read, fromJson_of_decides h]
  rfl

lemma read_of_fails {failure : Failure} (h : Fails s rule failure) :
    read s rule = .error failure := by
  rw [read, fromJson_of_fails h]
  rfl

/-- The plain rule never fails on a candidate. -/
lemma exists_read_plain (s : Subject) (rule : FieldRule) : ∃ v, read s rule.plain = .ok v :=
  ⟨_, rfl⟩

/-- Where the embedded JSON is passed over, nothing tells that it was asked for. -/
lemma read_eq_plain (hdecides : ∀ v, ¬ Decides s rule v) (hfails : ∀ failure, ¬ Fails s rule failure) :
    read s rule = read s rule.plain := by
  have hpassed : fromJson s rule = .ok none := by
    rcases fromJson_cases s rule with hpassed | ⟨v, hv⟩ | ⟨failure, hfailure⟩
    · exact hpassed
    · exact absurd hv (hdecides v)
    · exact absurd hfailure (hfails failure)
  have hplain : fromJson s rule.plain = .ok none := rfl
  rw [read, read, hpassed, hplain]
  rfl

lemma read_ne_plain_of_fails {failure : Failure} (h : Fails s rule failure) :
    read s rule ≠ read s rule.plain := by
  obtain ⟨v, hv⟩ := exists_read_plain s rule
  rw [read_of_fails h, hv]
  exact fun heq => nomatch heq

/-! ### Extraction -/

/-- The candidates that a rule reads: all of them, or only the first. -/
def readBy (rule : FieldRule) (subjects : List Subject) : List Subject :=
  if rule.multiple then subjects else subjects.take 1

lemma mem_of_mem_readBy {subjects : List Subject} {c : Subject} (h : c ∈ readBy rule subjects) :
    c ∈ subjects := by
  unfold readBy at h
  split at h
  · exact h
  · exact List.mem_of_mem_take h

/-- What a rule makes of the results of its candidates. -/
def gathered (rule : FieldRule) (vs : List Json) : Json :=
  if rule.multiple then .array (Arranger.arrange rule.arranger vs) else firstScalar vs

lemma extract_of_candidates {subjects : List Subject}
    (h : s.candidates rule.selector = .ok subjects) :
    extract s rule = (resultsOf rule (readBy rule subjects)).map (gathered rule) := by
  unfold extract gathered readBy
  rw [h]
  cases rule.multiple with
  | true => cases hresults : resultsOf rule subjects <;> simp [bind, Except.bind, hresults] <;> rfl
  | false =>
    cases hresults : resultsOf rule (subjects.take 1) <;>
      simp [bind, Except.bind, hresults] <;> rfl

lemma extract_of_no_candidates {failure : Failure}
    (h : s.candidates rule.selector = .error failure) : extract s rule = .error failure := by
  rw [extract, h]
  rfl

/-- The plain rule gathers the results of any candidates. -/
lemma exists_resultsOf_plain (rule : FieldRule) (subjects : List Subject) :
    ∃ vs, resultsOf rule.plain subjects = .ok vs := by
  obtain ⟨read, hread⟩ : ∃ read, subjects.mapM (Extraction.read · rule.plain) = .ok read :=
    exists_mapM_eq_ok fun c _ => exists_read_plain c rule
  exact ⟨read.flatMap results, bind_eq_ok.mpr ⟨read, hread, rfl⟩⟩

/-- Where there are results, the reading of embedded JSON has failed on no candidate. -/
lemma not_fails_of_resultsOf {subjects : List Subject} {vs : List Json}
    (h : resultsOf rule subjects = .ok vs) {c : Subject} (hc : c ∈ subjects) (failure : Failure) :
    ¬ Fails c rule failure := by
  intro hfails
  obtain ⟨values, hvalues, -⟩ := bind_eq_ok.mp h
  obtain ⟨v, hv⟩ := exists_eq_ok_of_mapM hvalues hc
  rw [read_of_fails hfails] at hv
  cases hv

/-- Embedded JSON decides for a candidate exactly when the text of it is JSON in which there is
something, and then the candidate is read as that, whatever text and attribute it has. A candidate
for which it does not decide is read as by the plain rule, unless the reading of the embedded JSON
fails; and what is extracted by a rule for which it decides on no candidate is what the plain rule
extracts, unless the reading fails on a candidate that is read. -/
theorem read_embedded_first (s : Subject) (rule : FieldRule) :
    (∀ v, fromJson s rule = .ok (some v) ↔ Decides s rule v) ∧
    (∀ v, Decides s rule v →
      ∀ (text : Bool) (attr : Option String), read s { rule with text, attr } = .ok v) ∧
    ((∀ v, ¬ Decides s rule v) →
      (read s rule = read s rule.plain ↔ ∀ failure, ¬ Fails s rule failure)) ∧
    ((∀ subjects, s.candidates rule.selector = .ok subjects →
        ∀ c ∈ subjects, ∀ v, ¬ Decides c rule v) →
      (extract s rule = extract s rule.plain ↔
        ∀ subjects, s.candidates rule.selector = .ok subjects →
          ∀ c ∈ readBy rule subjects, ∀ failure, ¬ Fails c rule failure)) := by
  refine ⟨fun v => fromJson_eq_ok_some, fun v h text attr => read_of_decides (h.congr rfl rfl),
    fun hdecides => ⟨fun heq failure hfails => read_ne_plain_of_fails hfails heq,
      read_eq_plain hdecides⟩, fun hdecides => ?_⟩
  cases hsubjects : s.candidates rule.selector with
  | error failure =>
    have hplain : s.candidates rule.plain.selector = .error failure := hsubjects
    simp [extract_of_no_candidates hsubjects, extract_of_no_candidates hplain]
  | ok subjects =>
    have hplain : s.candidates rule.plain.selector = .ok subjects := hsubjects
    rw [extract_of_candidates hsubjects, extract_of_candidates hplain]
    constructor
    · intro heq others hothers c hc failure
      obtain rfl := Except.ok.inj hothers
      obtain ⟨vs, hvs⟩ := exists_resultsOf_plain rule (readBy rule.plain subjects)
      rw [hvs] at heq
      cases hresults : resultsOf rule (readBy rule subjects) with
      | ok found => exact not_fails_of_resultsOf hresults hc failure
      | error other =>
        rw [hresults] at heq
        cases heq
    · intro hfails
      have hread : ∀ c ∈ readBy rule subjects, read c rule = read c rule.plain := fun c hc =>
        read_eq_plain (hdecides subjects hsubjects c (mem_of_mem_readBy hc)) (hfails subjects rfl c hc)
      have hresults :
          resultsOf rule (readBy rule subjects) = resultsOf rule.plain (readBy rule subjects) := by
        rw [resultsOf, resultsOf, mapM_congr hread]
      rw [hresults]
      rfl

/-- A rule whose path has an operator with malformed arguments. -/
def malformedOperatorRule : FieldRule :=
  { FieldRule.empty with
    selector := some "p"
    text := true
    parsesJson := true
    jsonPath := some "$.\x60sub(x)\x60" }

/-- A path with a malformed operator decides on no candidate, but what is extracted is not what the
plain rule extracts. -/
theorem extract_of_malformed_operator :
    (∀ subjects, (Subject.ofPage (Markup.document "<p>[1]</p>")).candidates
        malformedOperatorRule.selector = .ok subjects →
      ∀ c ∈ subjects, ∀ v, ¬ Decides c malformedOperatorRule v) ∧
    extract (Subject.ofPage (Markup.document "<p>[1]</p>")) malformedOperatorRule ≠
      extract (Subject.ofPage (Markup.document "<p>[1]</p>")) malformedOperatorRule.plain := by
  constructor
  · intro subjects hsubjects c hc v hdecides
    have hpassed : ((Subject.ofPage (Markup.document "<p>[1]</p>")).candidates
        malformedOperatorRule.selector).toOption.map
          (·.all fun c => (fromJson c malformedOperatorRule).toOption.isNone) = some true := by
      decide +kernel
    rw [hsubjects] at hpassed
    have hnone := List.all_eq_true.mp (Option.some.inj hpassed) c hc
    rw [fromJson_eq_ok_some.mpr hdecides] at hnone
    cases hnone
  · intro heq
    have hfails : (extract (Subject.ofPage (Markup.document "<p>[1]</p>"))
        malformedOperatorRule).toOption.isNone := by
      decide +kernel
    have hplain : (extract (Subject.ofPage (Markup.document "<p>[1]</p>"))
        malformedOperatorRule.plain).toOption.isSome := by
      decide +kernel
    rw [heq] at hfails
    rw [Option.isNone_iff_eq_none] at hfails
    simp [hfails] at hplain

end Extraction

end MangaShelf
