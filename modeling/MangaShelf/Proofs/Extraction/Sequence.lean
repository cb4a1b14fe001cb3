import Mathlib.Data.List.Forall2
import MangaShelf.Markup.Document
import MangaShelf.Proofs.Extraction.Shape
import MangaShelf.Proofs.Selector.Order

/-!
# Values in sequence

A rule for several values takes them from one candidate after the other, and only then puts the
whole list in order: `extract_in_sequence`. So what it extracts is joined from what it extracts from
each candidate alone, the newest first is this list from the other end, and a candidate that has
nothing leaves no trace.
-/

namespace MangaShelf.Extraction

open Config (Arranger FieldRule)

variable {s c : Subject} {rule : FieldRule} {subjects : List Subject} {vs part : List Json}

/-! ### Results of several candidates -/

/-- The values that a rule, without its selector and its order, takes from each of some subjects. -/
def Parts (rule : FieldRule) (subjects : List Subject) (parts : List (List Json)) : Prop :=
  List.Forall₂
    (fun c part => extract c { rule with selector := none, arranger := none } = .ok (.array part))
    subjects parts

lemma resultsOf_nil (rule : FieldRule) : resultsOf rule [] = .ok [] := rfl

lemma resultsOf_cons_eq_ok :
    resultsOf rule (c :: subjects) = .ok vs ↔
      ∃ v rest, read c rule = .ok v ∧ resultsOf rule subjects = .ok rest ∧
        vs = results v ++ rest := by
  rw [resultsOf_eq_ok]
  constructor
  · rintro ⟨values, hvalues, rfl⟩
    obtain ⟨v, others, hv, hothers, rfl⟩ := mapM_cons_eq_ok.mp hvalues
    exact ⟨v, others.flatMap results, hv, resultsOf_eq_ok.mpr ⟨others, hothers, rfl⟩,
      List.flatMap_cons⟩
  · rintro ⟨v, rest, hv, hrest, rfl⟩
    obtain ⟨others, hothers, rfl⟩ := resultsOf_eq_ok.mp hrest
    exact ⟨v :: others, mapM_cons_eq_ok.mpr ⟨v, others, hv, hothers, rfl⟩, List.flatMap_cons.symm⟩

/-- A candidate alone gives its results. -/
lemma extract_candidate (hmultiple : rule.multiple = true) :
    extract c { rule with selector := none, arranger := none } = .ok (.array part) ↔
      ∃ v, read c rule = .ok v ∧ part = results v := by
  refine (extract_eq_ok_of_multiple (by exact hmultiple)).trans ?_
  constructor
  · rintro ⟨candidates, vs, hcandidates, hvs, hpart⟩
    obtain rfl : [c] = candidates := Except.ok.inj hcandidates
    obtain ⟨v, rest, hv, hrest, rfl⟩ := resultsOf_cons_eq_ok.mp hvs
    obtain rfl : [] = rest := Except.ok.inj hrest
    refine ⟨v, hv, ?_⟩
    rw [Json.array.inj hpart, List.append_nil]
    rfl
  · rintro ⟨v, hv, rfl⟩
    refine ⟨[c], results v, rfl, ?_, rfl⟩
    exact resultsOf_cons_eq_ok.mpr ⟨v, [], hv, resultsOf_nil rule, (List.append_nil _).symm⟩

/-- The results of some subjects are joined from what each of them gives alone. -/
lemma resultsOf_eq_ok_iff_parts (hmultiple : rule.multiple = true) :
    resultsOf rule subjects = .ok vs ↔
      ∃ parts, Parts rule subjects parts ∧ vs = parts.flatten := by
  induction subjects generalizing vs with
  | nil =>
    rw [resultsOf_nil]
    constructor
    · rintro ⟨⟩
      exact ⟨[], .nil, rfl⟩
    · rintro ⟨parts, hparts, rfl⟩
      cases hparts
      rfl
  | cons c subjects ih =>
    rw [resultsOf_cons_eq_ok]
    constructor
    · rintro ⟨v, rest, hv, hrest, rfl⟩
      obtain ⟨parts, hparts, rfl⟩ := ih.mp hrest
      exact ⟨results v :: parts, .cons ((extract_candidate hmultiple).mpr ⟨v, hv, rfl⟩) hparts, rfl⟩
    · rintro ⟨parts, hparts, rfl⟩
      cases hparts with
      | cons hfirst hothers =>
        obtain ⟨v, hv, rfl⟩ := (extract_candidate hmultiple).mp hfirst
        exact ⟨v, _, hv, ih.mpr ⟨_, hothers, rfl⟩, rfl⟩

/-- A subject without values may be left out. -/
lemma resultsOf_without (hmultiple : rule.multiple = true)
    (hnothing : extract c { rule with selector := none, arranger := none } = .ok (.array []))
    (before after : List Subject) :
    resultsOf rule (before ++ c :: after) = .ok vs ↔
      resultsOf rule (before ++ after) = .ok vs := by
  induction before generalizing vs with
  | nil =>
    obtain ⟨v, hv, hresults⟩ := (extract_candidate hmultiple).mp hnothing
    rw [List.nil_append, List.nil_append, resultsOf_cons_eq_ok]
    simp [hv, ← hresults]
  | cons d before ih =>
    rw [List.cons_append, List.cons_append, resultsOf_cons_eq_ok, resultsOf_cons_eq_ok]
    simp only [ih]

/-! ### Orders -/

/-- The order of a rule for several values shows only when all of them are there. -/
lemma extract_arranged (hmultiple : rule.multiple = true) (order : Option Arranger) :
    extract s { rule with arranger := order } =
      (s.candidates rule.selector >>= resultsOf rule).map fun vs =>
        .array (Arranger.arrange order vs) := by
  unfold extract
  dsimp only
  cases s.candidates rule.selector with
  | error failure => rfl
  | ok subjects =>
    show (if rule.multiple = true then _ else _ : Except Failure Json) = _
    rw [if_pos hmultiple]
    show (resultsOf rule subjects >>= _) = (resultsOf rule subjects).map _
    cases resultsOf rule subjects <;> rfl

/-- What a rule for several values extracts in the order of the page. -/
lemma extract_unarranged_eq_ok {v : Json} (hmultiple : rule.multiple = true) :
    extract s { rule with arranger := none } = .ok v ↔
      ∃ candidates vs, s.candidates rule.selector = .ok candidates ∧
        resultsOf rule candidates = .ok vs ∧ v = .array vs :=
  extract_eq_ok_of_multiple hmultiple

lemma extract_unarranged_of_parts {v : Json} (hmultiple : rule.multiple = true) :
    extract s { rule with arranger := none } = .ok v ↔
      ∃ candidates parts, s.candidates rule.selector = .ok candidates ∧
        Parts rule candidates parts ∧ v = .array parts.flatten := by
  rw [extract_unarranged_eq_ok hmultiple]
  constructor
  · rintro ⟨candidates, vs, hcandidates, hvs, rfl⟩
    obtain ⟨parts, hparts, rfl⟩ := (resultsOf_eq_ok_iff_parts hmultiple).mp hvs
    exact ⟨candidates, parts, hcandidates, hparts, rfl⟩
  · rintro ⟨candidates, parts, hcandidates, hparts, rfl⟩
    exact ⟨candidates, parts.flatten, hcandidates,
      (resultsOf_eq_ok_iff_parts hmultiple).mpr ⟨parts, hparts, rfl⟩, rfl⟩

/-- A candidate without values may be left out. -/
lemma extract_without {v : Json} {before after : List Subject} (hmultiple : rule.multiple = true)
    (hcandidates : s.candidates rule.selector = .ok (before ++ c :: after))
    (hnothing : Parts rule [c] [[]]) :
    extract s { rule with arranger := none } = .ok v ↔
      ∃ parts, Parts rule (before ++ after) parts ∧ v = .array parts.flatten := by
  obtain ⟨hnothing, -⟩ := List.forall₂_cons.mp hnothing
  rw [extract_unarranged_eq_ok hmultiple]
  constructor
  · rintro ⟨candidates, vs, hothers, hvs, rfl⟩
    obtain rfl := Except.ok.inj (hcandidates.symm.trans hothers)
    rw [resultsOf_without hmultiple hnothing, resultsOf_eq_ok_iff_parts hmultiple] at hvs
    obtain ⟨parts, hparts, rfl⟩ := hvs
    exact ⟨parts, hparts, rfl⟩
  · rintro ⟨parts, hparts, rfl⟩
    refine ⟨_, parts.flatten, hcandidates, ?_, rfl⟩
    rw [resultsOf_without hmultiple hnothing, resultsOf_eq_ok_iff_parts hmultiple]
    exact ⟨parts, hparts, rfl⟩

/-- A rule for several values, without an order or with the oldest first, extracts what it extracts
from each of its candidates alone, one after the other; a candidate that gives nothing may as well
not be there. With the newest first it extracts the same list from the other end. A rule for one
value has no order. -/
theorem extract_in_sequence (s : Subject) (rule : FieldRule) :
    (rule.multiple = true →
      (∀ v, extract s { rule with arranger := none } = .ok v ↔
        ∃ candidates parts, s.candidates rule.selector = .ok candidates ∧
          Parts rule candidates parts ∧ v = .array parts.flatten) ∧
      extract s { rule with arranger := some .oldestFirst } =
        extract s { rule with arranger := none } ∧
      (∀ vs, extract s { rule with arranger := some .newestFirst } = .ok (.array vs.reverse) ↔
        extract s { rule with arranger := none } = .ok (.array vs)) ∧
      ∀ before c after, s.candidates rule.selector = .ok (before ++ c :: after) →
        Parts rule [c] [[]] →
        ∀ v, extract s { rule with arranger := none } = .ok v ↔
          ∃ parts, Parts rule (before ++ after) parts ∧ v = .array parts.flatten) ∧
    (rule.multiple = false →
      ∀ order, extract s { rule with arranger := order } = extract s rule) := by
  refine ⟨fun hmultiple => ⟨fun v => extract_unarranged_of_parts hmultiple, ?_, fun vs => ?_,
    fun before c after hcandidates hnothing v =>
      extract_without hmultiple hcandidates hnothing⟩, fun hsingle order => ?_⟩
  · rw [extract_arranged hmultiple, extract_arranged hmultiple]
    rfl
  · rw [extract_arranged hmultiple, extract_arranged hmultiple, map_eq_ok, map_eq_ok]
    simp [Arranger.arrange]
  · unfold extract
    dsimp only
    rw [hsingle]
    rfl

/-- A page with a list that is embedded, an element with nothing to take, and one with an id. -/
def mixedPage : Markup.Node :=
  Markup.document "<p>[\"1\", null, \"2\"]</p><p></p><p id=\"b\"></p>"

/-- A rule that takes embedded JSON or an id, the newest first. -/
def mixedRule : FieldRule :=
  { FieldRule.empty with
    selector := some "p"
    attr := some "id"
    multiple := true
    parsesJson := true
    arranger := some .newestFirst }

/-- The paragraphs of the page. -/
def paragraphs : List Subject :=
  (Selector.ofName (some "p") (Markup.Cursor.ofRoot mixedPage).selfAndDescendants).map .element

lemma candidates_mixedPage : (Subject.ofPage mixedPage).candidates (some "p") = .ok paragraphs :=
  Subject.candidates_of_name _ (by decide) rfl

/-- From the list, the element with nothing to take and the id come three values, and with the
newest first the same from the other end. -/
theorem extract_in_sequence_of_mixed :
    ∃ parts, Parts mixedRule paragraphs parts ∧
      parts.flatten.map Json.asString? = [some "1", some "2", some "b"] ∧
      extract (.ofPage mixedPage) { mixedRule with arranger := none } =
        .ok (.array parts.flatten) ∧
      extract (.ofPage mixedPage) mixedRule = .ok (.array parts.flatten.reverse) := by
  have htexts : (resultsOf mixedRule paragraphs).toOption.map (·.map Json.asString?) =
      some [some "1", some "2", some "b"] := by
    decide +kernel
  obtain ⟨vs, hvs, htexts⟩ := Option.map_eq_some_iff.mp htexts
  obtain ⟨parts, hparts, rfl⟩ := (resultsOf_eq_ok_iff_parts rfl).mp (toOption_eq_some.mp hvs)
  obtain ⟨hjoined, -, hreversed, -⟩ := (extract_in_sequence (.ofPage mixedPage) mixedRule).1 rfl
  have h := (hjoined _).mpr ⟨paragraphs, parts, candidates_mixedPage, hparts, rfl⟩
  exact ⟨parts, hparts, htexts, h, (hreversed _).mpr h⟩

end MangaShelf.Extraction
