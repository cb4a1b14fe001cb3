import MangaShelf.Extraction.Extract
import MangaShelf.Proofs.Run

/-!
# The shape of extracted values

A rule for several values gives a list without null, and a rule for one value never gives a list:
it takes the first leaf, in reading order, of what its first candidate holds. Leaves are told by
`Json.leaves`, which walks nested lists depth first, and `leaf?` finds the first of them.
-/

namespace MangaShelf

/-! ### Leaves -/

namespace Json

mutual

/-- The values inside a value that are neither lists nor null, depth first from left to right. -/
def leaves : Json → List Json
  | .null => []
  | .array vs => leavesOf vs
  | v => [v]

/-- The leaves of some values. -/
def leavesOf : List Json → List Json
  | [] => []
  | v :: vs => leaves v ++ leavesOf vs

end

/-- A value that is neither a list nor null. -/
def IsLeaf (v : Json) : Prop :=
  v ≠ .null ∧ ∀ vs, v ≠ .array vs

mutual

lemma isLeaf_of_mem_leaves {v leaf : Json} (h : leaf ∈ v.leaves) : leaf.IsLeaf := by
  match v with
  | .null => simp [leaves] at h
  | .array vs =>
    rw [leaves] at h
    exact isLeaf_of_mem_leavesOf h
  | .bool _ | .int _ | .float _ | .string _ | .object _ =>
    simp only [leaves, List.mem_singleton] at h
    simp [h, IsLeaf]

lemma isLeaf_of_mem_leavesOf {vs : List Json} {leaf : Json} (h : leaf ∈ leavesOf vs) :
    leaf.IsLeaf := by
  match vs with
  | [] => simp [leavesOf] at h
  | v :: vs =>
    rw [leavesOf, List.mem_append] at h
    rcases h with h | h
    · exact isLeaf_of_mem_leaves h
    · exact isLeaf_of_mem_leavesOf h

end

end Json

/-- The rule that takes everything from one candidate, in the order of the page. -/
def Config.FieldRule.alone (rule : Config.FieldRule) : Config.FieldRule :=
  { rule with selector := none, multiple := true, arranger := none }

namespace Extraction

open Config (Arranger FieldRule)

mutual

lemma leaf?_eq_head? (v : Json) : leaf? v = v.leaves.head? := by
  match v with
  | .array vs => rw [leaf?, Json.leaves, firstLeaf?_eq_head? vs]
  | .null | .bool _ | .int _ | .float _ | .string _ | .object _ => simp [leaf?, Json.leaves]

lemma firstLeaf?_eq_head? (vs : List Json) : firstLeaf? vs = (Json.leavesOf vs).head? := by
  match vs with
  | [] => rfl
  | v :: vs =>
    rw [firstLeaf?, Json.leavesOf, List.head?_append, leaf?_eq_head? v, firstLeaf?_eq_head? vs]
    cases v.leaves.head? <;> rfl

end

/-- The value taken from some values is their first leaf. -/
lemma firstScalar_eq (vs : List Json) :
    firstScalar vs = (Json.leavesOf vs).head?.getD .null := by
  rw [firstScalar, firstLeaf?_eq_head?]

lemma firstScalar_ne_array (vs items : List Json) : firstScalar vs ≠ .array items := by
  rw [firstScalar_eq]
  cases h : (Json.leavesOf vs).head? with
  | none => simp
  | some leaf => exact (Json.isLeaf_of_mem_leavesOf (List.mem_of_head? h)).2 items

/-! ### Results of candidates -/

lemma null_notMem_dropNulls (vs : List Json) : .null ∉ dropNulls vs := by
  simp [dropNulls, Json.isNull]

lemma null_notMem_results (v : Json) : .null ∉ results v := by
  cases v with
  | array vs => exact null_notMem_dropNulls vs
  | null | bool _ | int _ | float _ | string _ | object _ => simp [results]

/-- What some subjects hold is what they are read as, each split into its results. -/
lemma resultsOf_eq_ok {rule : FieldRule} {subjects : List Subject} {vs : List Json} :
    resultsOf rule subjects = .ok vs ↔
      ∃ read, subjects.mapM (fun s => Extraction.read s rule) = .ok read ∧
        vs = read.flatMap results := by
  rw [resultsOf, bind_eq_ok]
  simp only [pure_eq_ok]

lemma null_notMem_resultsOf {rule : FieldRule} {subjects : List Subject} {vs : List Json}
    (h : resultsOf rule subjects = .ok vs) : .null ∉ vs := by
  obtain ⟨read, -, rfl⟩ := resultsOf_eq_ok.mp h
  intro hmem
  obtain ⟨v, -, hv⟩ := List.mem_flatMap.mp hmem
  exact null_notMem_results v hv

@[simp] lemma mem_arrange {α : Type} {order : Option Arranger} {xs : List α} {x : α} :
    x ∈ Arranger.arrange order xs ↔ x ∈ xs := by
  unfold Arranger.arrange
  split <;> simp

lemma arrange_of_ne {α : Type} {order : Option Arranger} (h : order ≠ some .newestFirst)
    (xs : List α) : Arranger.arrange order xs = xs := by
  unfold Arranger.arrange
  split
  · exact absurd rfl h
  · rfl

/-! ### Extraction -/

/-- A rule for several values gives the results of all candidates in the wanted order. -/
lemma extract_eq_ok_of_multiple {s : Subject} {rule : FieldRule} {v : Json}
    (hm : rule.multiple = true) :
    extract s rule = .ok v ↔ ∃ subjects vs, s.candidates rule.selector = .ok subjects ∧
      resultsOf rule subjects = .ok vs ∧ v = .array (Arranger.arrange rule.arranger vs) := by
  rw [extract, bind_eq_ok]
  constructor
  · rintro ⟨subjects, hsubjects, h⟩
    rw [if_pos hm] at h
    obtain ⟨vs, hvs, h⟩ := bind_eq_ok.mp h
    exact ⟨subjects, vs, hsubjects, hvs, pure_eq_ok.mp h⟩
  · rintro ⟨subjects, vs, hsubjects, hvs, rfl⟩
    refine ⟨subjects, hsubjects, ?_⟩
    rw [if_pos hm]
    exact bind_eq_ok.mpr ⟨vs, hvs, rfl⟩

/-- A rule for one value gives the first leaf of the results of the first candidate. -/
lemma extract_eq_ok_of_single {s : Subject} {rule : FieldRule} {v : Json}
    (hm : rule.multiple = false) :
    extract s rule = .ok v ↔ ∃ subjects vs, s.candidates rule.selector = .ok subjects ∧
      resultsOf rule (subjects.take 1) = .ok vs ∧ v = firstScalar vs := by
  rw [extract, bind_eq_ok]
  constructor
  · rintro ⟨subjects, hsubjects, h⟩
    rw [if_neg (by simp [hm])] at h
    obtain ⟨vs, hvs, h⟩ := bind_eq_ok.mp h
    exact ⟨subjects, vs, hsubjects, hvs, pure_eq_ok.mp h⟩
  · rintro ⟨subjects, vs, hsubjects, hvs, rfl⟩
    refine ⟨subjects, hsubjects, ?_⟩
    rw [if_neg (by simp [hm])]
    exact bind_eq_ok.mpr ⟨vs, hvs, rfl⟩

/-- A rule applied to one of its candidates alone gives all results of that candidate. -/
lemma extract_alone {s : Subject} {rule : FieldRule} {v : Json} (h : read s rule = .ok v) :
    extract s rule.alone = .ok (.array (results v)) := by
  have hread : [s].mapM (fun s => read s rule.alone) = .ok [v] :=
    mapM_cons_eq_ok.mpr ⟨v, [], h, rfl, rfl⟩
  have hresults : resultsOf rule.alone [s] = .ok (results v) :=
    resultsOf_eq_ok.mpr ⟨[v], hread, by simp⟩
  exact (extract_eq_ok_of_multiple rfl).mpr ⟨[s], results v, rfl, hresults, rfl⟩

/-- A rule for several values gives a list without null. A rule for one value never gives a list,
but the first leaf of what the rule finds in the first candidate alone, and null when there is no
candidate or no leaf. -/
theorem extract_shape {s : Subject} {rule : FieldRule} {v : Json} (h : extract s rule = .ok v) :
    (rule.multiple = true → ∃ vs, v = .array vs ∧ .null ∉ vs) ∧
    (rule.multiple = false → (∀ vs, v ≠ .array vs) ∧
      ∃ candidates, s.candidates rule.selector = .ok candidates ∧
        (candidates = [] → v = .null) ∧
        ∀ first rest, candidates = first :: rest → ∃ vs,
          extract first rule.alone = .ok (.array vs) ∧
            v = (Json.leavesOf vs).head?.getD .null) := by
  constructor
  · intro hm
    obtain ⟨subjects, vs, -, hvs, rfl⟩ := (extract_eq_ok_of_multiple hm).mp h
    exact ⟨_, rfl, fun hnull => null_notMem_resultsOf hvs (mem_arrange.mp hnull)⟩
  · intro hm
    obtain ⟨subjects, vs, hsubjects, hvs, rfl⟩ := (extract_eq_ok_of_single hm).mp h
    refine ⟨firstScalar_ne_array vs, subjects, hsubjects, ?_, ?_⟩
    · rintro rfl
      obtain ⟨read, hread, rfl⟩ := resultsOf_eq_ok.mp hvs
      obtain rfl := pure_eq_ok.mp hread
      rfl
    · rintro first rest rfl
      obtain ⟨read, hread, rfl⟩ := resultsOf_eq_ok.mp hvs
      obtain ⟨value, others, hvalue, hothers, rfl⟩ := mapM_cons_eq_ok.mp hread
      obtain rfl : others = [] := pure_eq_ok.mp hothers
      refine ⟨results value, extract_alone hvalue, ?_⟩
      rw [List.flatMap_singleton, firstScalar_eq]

/-- In nested lists with nulls and an empty list the first leaf is the object. -/
theorem extract_shape_of_nested :
    extract (.value (.array [.null, .array [.array [], .object [("a", .int 1)]], .int 3])) .empty =
        .ok (.object [("a", .int 1)]) ∧
      ∀ vs, Json.object [("a", .int 1)] ≠ .array vs :=
  have h : extract
      (.value (.array [.null, .array [.array [], .object [("a", .int 1)]], .int 3])) .empty =
        .ok (.object [("a", .int 1)]) := rfl
  ⟨h, ((extract_shape h).2 rfl).1⟩

end Extraction

end MangaShelf
