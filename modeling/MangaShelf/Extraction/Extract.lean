import MangaShelf.Extraction.Reading

/-!
# Applying a rule

A rule applied to a subject: the values of all its candidates as one list, or the first plain value
of the first candidate.
-/

namespace MangaShelf

/-- A list in the wanted order; pages show the oldest entries first. -/
def Config.Arranger.arrange {α : Type} (order : Option Config.Arranger) (xs : List α) : List α :=
  match order with
  | some .newestFirst => xs.reverse
  | _ => xs

namespace Extraction

open Config (Arranger FieldRule)

mutual

/-- The first value inside a value that is neither a list nor null, if there is one. -/
def leaf? : Json → Option Json
  | .null => none
  | .array vs => firstLeaf? vs
  | v => some v

/-- The first value inside some values that is neither a list nor null. -/
def firstLeaf? : List Json → Option Json
  | [] => none
  | v :: vs =>
    match leaf? v with
    | some found => some found
    | none => firstLeaf? vs

end

/-- The first value that is neither a list nor null; null if there is none. -/
def firstScalar (vs : List Json) : Json :=
  (firstLeaf? vs).getD .null

/-- The results that a value contributes: the items of a list, and never null. -/
def results : Json → List Json
  | .null => []
  | .array vs => dropNulls vs
  | v => [v]

/-- The results of all subjects, in order. -/
def resultsOf (rule : FieldRule) (subjects : List Subject) : Except Failure (List Json) := do
  return (← subjects.mapM fun s => read s rule).flatMap results

/-- The value of a rule for a subject. -/
def extract (s : Subject) (rule : FieldRule) : Except Failure Json := do
  let subjects ← s.candidates rule.selector
  if rule.multiple then
    return .array (Arranger.arrange rule.arranger (← resultsOf rule subjects))
  else
    return firstScalar (← resultsOf rule (subjects.take 1))

end Extraction

end MangaShelf
