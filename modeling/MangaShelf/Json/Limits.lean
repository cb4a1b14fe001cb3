import MangaShelf.Json.Reader

/-!
# Values that can be written

A value with a whole number of too many digits cannot be written, nor one that is nested too deep.
No value that has been read is like that; but numbers grow when they are calculated with, and
values are put into others.
-/

namespace MangaShelf.Json

mutual

/-- The value has a whole number of more digits than are written. -/
def isOverlong : Json → Bool
  | .int n => maxDigits < (Nat.toDigits 10 n.natAbs).length
  | .array vs => anyOverlong vs
  | .object ms => anyOverlongMember ms
  | _ => false

/-- One of some values has such a number. -/
def anyOverlong : List Json → Bool
  | [] => false
  | v :: vs => isOverlong v || anyOverlong vs

/-- One of some members has such a number. -/
def anyOverlongMember : List (String × Json) → Bool
  | [] => false
  | (_, v) :: rest => isOverlong v || anyOverlongMember rest

end

mutual

/-- How many containers are nested inside each other. -/
def depth : Json → Nat
  | .array vs => depthOfItems vs + 1
  | .object ms => depthOfMembers ms + 1
  | _ => 0

/-- The depth of the deepest of some values. -/
def depthOfItems : List Json → Nat
  | [] => 0
  | v :: vs => max (depth v) (depthOfItems vs)

/-- The depth of the deepest of some members. -/
def depthOfMembers : List (String × Json) → Nat
  | [] => 0
  | (_, v) :: rest => max (depth v) (depthOfMembers rest)

end

/-- The value can be written. -/
def isWritable (v : Json) : Bool :=
  v.depth ≤ maxDepth && !v.isOverlong

end MangaShelf.Json
