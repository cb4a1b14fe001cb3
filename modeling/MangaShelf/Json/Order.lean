import MangaShelf.Decimal.Shortest
import MangaShelf.Json.Value

/-!
# Comparing values

Equality and order of values. Numbers and truth values compare by size, whatever their form; texts
and lists compare piece by piece; all other pairs have no order.
-/

namespace MangaShelf.Json

/-- A number, exact if it is whole. -/
inductive Number where
  | int (n : Int)
  | float (x : Float)

/-- The number that a value stands for. -/
def number? : Json → Option Number
  | .bool b => some (.int (if b then 1 else 0))
  | .int n => some (.int n)
  | .float x => some (.float x)
  | _ => none

/-- A number as a fraction, if it is finite. -/
def Number.fraction? : Number → Option (Int × Nat)
  | .int n => some (n, 1)
  | .float x =>
    if x.isNaN || x.isInf then none
    else
      match Decimal.Binary.ofBits? x.abs.toBits.toNat with
      | none => some (0, 1)
      | some b => some (if x < 0 then -b.fraction.1 else b.fraction.1, b.fraction.2)

/-- What stands for a number where it is compared with one that is not finite. -/
def Number.besideInfinite : Number → Float
  | .int _ => 0
  | .float x => x

/-- Two numbers are equal. -/
def Number.same (a b : Number) : Bool :=
  match a.fraction?, b.fraction? with
  | some (m, d), some (n, e) => m * e == n * d
  | _, _ => a.besideInfinite == b.besideInfinite

/-- The first number is smaller. -/
def Number.below (a b : Number) : Bool :=
  match a.fraction?, b.fraction? with
  | some (m, d), some (n, e) => m * e < n * d
  | _, _ => a.besideInfinite < b.besideInfinite

mutual

/-- Two values are equal; the members of objects may come in any order. -/
def same : Json → Json → Bool
  | .null, .null => true
  | .string s, .string t => s == t
  | .array vs, .array ws => sameItems vs ws
  | .object ms, .object ns => ms.length == ns.length && sameMembers ms ns
  | .null, _ => false
  | .string _, _ => false
  | .array _, _ => false
  | .object _, _ => false
  | .bool b, w => sameNumber (.int (if b then 1 else 0)) w
  | .int n, w => sameNumber (.int n) w
  | .float x, w => sameNumber (.float x) w

/-- A number is equal to a value. -/
def sameNumber (a : Number) (w : Json) : Bool :=
  match number? w with
  | some b => a.same b
  | none => false

/-- Two lists are equal. -/
def sameItems : List Json → List Json → Bool
  | [], [] => true
  | v :: vs, w :: ws => same v w && sameItems vs ws
  | _, _ => false

/-- All members of the first object stand in the second one. -/
def sameMembers : List (String × Json) → List (String × Json) → Bool
  | [], _ => true
  | (k, v) :: rest, ns =>
    (match member? k ns with
      | some w => same v w
      | none => false) && sameMembers rest ns

end

/-- The first text comes first by its characters. -/
def textBelow (s t : String) : Bool :=
  s < t

/-- The first value is smaller; nothing when the two have no order. -/
def below? : Json → Json → Option Bool
  | .string s, .string t => some (textBelow s t)
  | .array vs, .array ws => listBelow? vs ws
  | v, w =>
    match number? v, number? w with
    | some a, some b => some (a.below b)
    | _, _ => none
where
  /-- The first list is smaller: by the first items that differ, or by its length. -/
  listBelow? : List Json → List Json → Option Bool
    | _, [] => some false
    | [], _ :: _ => some true
    | v :: vs, w :: ws => if same v w then listBelow? vs ws else below? v w

end MangaShelf.Json
