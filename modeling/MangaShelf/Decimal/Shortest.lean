/-!
# Shortest decimals

The decimal with the fewest digits that reads back as a given binary floating-point number, and
among those the nearest one. A positive finite number is `mantissa * 2 ^ exponent`; it reads back
from every real number that is nearer to it than to its two neighbours, the borders included
exactly when the mantissa is even.
-/

namespace MangaShelf.Decimal

/-- A positive binary number `mantissa * 2 ^ exponent`. -/
structure Binary where
  mantissa : Nat
  exponent : Int
  /-- The neighbour below is only half as far away as the one above. -/
  narrowBelow : Bool
  deriving DecidableEq

/-- Decimal digits `d₁d₂…` and a point position: the value is `0.d₁d₂… * 10 ^ point`. -/
structure Digits where
  digits : List Char
  point : Int
  deriving DecidableEq

/-- The positive number that the low 63 bits of a finite double stand for; `none` for zero. -/
def Binary.ofBits? (bits : Nat) : Option Binary :=
  let fraction : Nat := bits % Nat.pow 2 52
  let biased : Nat := bits / Nat.pow 2 52 % Nat.pow 2 11
  if biased = 0 then
    if fraction = 0 then none else some ⟨fraction, -1074, false⟩
  else
    some ⟨Nat.pow 2 52 + fraction, Int.ofNat biased - 1075, fraction = 0 && biased != 1⟩

/-- A fraction `numerator / denominator` equal to a binary number. -/
def Binary.fraction (b : Binary) : Nat × Nat :=
  if b.exponent < 0 then (b.mantissa, Nat.pow 2 b.exponent.natAbs)
  else (b.mantissa * Nat.pow 2 b.exponent.natAbs, 1)

/-- The number of decimal digits before the point; negative for leading zeros after it. -/
def Binary.magnitude (b : Binary) : Int :=
  let (num, den) := b.fraction
  ((Nat.toDigits 10 (num * Nat.pow 10 400 / den)).length : Int) - 400

/-- `candidate / scale` reads back as `b`, where `unit / scale` is one unit of the mantissa. -/
def Binary.readsBack (b : Binary) (candidate unit : Nat) : Bool :=
  let value := b.mantissa * unit
  let above : Bool :=
    if b.mantissa % 2 = 0 then 2 * candidate ≤ 2 * value + unit
    else 2 * candidate < 2 * value + unit
  let below : Bool :=
    if b.narrowBelow then 4 * value ≤ 4 * candidate + unit
    else if b.mantissa % 2 = 0 then 2 * value ≤ 2 * candidate + unit
    else 2 * value < 2 * candidate + unit
  above && below

/-- The nearest of the two neighbours of `b` on the grid of `count` digits, if it reads back. -/
def Binary.onGrid? (b : Binary) (count : Nat) : Option Nat :=
  let shift := (count : Int) - b.magnitude
  let (num, den) := b.fraction
  let scaledNum := if shift < 0 then num else num * Nat.pow 10 shift.natAbs
  let scaledDen := if shift < 0 then den * Nat.pow 10 shift.natAbs else den
  let unit := scaledNum / b.mantissa
  let low := scaledNum / scaledDen
  let rest := scaledNum % scaledDen
  let nearest :=
    if 2 * rest < scaledDen then low
    else if 2 * rest > scaledDen then low + 1
    else if low % 2 = 0 then low else low + 1
  if b.readsBack (nearest * scaledDen) unit then some nearest else none

/-- The first grid, from `count` digits on, that holds a decimal reading back as `b`. -/
def Binary.search (b : Binary) : Nat → Nat → Nat × Nat
  | 0, count => ((b.onGrid? count).getD 0, count)
  | more + 1, count =>
    match b.onGrid? count with
    | some n => (n, count)
    | none => Binary.search b more (count + 1)

/-- The shortest decimal that reads back as `b`; seventeen digits are always enough. -/
def Binary.shortest (b : Binary) : Digits :=
  let (n, count) := b.search 16 1
  let digits := Nat.toDigits 10 n
  let kept := (digits.reverse.dropWhile (· == '0')).reverse
  -- rounding up to a power of ten gives one digit more than the grid has
  ⟨kept, b.magnitude + ((digits.length : Int) - count)⟩

end MangaShelf.Decimal
