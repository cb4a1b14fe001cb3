import MangaShelf.Decimal.Shortest

/-!
# Layout of decimals

How the digits of a number are set out: with a plain point, or with an exponent when the point is
far away.
-/

namespace MangaShelf.Decimal

/-- The decisions of a number format. -/
structure Layout where
  /-- The least and the greatest point position written without an exponent. -/
  lowPoint : Int
  highPoint : Int
  /-- The least number of digits of an exponent. -/
  exponentWidth : Nat
  notANumber : String
  infinite : String

/-- Whole numbers keep `.0`; an exponent has a sign and two digits or more. -/
def Layout.plain : Layout :=
  ⟨-3, 16, 2, "nan", "inf"⟩

/-- The same numbers as JSON texts spell them. -/
def Layout.json : Layout :=
  { Layout.plain with notANumber := "NaN", infinite := "Infinity" }

/-- `count` zeros. -/
def zeros (count : Nat) : List Char :=
  List.replicate count '0'

/-- The digits of an exponent, filled up with zeros on the left. -/
def Layout.exponent (l : Layout) (e : Int) : List Char :=
  let digits := Nat.toDigits 10 e.natAbs
  (if e < 0 then '-' else '+') :: zeros (l.exponentWidth - digits.length) ++ digits

/-- A positive number set out. -/
def Layout.positive (l : Layout) (d : Digits) : List Char :=
  if d.point < l.lowPoint || l.highPoint < d.point then
    match d.digits with
    | [] => []
    | [first] => first :: 'e' :: l.exponent (d.point - 1)
    | first :: more => first :: '.' :: more ++ 'e' :: l.exponent (d.point - 1)
  else if d.point ≤ 0 then '0' :: '.' :: zeros d.point.natAbs ++ d.digits
  else
    let whole := d.point.toNat
    if d.digits.length ≤ whole then
      d.digits ++ zeros (whole - d.digits.length) ++ ['.', '0']
    else d.digits.take whole ++ '.' :: d.digits.drop whole

/-- The text of a floating-point number. -/
def Layout.render (l : Layout) (x : Float) : String :=
  if x.isNaN then l.notANumber
  else
    let bits := x.toBits.toNat
    let sign := if bits / Nat.pow 2 63 % 2 = 1 then "-" else ""
    if x.isInf then sign ++ l.infinite
    else
      match Binary.ofBits? (bits % Nat.pow 2 63) with
      | none => sign ++ "0.0"
      | some b => sign ++ String.ofList (l.positive b.shortest)

end MangaShelf.Decimal
