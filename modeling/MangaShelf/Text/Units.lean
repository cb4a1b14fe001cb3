/-!
# Texts in units of two or four bytes

Reading UTF-16 and UTF-32 bytes as characters. What stands for no character is marked, and so is a
unit that breaks off at the end.
-/

namespace MangaShelf.Text

/-- Which byte of a unit comes first. -/
inductive ByteOrder where
  | bigFirst
  | littleFirst
  deriving DecidableEq, Repr

/-- The units of two bytes; `none` marks a single byte at the end. -/
def units16 (order : ByteOrder) : List UInt8 → List (Option Nat)
  | a :: b :: rest =>
    let unit :=
      match order with
      | .bigFirst => a.toNat * 256 + b.toNat
      | .littleFirst => b.toNat * 256 + a.toNat
    some unit :: units16 order rest
  | [_] => [none]
  | [] => []

/-- A unit that begins a pair. -/
def isLeading (u : Nat) : Bool :=
  0xD800 ≤ u && u < 0xDC00

/-- A unit that ends a pair. -/
def isTrailing (u : Nat) : Bool :=
  0xDC00 ≤ u && u < 0xE000

/-- The characters of units of two bytes; the first argument is the unit of a pair that has begun. -/
def chars16 : Option Nat → List (Option Nat) → List (Option Char)
  | none, [] => []
  | some _, [] => [none]
  | none, none :: rest => none :: chars16 none rest
  | some _, none :: rest => none :: chars16 none rest
  | none, some u :: rest =>
    if isLeading u then chars16 (some u) rest
    else if isTrailing u then none :: chars16 none rest
    else some (Char.ofNat u) :: chars16 none rest
  | some lead, some u :: rest =>
    if isTrailing u then
      some (Char.ofNat (0x10000 + (lead - 0xD800) * 0x400 + (u - 0xDC00))) :: chars16 none rest
    else if isLeading u then none :: chars16 (some u) rest
    else none :: some (Char.ofNat u) :: chars16 none rest

/-- The characters of UTF-16 bytes. -/
def utf16Scan (order : ByteOrder) (bytes : List UInt8) : List (Option Char) :=
  chars16 none (units16 order bytes)

/-- The characters of UTF-32 bytes. -/
def utf32Scan (order : ByteOrder) : List UInt8 → List (Option Char)
  | a :: b :: c :: d :: rest =>
    let value :=
      match order with
      | .bigFirst => ((a.toNat * 256 + b.toNat) * 256 + c.toNat) * 256 + d.toNat
      | .littleFirst => ((d.toNat * 256 + c.toNat) * 256 + b.toNat) * 256 + a.toNat
    (if value.isValidChar then some (Char.ofNat value) else none) :: utf32Scan order rest
  | [] => []
  | _ => [none]

end MangaShelf.Text
