import MangaShelf.Json.Reader

/-!
# Percent encoding

A character outside a chosen class is written as the bytes of its UTF-8 form, each as a percent
sign and two upper-case hexadecimal digits.
-/

namespace MangaShelf.Text

/-- An upper-case hexadecimal digit. -/
def upperHex (n : Nat) : Char :=
  (Nat.digitChar (n % 16)).toUpper

/-- The triple that stands for a byte. -/
def percentByte (b : UInt8) : List Char :=
  ['%', upperHex (b.toNat / 16), upperHex b.toNat]

/-- The triples of a character. -/
def percentChar (c : Char) : List Char :=
  (String.utf8EncodeChar c).flatMap percentByte

/-- Characters outside `keep` become triples. -/
def percentEncode (keep : Char → Bool) (cs : List Char) : List Char :=
  cs.flatMap fun c => if keep c then [c] else percentChar c

/-- The letters, digits and marks that stand for themselves in a query component. -/
def isUnreservedMark (c : Char) : Bool :=
  c.isAlphanum || "-_.!~*'()".toList.contains c

/-- A text as one component of a query. -/
def encodeComponent (s : String) : String :=
  String.ofList (percentEncode isUnreservedMark s.toList)

/-- The bytes of a text in which triples stand for bytes. A percent sign without two hexadecimal
digits stands for itself. -/
def percentBytes : List Char → List UInt8
  | [] => []
  | '%' :: h :: l :: rest =>
    match Json.hexValue? h, Json.hexValue? l with
    | some a, some b => UInt8.ofNat (16 * a + b) :: percentBytes rest
    | _, _ => String.utf8EncodeChar '%' ++ percentBytes (h :: l :: rest)
  | c :: rest => String.utf8EncodeChar c ++ percentBytes rest

end MangaShelf.Text
