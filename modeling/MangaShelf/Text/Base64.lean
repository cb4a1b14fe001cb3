/-!
# Base 64

Bytes as text in groups of four characters for three bytes, the last group filled up with `=`.
-/

namespace MangaShelf.Text

/-- The 64 digits. -/
def base64Digits : List Char :=
  "ABCDEFGHIJKLMNOPQRSTUVWXYZabcdefghijklmnopqrstuvwxyz0123456789+/".toList

/-- The digit of a number below 64. -/
def base64Digit (n : Nat) : Char :=
  base64Digits.getD (n % 64) 'A'

/-- The text of some bytes. -/
def base64Encode : List UInt8 → List Char
  | [] => []
  | [a] =>
    let n := a.toNat * 65536
    [base64Digit (n / 262144), base64Digit (n / 4096), '=', '=']
  | [a, b] =>
    let n := a.toNat * 65536 + b.toNat * 256
    [base64Digit (n / 262144), base64Digit (n / 4096), base64Digit (n / 64), '=']
  | a :: b :: c :: rest =>
    let n := a.toNat * 65536 + b.toNat * 256 + c.toNat
    base64Digit (n / 262144) :: base64Digit (n / 4096) :: base64Digit (n / 64) ::
      base64Digit n :: base64Encode rest

/-- The value of a digit. -/
def base64Value? (c : Char) : Option Nat :=
  base64Digits.idxOf? c

/-- The bytes of a text in whole groups. -/
def base64Decode : List Char → Option (List UInt8)
  | [] => some []
  | [a, b, '=', '='] => do
    let n := (← base64Value? a) * 64 + (← base64Value? b)
    some [UInt8.ofNat (n / 16)]
  | [a, b, c, '='] => do
    let n := (← base64Value? a) * 4096 + (← base64Value? b) * 64 + (← base64Value? c)
    some [UInt8.ofNat (n / 1024), UInt8.ofNat (n / 4)]
  | a :: b :: c :: d :: rest => do
    let n := (← base64Value? a) * 262144 + (← base64Value? b) * 4096 + (← base64Value? c) * 64 +
      (← base64Value? d)
    let more ← base64Decode rest
    some (UInt8.ofNat (n / 65536) :: UInt8.ofNat (n / 256) :: UInt8.ofNat n :: more)
  | _ => none

end MangaShelf.Text
