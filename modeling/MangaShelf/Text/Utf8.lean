/-!
# Bytes and characters

Reading UTF-8 bytes as text. A maximal piece of a character that breaks off, or a byte that can
begin no character, reads as one replacement character.
-/

namespace MangaShelf.Text

/-- The bytes of a text. -/
def utf8Bytes (s : String) : List UInt8 :=
  s.toList.flatMap String.utf8EncodeChar

/-- What the first byte of a character tells: its own bits, how many bytes follow, and the range
of the next byte. -/
structure LeadByte where
  bits : Nat
  following : Nat
  low : Nat
  high : Nat

/-- The role of a byte at the start of a character of more than one byte. -/
def leadByte? (b : Nat) : Option LeadByte :=
  if 0xC2 ≤ b ∧ b ≤ 0xDF then some ⟨b - 0xC0, 1, 0x80, 0xBF⟩
  else if b = 0xE0 then some ⟨0, 2, 0xA0, 0xBF⟩
  else if b = 0xED then some ⟨0xD, 2, 0x80, 0x9F⟩
  else if 0xE1 ≤ b ∧ b ≤ 0xEF then some ⟨b - 0xE0, 2, 0x80, 0xBF⟩
  else if b = 0xF0 then some ⟨0, 3, 0x90, 0xBF⟩
  else if 0xF1 ≤ b ∧ b ≤ 0xF3 then some ⟨b - 0xF0, 3, 0x80, 0xBF⟩
  else if b = 0xF4 then some ⟨4, 3, 0x80, 0x8F⟩
  else none

/-- Where the reader stands: between characters, or inside one. -/
structure Utf8State where
  value : Nat
  following : Nat
  low : Nat
  high : Nat

/-- Characters of bytes read from the left; `none` marks a broken piece. -/
def utf8Scan : Option Utf8State → List Nat → List (Option Char)
  | none, [] => []
  | some _, [] => [none]
  | none, b :: bs =>
    if b < 0x80 then some (Char.ofNat b) :: utf8Scan none bs
    else
      match leadByte? b with
      | some l => utf8Scan (some ⟨l.bits, l.following, l.low, l.high⟩) bs
      | none => none :: utf8Scan none bs
  | some st, b :: bs =>
    if st.low ≤ b ∧ b ≤ st.high then
      let value := 64 * st.value + (b - 0x80)
      if st.following ≤ 1 then some (Char.ofNat value) :: utf8Scan none bs
      else utf8Scan (some ⟨value, st.following - 1, 0x80, 0xBF⟩) bs
    else if b < 0x80 then none :: some (Char.ofNat b) :: utf8Scan none bs
    else
      match leadByte? b with
      | some l => none :: utf8Scan (some ⟨l.bits, l.following, l.low, l.high⟩) bs
      | none => none :: none :: utf8Scan none bs

/-- The text of UTF-8 bytes, if they are well formed. -/
def utf8Text? (bytes : List UInt8) : Option (List Char) :=
  (utf8Scan none (bytes.map UInt8.toNat)).mapM id

end MangaShelf.Text
