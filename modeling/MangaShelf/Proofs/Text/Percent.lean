import Mathlib.Data.List.Basic
import Mathlib.Tactic.Lemma
import MangaShelf.Text.Percent
import MangaShelf.Text.Units
import MangaShelf.Text.Utf8

/-!
# Components of a query

A text is written as one component of a query character by character: a letter, a digit or one of a
few marks as itself, any other character as a triple for each octet of its UTF-8 form. What comes of
it are only such characters and triples, it is what `encodeURIComponent` gives for the UTF-16 units
of the text, and it can be read back.
-/

namespace MangaShelf.Text

/-! ### UTF-8 -/

/-- The octets of a code point in UTF-8. -/
def octets (n : Nat) : List Nat :=
  if n < 0x80 then [n]
  else if n < 0x800 then [0xC0 + n / 0x40, 0x80 + n % 0x40]
  else if n < 0x10000 then [0xE0 + n / 0x1000, 0x80 + n / 0x40 % 0x40, 0x80 + n % 0x40]
  else [0xF0 + n / 0x40000, 0x80 + n / 0x1000 % 0x40, 0x80 + n / 0x40 % 0x40, 0x80 + n % 0x40]

/-- A character is no surrogate and not too large. -/
lemma char_bounds (c : Char) : c.toNat < 0xD800 ∨ 0xDFFF < c.toNat ∧ c.toNat < 0x110000 :=
  c.valid

lemma map_toNat_utf8EncodeChar (c : Char) :
    (String.utf8EncodeChar c).map UInt8.toNat = octets c.toNat := by
  have hbounds := char_bounds c
  have hval : c.val.toNat = c.toNat := rfl
  simp only [String.utf8EncodeChar, octets, hval]
  split_ifs <;> first
    | omega
    | simp only [List.map_cons, List.map_nil, UInt8.toNat_ofNat', List.cons.injEq, and_true]
      omega

/-! #### Reading a character -/

section

variable {n : Nat} (rest : List Nat)

lemma utf8Scan_one (h : n < 0x80) :
    utf8Scan none (n :: rest) = some (Char.ofNat n) :: utf8Scan none rest := by
  rw [utf8Scan, if_pos h]

/-- The last octet of a character. -/
lemma utf8Scan_last {st : Utf8State} {b : Nat} (hfollowing : st.following = 1)
    (hlow : st.low ≤ b) (hhigh : b ≤ st.high) :
    utf8Scan (some st) (b :: rest) =
      some (Char.ofNat (64 * st.value + (b - 0x80))) :: utf8Scan none rest := by
  rw [utf8Scan, if_pos ⟨hlow, hhigh⟩, hfollowing]
  rfl

/-- An octet inside a character. -/
lemma utf8Scan_inner {st : Utf8State} {b following : Nat} (hfollowing : st.following = following + 2)
    (hlow : st.low ≤ b) (hhigh : b ≤ st.high) :
    utf8Scan (some st) (b :: rest) =
      utf8Scan (some ⟨64 * st.value + (b - 0x80), following + 1, 0x80, 0xBF⟩) rest := by
  rw [utf8Scan, if_pos ⟨hlow, hhigh⟩, hfollowing]
  rfl

/-- The first octet of a character of several octets. -/
lemma utf8Scan_lead {b : Nat} {l : LeadByte} (hb : 0x80 ≤ b) (h : leadByte? b = some l) :
    utf8Scan none (b :: rest) =
      utf8Scan (some ⟨l.bits, l.following, l.low, l.high⟩) rest := by
  rw [utf8Scan, if_neg (Nat.not_lt.mpr hb), h]

/-- The first octet of three says which octets may come next. -/
lemma exists_leadByte_of_three (hlow : 0x800 ≤ n) (hhigh : n < 0x10000)
    (hvalid : n < 0xD800 ∨ 0xDFFF < n) :
    ∃ l, leadByte? (0xE0 + n / 0x1000) = some l ∧ l.bits = n / 0x1000 ∧ l.following = 2 ∧
      l.low ≤ 0x80 + n / 0x40 % 0x40 ∧ 0x80 + n / 0x40 % 0x40 ≤ l.high := by
  rw [leadByte?, if_neg (by omega)]
  by_cases hfirst : n / 0x1000 = 0
  · rw [if_pos (by omega)]
    exact ⟨_, rfl, hfirst.symm, rfl, by dsimp only; omega, by dsimp only; omega⟩
  rw [if_neg (by omega)]
  by_cases hlast : n / 0x1000 = 0xD
  · rw [if_pos (by omega)]
    exact ⟨_, rfl, hlast.symm, rfl, by dsimp only; omega, by dsimp only; omega⟩
  · rw [if_neg (by omega), if_pos (by omega)]
    exact ⟨_, rfl, by dsimp only; omega, rfl, by dsimp only; omega, by dsimp only; omega⟩

/-- So does the first octet of four. -/
lemma exists_leadByte_of_four (hlow : 0x10000 ≤ n) (hhigh : n < 0x110000) :
    ∃ l, leadByte? (0xF0 + n / 0x40000) = some l ∧ l.bits = n / 0x40000 ∧ l.following = 3 ∧
      l.low ≤ 0x80 + n / 0x1000 % 0x40 ∧ 0x80 + n / 0x1000 % 0x40 ≤ l.high := by
  rw [leadByte?, if_neg (by omega), if_neg (by omega), if_neg (by omega), if_neg (by omega)]
  by_cases hfirst : n / 0x40000 = 0
  · rw [if_pos (by omega)]
    exact ⟨_, rfl, hfirst.symm, rfl, by dsimp only; omega, by dsimp only; omega⟩
  rw [if_neg (by omega)]
  by_cases hlast : n / 0x40000 = 4
  · rw [if_neg (by omega), if_pos (by omega)]
    exact ⟨_, rfl, hlast.symm, rfl, by dsimp only; omega, by dsimp only; omega⟩
  · rw [if_pos (by omega)]
    exact ⟨_, rfl, by dsimp only; omega, rfl, by dsimp only; omega, by dsimp only; omega⟩

/-- The octets of a code point are read as its character. -/
lemma utf8Scan_octets (hvalid : n < 0xD800 ∨ 0xDFFF < n ∧ n < 0x110000) :
    utf8Scan none (octets n ++ rest) = some (Char.ofNat n) :: utf8Scan none rest := by
  rw [octets]
  split_ifs with hone htwo hthree
  · exact utf8Scan_one rest hone
  · have hlead : leadByte? (0xC0 + n / 0x40) = some ⟨n / 0x40, 1, 0x80, 0xBF⟩ := by
      rw [leadByte?, if_pos (by omega), Nat.add_sub_cancel_left]
    have hvalue : 64 * (n / 0x40) + (0x80 + n % 0x40 - 0x80) = n := by omega
    simp only [List.cons_append, List.nil_append]
    rw [utf8Scan_lead _ (by omega) hlead,
      utf8Scan_last rest rfl (by dsimp only; omega) (by dsimp only; omega)]
    simp only [hvalue]
  · obtain ⟨l, hlead, hbits, hfollowing, hlow, hhigh⟩ :=
      exists_leadByte_of_three (Nat.not_lt.mp htwo) hthree (by omega)
    have hvalue : 64 * (64 * (n / 0x1000) + (0x80 + n / 0x40 % 0x40 - 0x80)) +
        (0x80 + n % 0x40 - 0x80) = n := by
      omega
    simp only [List.cons_append, List.nil_append]
    rw [utf8Scan_lead _ (by omega) hlead, utf8Scan_inner _ hfollowing hlow hhigh,
      utf8Scan_last rest rfl (by dsimp only; omega) (by dsimp only; omega)]
    simp only [hbits, hvalue]
  · have hlarge : 0x10000 ≤ n := Nat.not_lt.mp hthree
    obtain ⟨l, hlead, hbits, hfollowing, hlow, hhigh⟩ :=
      exists_leadByte_of_four hlarge (by omega)
    have hvalue : 64 * (64 * (64 * (n / 0x40000) + (0x80 + n / 0x1000 % 0x40 - 0x80)) +
        (0x80 + n / 0x40 % 0x40 - 0x80)) + (0x80 + n % 0x40 - 0x80) = n := by
      omega
    simp only [List.cons_append, List.nil_append]
    rw [utf8Scan_lead _ (by omega) hlead, utf8Scan_inner _ hfollowing hlow hhigh,
      utf8Scan_inner _ rfl (by dsimp only; omega) (by dsimp only; omega),
      utf8Scan_last rest rfl (by dsimp only; omega) (by dsimp only; omega)]
    simp only [hbits, hvalue]

end

/-- The bytes of a text are read back. -/
lemma utf8Text?_flatMap (cs : List Char) :
    utf8Text? (cs.flatMap String.utf8EncodeChar) = some cs := by
  have hall (cs : List Char) : (cs.map some).mapM id = some cs := by
    induction cs with
    | nil => rfl
    | cons c cs ih =>
      rw [List.map_cons, List.mapM_cons, ih]
      rfl
  have hscan : utf8Scan none ((cs.flatMap String.utf8EncodeChar).map UInt8.toNat) =
      cs.map some := by
    induction cs with
    | nil => rfl
    | cons c cs ih =>
      rw [List.flatMap_cons, List.map_append, map_toNat_utf8EncodeChar,
        utf8Scan_octets _ (char_bounds c), ih, Char.ofNat_toNat, List.map_cons]
  rw [utf8Text?, hscan, hall]

/-! ### Triples -/

/-- The digits of triples. -/
def tripleDigits : List Char :=
  "0123456789ABCDEF".toList

/-- The triple that stands for an octet. -/
def triple (octet : Nat) : List Char :=
  ['%', tripleDigits.getD (octet / 16) '0', tripleDigits.getD (octet % 16) '0']

lemma upperHex_eq (n : Nat) : upperHex n = tripleDigits.getD (n % 16) '0' := by
  have hall : ∀ d < 16, (Nat.digitChar d).toUpper = tripleDigits.getD d '0' := by decide
  exact hall (n % 16) (Nat.mod_lt n (by decide))

lemma upperHex_mem (n : Nat) : upperHex n ∈ tripleDigits := by
  have hall : ∀ d < 16, tripleDigits.getD d '0' ∈ tripleDigits := by decide
  rw [upperHex_eq]
  exact hall (n % 16) (Nat.mod_lt n (by decide))

lemma hexValue?_upperHex (n : Nat) : Json.hexValue? (upperHex n) = some (n % 16) := by
  have hall : ∀ d < 16, Json.hexValue? (tripleDigits.getD d '0') = some d := by decide
  rw [upperHex_eq]
  exact hall (n % 16) (Nat.mod_lt n (by decide))

lemma percentByte_eq (b : UInt8) : percentByte b = triple b.toNat := by
  have hhigh : b.toNat / 16 % 16 = b.toNat / 16 := by
    have := b.toNat_lt
    omega
  rw [percentByte, triple, upperHex_eq, upperHex_eq, hhigh]

/-- The triples of a character stand for its octets. -/
lemma percentChar_eq (c : Char) : percentChar c = (octets c.toNat).flatMap triple := by
  rw [percentChar, ← map_toNat_utf8EncodeChar, List.flatMap_map]
  exact List.flatMap_congr fun b _ => percentByte_eq b

/-! ### Reading back -/

lemma percentBytes_cons {c : Char} (h : c ≠ '%') (cs : List Char) :
    percentBytes (c :: cs) = String.utf8EncodeChar c ++ percentBytes cs := by
  rw [percentBytes]
  rintro _ _ _ rfl
  exact absurd rfl h

/-- A triple is read as its byte. -/
lemma percentBytes_percentByte (b : UInt8) (cs : List Char) :
    percentBytes (percentByte b ++ cs) = b :: percentBytes cs := by
  have hvalue : UInt8.ofNat (16 * (b.toNat / 16 % 16) + b.toNat % 16) = b := by
    have := b.toNat_lt
    have hsum : 16 * (b.toNat / 16 % 16) + b.toNat % 16 = b.toNat := by omega
    rw [hsum, UInt8.ofNat_toNat]
  simp only [percentByte, List.cons_append, List.nil_append]
  rw [percentBytes]
  simp only [hexValue?_upperHex, hvalue]

lemma percentBytes_percentChar (c : Char) (cs : List Char) :
    percentBytes (percentChar c ++ cs) = String.utf8EncodeChar c ++ percentBytes cs := by
  rw [percentChar]
  generalize String.utf8EncodeChar c = bytes
  induction bytes with
  | nil => rfl
  | cons b bytes ih =>
    rw [List.flatMap_cons, List.append_assoc, percentBytes_percentByte, ih, List.cons_append]

/-- Whatever is kept, the bytes of a text are read back if percent signs are not kept. -/
lemma percentBytes_percentEncode {keep : Char → Bool} (h : keep '%' = false) (cs : List Char) :
    percentBytes (percentEncode keep cs) = cs.flatMap String.utf8EncodeChar := by
  induction cs with
  | nil => rfl
  | cons c cs ih =>
    rw [percentEncode] at ih ⊢
    rw [List.flatMap_cons, List.flatMap_cons]
    cases hc : keep c with
    | false => rw [if_neg Bool.false_ne_true, percentBytes_percentChar, ih]
    | true =>
      have hne : c ≠ '%' := by
        rintro rfl
        rw [hc] at h
        cases h
      rw [if_pos rfl, List.singleton_append, percentBytes_cons hne, ih]

/-! ### Components -/

/-- The characters that stand for themselves in a component. -/
def unreserved : List Char :=
  "ABCDEFGHIJKLMNOPQRSTUVWXYZabcdefghijklmnopqrstuvwxyz0123456789-_.!~*()'".toList

/-- Texts of unreserved characters and triples. -/
inductive IsComponent : List Char → Prop where
  | nil : IsComponent []
  | kept {c : Char} {cs : List Char} (hc : c ∈ unreserved) (h : IsComponent cs) :
    IsComponent (c :: cs)
  | triple {high low : Char} {cs : List Char} (hhigh : high ∈ tripleDigits)
    (hlow : low ∈ tripleDigits) (h : IsComponent cs) : IsComponent ('%' :: high :: low :: cs)

lemma mem_map_toNat {c : Char} {cs : List Char} : c.toNat ∈ cs.map Char.toNat ↔ c ∈ cs := by
  constructor
  · intro h
    obtain ⟨d, hd, heq⟩ := List.mem_map.mp h
    rwa [← Char.toNat_inj.mp heq]
  · exact List.mem_map_of_mem

/-- The codes of unreserved characters. -/
lemma map_toNat_unreserved :
    unreserved.map Char.toNat =
      List.range' 0x41 26 ++ List.range' 0x61 26 ++ List.range' 0x30 10 ++
        [0x2D, 0x5F, 0x2E, 0x21, 0x7E, 0x2A, 0x28, 0x29, 0x27] :=
  congrArg (List.map Char.toNat) String.toList_ofList

lemma mem_unreserved_iff {c : Char} :
    c ∈ unreserved ↔
      (0x41 ≤ c.toNat ∧ c.toNat ≤ 0x5A ∨ 0x61 ≤ c.toNat ∧ c.toNat ≤ 0x7A ∨
        0x30 ≤ c.toNat ∧ c.toNat ≤ 0x39) ∨
      c.toNat ∈ [0x2D, 0x5F, 0x2E, 0x21, 0x7E, 0x2A, 0x28, 0x29, 0x27] := by
  rw [← mem_map_toNat, map_toNat_unreserved, List.mem_append]
  refine or_congr_left ?_
  simp only [List.mem_append, List.mem_range'_1]
  omega

lemma lt_of_mem_unreserved {c : Char} (h : c ∈ unreserved) : c.toNat < 128 := by
  have hmarks : ∀ n ∈ [0x2D, 0x5F, 0x2E, 0x21, 0x7E, 0x2A, 0x28, 0x29, 0x27], n < 128 := by decide
  rcases mem_unreserved_iff.mp h with h | h
  · omega
  · exact hmarks _ h

lemma isAlphanum_iff {c : Char} :
    c.isAlphanum = true ↔
      0x41 ≤ c.toNat ∧ c.toNat ≤ 0x5A ∨ 0x61 ≤ c.toNat ∧ c.toNat ≤ 0x7A ∨
        0x30 ≤ c.toNat ∧ c.toNat ≤ 0x39 := by
  have hranges : c.isAlphanum =
      (decide (0x41 ≤ c.val ∧ c.val ≤ 0x5A) ||
        decide (0x61 ≤ c.val) && decide (c.val ≤ 0x7A) ||
          decide (0x30 ≤ c.val) && decide (c.val ≤ 0x39)) := rfl
  simp only [hranges, Bool.or_eq_true, Bool.and_eq_true, decide_eq_true_eq,
    UInt32.le_iff_toNat_le, or_assoc]
  exact Iff.rfl

lemma isUnreservedMark_iff {c : Char} : isUnreservedMark c = true ↔ c ∈ unreserved := by
  have hmarks : "-_.!~*'()".toList.map Char.toNat =
      [0x2D, 0x5F, 0x2E, 0x21, 0x7E, 0x2A, 0x27, 0x28, 0x29] :=
    congrArg (List.map Char.toNat) String.toList_ofList
  rw [isUnreservedMark, Bool.or_eq_true, List.contains_iff_mem, isAlphanum_iff,
    mem_unreserved_iff, ← mem_map_toNat, hmarks]
  refine or_congr_right ?_
  simp only [List.mem_cons, List.not_mem_nil, or_false]
  omega

lemma IsComponent.percentByte_append {cs : List Char} (h : IsComponent cs) (b : UInt8) :
    IsComponent (percentByte b ++ cs) :=
  .triple (upperHex_mem _) (upperHex_mem _) h

lemma isComponent_percentEncode (cs : List Char) :
    IsComponent (percentEncode isUnreservedMark cs) := by
  induction cs with
  | nil => exact .nil
  | cons c cs ih =>
    rw [percentEncode] at ih ⊢
    rw [List.flatMap_cons]
    cases hc : isUnreservedMark c with
    | true => exact .kept (isUnreservedMark_iff.mp hc) ih
    | false =>
      rw [if_neg Bool.false_ne_true, percentChar]
      generalize String.utf8EncodeChar c = bytes
      induction bytes with
      | nil => exact ih
      | cons b bytes ihBytes =>
        rw [List.flatMap_cons, List.append_assoc]
        exact ihBytes.percentByte_append b

lemma map_toNat_tripleDigits :
    tripleDigits.map Char.toNat = List.range' 0x30 10 ++ List.range' 0x41 6 :=
  congrArg (List.map Char.toNat) String.toList_ofList

/-- In a component there are only unreserved characters, percent signs and digits of triples. -/
lemma IsComponent.mem {cs : List Char} (h : IsComponent cs) {c : Char} (hc : c ∈ cs) :
    c ∈ unreserved ∨ c = '%' := by
  have hdigits : ∀ d ∈ tripleDigits, d ∈ unreserved := by
    intro d hd
    rw [← mem_map_toNat, map_toNat_tripleDigits, List.mem_append, List.mem_range'_1,
      List.mem_range'_1] at hd
    exact mem_unreserved_iff.mpr (.inl (by omega))
  induction h with
  | nil => cases hc
  | kept hd _ ih =>
    rcases List.mem_cons.mp hc with rfl | hc
    · exact .inl hd
    · exact ih hc
  | triple hhigh hlow _ ih =>
    simp only [List.mem_cons] at hc
    rcases hc with rfl | rfl | rfl | hc
    · exact .inr rfl
    · exact .inl (hdigits _ hhigh)
    · exact .inl (hdigits _ hlow)
    · exact ih hc

/-! ### Components of UTF-16 units -/

/-- The UTF-16 units of a character. -/
def unitsOf (c : Char) : List Nat :=
  if c.toNat < 0x10000 then [c.toNat]
  else [0xD800 + (c.toNat - 0x10000) / 0x400, 0xDC00 + (c.toNat - 0x10000) % 0x400]

/-- What `encodeURIComponent` gives for some UTF-16 units: a unit of an unreserved character stands
for itself; from any other place on the next code point is read, and its octets are written as
triples. A surrogate without a partner is an error. -/
def encodeUnits : List Nat → Option (List Char)
  | [] => some []
  | u :: us =>
    if u ∈ unreserved.map Char.toNat then (encodeUnits us).map (Char.ofNat u :: ·)
    else if isTrailing u then none
    else if isLeading u then
      match us with
      | [] => none
      | v :: vs =>
        if isTrailing v then
          (encodeUnits vs).map
            ((octets (0x10000 + (u - 0xD800) * 0x400 + (v - 0xDC00))).flatMap triple ++ ·)
        else none
    else (encodeUnits us).map ((octets u).flatMap triple ++ ·)

lemma isLeading_iff {u : Nat} : isLeading u = true ↔ 0xD800 ≤ u ∧ u < 0xDC00 := by
  simp [isLeading]

lemma isTrailing_iff {u : Nat} : isTrailing u = true ↔ 0xDC00 ≤ u ∧ u < 0xE000 := by
  simp [isTrailing]

/-- A unit stands for itself if it is that of an unreserved character. -/
lemma toNat_mem_unreserved {c : Char} :
    c.toNat ∈ unreserved.map Char.toNat ↔ isUnreservedMark c = true := by
  rw [mem_map_toNat, isUnreservedMark_iff]

lemma notMem_of_le {u : Nat} (h : 128 ≤ u) : u ∉ unreserved.map Char.toNat := by
  rw [List.mem_map]
  rintro ⟨d, hd, rfl⟩
  exact absurd (lt_of_mem_unreserved hd) (Nat.not_lt.mpr h)

section

variable {u n : Nat} (us : List Nat)

lemma encodeUnits_of_kept (h : u ∈ unreserved.map Char.toNat) :
    encodeUnits (u :: us) = (encodeUnits us).map (Char.ofNat u :: ·) := by
  rw [encodeUnits.eq_def]
  exact if_pos h

/-- A unit that is no surrogate is a code point. -/
lemma encodeUnits_of_single (hkept : u ∉ unreserved.map Char.toNat)
    (hsingle : u < 0xD800 ∨ 0xDFFF < u) :
    encodeUnits (u :: us) = (encodeUnits us).map ((octets u).flatMap triple ++ ·) := by
  have htrailing : ¬ isTrailing u = true := by
    rw [isTrailing_iff]
    omega
  have hleading : ¬ isLeading u = true := by
    rw [isLeading_iff]
    omega
  rw [encodeUnits.eq_def]
  dsimp only
  rw [if_neg hkept, if_neg htrailing, if_neg hleading]

/-- Any other code point has two units. -/
lemma encodeUnits_of_pair (hlow : 0x10000 ≤ n) (hhigh : n < 0x110000) :
    encodeUnits ((0xD800 + (n - 0x10000) / 0x400) :: (0xDC00 + (n - 0x10000) % 0x400) :: us) =
      (encodeUnits us).map ((octets n).flatMap triple ++ ·) := by
  have hkept : 0xD800 + (n - 0x10000) / 0x400 ∉ unreserved.map Char.toNat :=
    notMem_of_le (by omega)
  have htrailing : ¬ isTrailing (0xD800 + (n - 0x10000) / 0x400) = true := by
    rw [isTrailing_iff]
    omega
  have hleading : isLeading (0xD800 + (n - 0x10000) / 0x400) = true := by
    rw [isLeading_iff]
    omega
  have hpartner : isTrailing (0xDC00 + (n - 0x10000) % 0x400) = true := by
    rw [isTrailing_iff]
    omega
  have hvalue : 0x10000 + (0xD800 + (n - 0x10000) / 0x400 - 0xD800) * 0x400 +
      (0xDC00 + (n - 0x10000) % 0x400 - 0xDC00) = n := by
    omega
  rw [encodeUnits.eq_def]
  dsimp only
  rw [if_neg hkept, if_neg htrailing, if_pos hleading, if_pos hpartner, hvalue]

end

lemma encodeUnits_unitsOf (c : Char) (us : List Nat) :
    encodeUnits (unitsOf c ++ us) =
      (encodeUnits us).map
        ((if isUnreservedMark c then [c] else (octets c.toNat).flatMap triple) ++ ·) := by
  have hbounds := char_bounds c
  rw [unitsOf]
  by_cases hsmall : c.toNat < 0x10000
  · rw [if_pos hsmall, List.singleton_append]
    by_cases hkept : isUnreservedMark c = true
    · rw [encodeUnits_of_kept us (toNat_mem_unreserved.mpr hkept), if_pos hkept, Char.ofNat_toNat]
      rfl
    · rw [encodeUnits_of_single us (mt toNat_mem_unreserved.mp hkept) (by omega), if_neg hkept]
  · have hkept : ¬ isUnreservedMark c = true := fun h => by
      have := lt_of_mem_unreserved (isUnreservedMark_iff.mp h)
      omega
    rw [if_neg hsmall, if_neg hkept, List.cons_append, List.singleton_append,
      encodeUnits_of_pair us (by omega) (by omega)]

/-- The encoding of a text is that of its UTF-16 units. -/
lemma encodeUnits_flatMap (cs : List Char) :
    encodeUnits (cs.flatMap unitsOf) = some (percentEncode isUnreservedMark cs) := by
  induction cs with
  | nil => rfl
  | cons c cs ih =>
    rw [List.flatMap_cons, encodeUnits_unitsOf, ih, Option.map_some, percentEncode, percentEncode,
      List.flatMap_cons, percentChar_eq]

end MangaShelf.Text
