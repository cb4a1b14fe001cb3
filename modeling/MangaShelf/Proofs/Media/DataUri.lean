import Mathlib.Tactic.Lemma
import MangaShelf.Media.DataUri

/-!
# Images in addresses

A data address says the type of its image, and its text gives back the bytes: `shows_dataUri`.
-/

namespace MangaShelf

/-! ### Base 64 -/

namespace Text

/-- Each of the digits has the place it stands at as its value, and none is a filling. -/
lemma base64Digit_fin : ∀ i : Fin 64,
    base64Value? (base64Digit i) = some i.val ∧ base64Digit i ≠ '=' := by
  decide +kernel

lemma base64Digit_mod (n : Nat) : base64Digit (n % 64) = base64Digit n := by
  simp [base64Digit]

/-- A digit has the value it was made from. -/
lemma base64Value?_base64Digit (n : Nat) : base64Value? (base64Digit n) = some (n % 64) := by
  rw [← base64Digit_mod]
  exact (base64Digit_fin ⟨n % 64, Nat.mod_lt n (by decide)⟩).1

lemma base64Digit_ne (n : Nat) : base64Digit n ≠ '=' := by
  rw [← base64Digit_mod]
  exact (base64Digit_fin ⟨n % 64, Nat.mod_lt n (by decide)⟩).2

lemma ofNat_eq {n : Nat} {a : UInt8} (h : n % 256 = a.toNat) : UInt8.ofNat n = a := by
  rw [← UInt8.toNat_inj, UInt8.toNat_ofNat', h]

/-- A whole group of digits is read as three bytes. -/
lemma base64Decode_group {n : Nat} (h : n < 16777216) (rest : List Char) :
    base64Decode (base64Digit (n / 262144) :: base64Digit (n / 4096) :: base64Digit (n / 64) ::
      base64Digit n :: rest) =
      (base64Decode rest).map fun more =>
        UInt8.ofNat (n / 65536) :: UInt8.ofNat (n / 256) :: UInt8.ofNat n :: more := by
  have hn : n / 262144 % 64 * 262144 + n / 4096 % 64 * 4096 + n / 64 % 64 * 64 + n % 64 = n := by
    omega
  rw [base64Decode]
  · simp only [base64Value?_base64Digit, Option.bind_eq_bind, Option.bind_some, hn]
    cases base64Decode rest <;> rfl
  · intro _ hlast _
    exact base64Digit_ne n hlast
  · intro hlast _
    exact base64Digit_ne n hlast

/-- The text of some bytes is read as these bytes. -/
lemma base64Decode_base64Encode (bytes : List UInt8) :
    base64Decode (base64Encode bytes) = some bytes := by
  match bytes with
  | [] => rfl
  | [a] =>
    have ha := a.toNat_lt
    simp only [base64Encode, base64Decode, base64Value?_base64Digit, Option.bind_eq_bind,
      Option.bind_some, Option.some.injEq, List.cons.injEq, and_true]
    exact ofNat_eq (by omega)
  | [a, b] =>
    have ha := a.toNat_lt
    have hb := b.toNat_lt
    rw [base64Encode, base64Decode]
    · simp only [base64Value?_base64Digit, Option.bind_eq_bind, Option.bind_some,
        Option.some.injEq, List.cons.injEq, and_true]
      exact ⟨ofNat_eq (by omega), ofNat_eq (by omega)⟩
    · exact base64Digit_ne _
  | a :: b :: c :: rest =>
    have ha := a.toNat_lt
    have hb := b.toNat_lt
    have hc := c.toNat_lt
    rw [base64Encode, base64Decode_group (by omega), base64Decode_base64Encode rest]
    simp only [Option.map_some, Option.some.injEq, List.cons.injEq, and_true]
    exact ⟨ofNat_eq (by omega), ofNat_eq (by omega), ofNat_eq (by omega)⟩

/-- A text is cut at the first separator. -/
lemma notMem_cutAt (sep : Char) (cs : List Char) : sep ∉ (cutAt sep cs).1 := by
  induction cs with
  | nil => exact List.not_mem_nil
  | cons c cs ih =>
    rw [cutAt]
    split
    next => exact List.not_mem_nil
    next hne => exact List.not_mem_cons_of_ne_of_not_mem (Ne.symm hne) ih

end Text

/-! ### Image types -/

namespace Media

/-- The name of an image type. A data address can go on after it. -/
def IsImageType (type : String) : Prop :=
  Text.startsWith type "image/" ∧ ';' ∉ type.toList

lemma isImageType_of_mem : ∀ entry ∈ imageTypes, IsImageType entry.2 := by
  unfold IsImageType
  decide

lemma isImageType_default : IsImageType defaultImageType := by
  unfold IsImageType
  decide

lemma isImageType_of_lookup {extension type : String}
    (h : imageTypes.lookup extension = some type) : IsImageType type := by
  obtain ⟨before, after, heq, -⟩ := List.lookup_eq_some_iff.mp h
  have hmem : (extension, type) ∈ imageTypes := by
    rw [heq]
    exact List.mem_append_right before List.mem_cons_self
  exact isImageType_of_mem _ hmem

lemma isImageType_of_path {path : List Char} {type : String} (h : typeOfPath? path = some type) :
    IsImageType type := by
  unfold typeOfPath? at h
  rcases cutExtension path with ⟨stem, extension⟩
  dsimp only at h
  exact isImageType_of_lookup h

/-- A type that a data address names ends before the first semicolon. -/
lemma notMem_of_typeOfData? {rest : List Char} {type : String} (h : typeOfData? rest = some type) :
    ';' ∉ type.toList := by
  unfold typeOfData? at h
  split at h
  next => cases h
  next front _ _ =>
    dsimp only at h
    split at h
    next => cases h
    next =>
      obtain rfl := Option.some.inj h
      rw [String.toList_ofList]
      exact Text.notMem_cutAt ';' _

/-- A type that is guessed from an address is one of images. -/
lemma isImageType_of_suggested {url : List Char} {type : String}
    (h : suggestedType? url = some type) : IsImageType type := by
  unfold suggestedType? at h
  split at h
  next => exact isImageType_of_path h
  next =>
    split at h
    next => exact isImageType_of_path h
    next =>
      split at h
      next =>
        obtain ⟨htype, himage⟩ := Option.filter_eq_some_iff.mp h
        exact ⟨himage, notMem_of_typeOfData? htype⟩
      next => exact isImageType_of_path h

lemma isImageType_imageType (url : String) : IsImageType (imageType url) := by
  rw [imageType]
  cases htype : suggestedType? (Text.cutAt '?' url.toList).1 with
  | none => exact isImageType_default
  | some type => exact isImageType_of_suggested htype

/-- An address with the type and the bytes of an image, from which the bytes can be had back. -/
def Shows (uri : String) (bytes : List UInt8) : Prop :=
  ∃ type digits, uri = "data:" ++ type ++ ";base64," ++ digits ∧ IsImageType type ∧
    Text.base64Decode digits.toList = some bytes

/-- Every address gives a data address for its bytes. -/
lemma shows_dataUri (url : String) (bytes : List UInt8) : Shows (dataUri url bytes) bytes := by
  refine ⟨imageType url, _, rfl, isImageType_imageType url, ?_⟩
  rw [String.toList_ofList, Text.base64Decode_base64Encode]

end Media

end MangaShelf
