import MangaShelf.Proofs.Run
import MangaShelf.Url.Reference

/-!
# Addresses resolved once

A reference on a web page that has a scheme of its own, other than that of the page, is left as it
is; any other one becomes a web address: `absolute_of_web`. Either way there is nothing left to
resolve: `absolute_absolute`.
-/

namespace MangaShelf.Url

/-- The schemes of the web. -/
def webSchemes : List (List Char) := ["http".toList, "https".toList]

/-- A web scheme with an authority after it. Line breaks and tabs are no part of an authority:
references are read without them. -/
def IsWebAddress (address : String) : Prop :=
  ∃ scheme ∈ webSchemes, ∃ rest,
    address.toList = scheme ++ "://".toList ++ rest ∧
      (rest.filter (!isLineBreakOrTab ·)).takeWhile (!endsHost ·) ≠ []

lemma IsWebAddress.ne_empty {address : String} (h : IsWebAddress address) : address ≠ "" := by
  rintro rfl
  obtain ⟨scheme, -, rest, heq, -⟩ := h
  simp at heq

/-- The characters of a reference that count. -/
def cleaned (cs : List Char) : List Char :=
  (cs.dropWhile isLeadingJunk).filter (!isLineBreakOrTab ·)

/-- The scheme that a reference is written with, in lower case. -/
def ownScheme? (reference : String) : Option (List Char) :=
  (schemeOf? (cleaned reference.toList)).map (·.1)

/-- A reference is written with a scheme. -/
def CarriesScheme (reference : String) : Prop :=
  ∃ scheme, ownScheme? reference = some scheme

/-- A reference is written with a scheme, and not with that of the base. -/
def HasOtherScheme (reference base : String) : Prop :=
  ∃ scheme, ownScheme? reference = some scheme ∧ ownScheme? base ≠ some scheme

/-! ### Web schemes -/

section

variable {scheme : List Char}

lemma eq_of_mem_webSchemes (hs : scheme ∈ webSchemes) :
    scheme = "http".toList ∨ scheme = "https".toList := by
  simpa [webSchemes] using hs

lemma schemeOf?_of_web (hs : scheme ∈ webSchemes) (rest : List Char) :
    schemeOf? (scheme ++ ':' :: rest) = some (scheme, rest) := by
  rcases eq_of_mem_webSchemes hs with rfl | rfl <;> rfl

lemma takesAuthority_of_web (hs : scheme ∈ webSchemes) :
    isScheme authoritySchemes scheme = true := by
  rcases eq_of_mem_webSchemes hs with rfl | rfl <;> rfl

lemma isRelative_of_web (hs : scheme ∈ webSchemes) : isScheme relativeSchemes scheme = true := by
  rcases eq_of_mem_webSchemes hs with rfl | rfl <;> rfl

/-- Nothing is dropped from a web scheme. -/
lemma cleaned_of_web (hs : scheme ∈ webSchemes) (rest : List Char) :
    cleaned (scheme ++ "://".toList ++ rest) =
      scheme ++ ':' :: '/' :: '/' :: rest.filter (!isLineBreakOrTab ·) := by
  rcases eq_of_mem_webSchemes hs with rfl | rfl <;> rfl

lemma ownScheme?_of_web (hs : scheme ∈ webSchemes) {address : String} {rest : List Char}
    (h : address.toList = scheme ++ "://".toList ++ rest) : ownScheme? address = some scheme := by
  rw [ownScheme?, h, cleaned_of_web hs, schemeOf?_of_web hs]
  rfl

lemma CarriesScheme.ne_empty {reference : String} (h : CarriesScheme reference) :
    reference ≠ "" := by
  rintro rfl
  obtain ⟨scheme, hscheme⟩ := h
  cases hscheme

lemma carriesScheme_of_isAbsolute {address : String} (h : isAbsolute address) :
    CarriesScheme address := by
  have hof (mark : String) (hmark : Text.startsWith address mark) :
      ∃ rest, mark.toList ++ rest = address.toList := List.isPrefixOf_iff_prefix.mp hmark
  rcases Bool.or_eq_true_iff.mp h with h | h
  · obtain ⟨rest, hrest⟩ := hof _ h
    exact ⟨"http".toList, ownScheme?_of_web (by decide) hrest.symm⟩
  · obtain ⟨rest, hrest⟩ := hof _ h
    exact ⟨"https".toList, ownScheme?_of_web (by decide) hrest.symm⟩

end

/-! ### Web references -/

namespace Reference

/-- A reference to the web. -/
def IsWeb (r : Reference) : Prop :=
  r.scheme ∈ webSchemes ∧ r.authority ≠ []

/-- A reference is read with its own scheme, or else with the default one. -/
lemma scheme_of_ofChars {reference : String} {default : List Char} {r : Reference}
    (h : ofChars default reference.toList = .ok r) :
    r.scheme = (ownScheme? reference).getD default := by
  rw [ofChars, ← cleaned] at h
  obtain ⟨-, -, h⟩ := bind_eq_ok.mp h
  rw [pure_eq_ok.mp h, ownScheme?]
  cases schemeOf? (cleaned reference.toList) <;> rfl

/-- A web address is read as a reference to the web, whatever the scheme of other references. -/
lemma isWeb_of_ofChars {address : String} (haddress : IsWebAddress address) {default : List Char}
    {r : Reference} (h : ofChars default address.toList = .ok r) : r.IsWeb := by
  obtain ⟨scheme, hscheme, rest, heq, hauthority⟩ := haddress
  rw [heq, ofChars, ← cleaned, cleaned_of_web hscheme, schemeOf?_of_web hscheme] at h
  obtain ⟨-, -, h⟩ := bind_eq_ok.mp h
  obtain rfl := pure_eq_ok.mp h
  exact ⟨hscheme, hauthority⟩

/-- A reference to the web is written with its scheme and the marks before an authority. -/
lemma isAbsolute_of_isWeb {r : Reference} (h : r.IsWeb) : isAbsolute (String.ofList r.toChars) := by
  obtain ⟨hscheme, hauthority⟩ := h
  rcases eq_of_mem_webSchemes hscheme with hscheme | hscheme <;>
    simp [isAbsolute, Text.startsWith, toChars, hauthority, hscheme]

end Reference

/-! ### Resolved addresses -/

variable {base reference url : String}

/-- A reference is read with another scheme than a web page exactly if it is written with one. -/
lemma hasOtherScheme_iff (hbase : IsWebAddress base) {b r : Reference}
    (hb : Reference.ofChars [] base.toList = .ok b)
    (hr : Reference.ofChars b.scheme reference.toList = .ok r) :
    HasOtherScheme reference base ↔ r.scheme ≠ b.scheme := by
  obtain ⟨scheme, hscheme, rest, heq, -⟩ := hbase
  have hown := ownScheme?_of_web hscheme heq
  rw [Reference.scheme_of_ofChars hr, HasOtherScheme, hown, Reference.scheme_of_ofChars hb, hown]
  cases ownScheme? reference with
  | none => simp
  | some other => simp [eq_comm]

/-- Resolving against a web address leaves a reference with another scheme as it is, and gives an
absolute one otherwise. -/
lemma resolve_of_web (hbase : IsWebAddress base) (hreference : reference ≠ "")
    (h : resolve base reference = .ok url) :
    (HasOtherScheme reference base ∧ url = reference) ∨
      (¬ HasOtherScheme reference base ∧ isAbsolute url) := by
  simp only [resolve, hbase.ne_empty, hreference, if_false] at h
  obtain ⟨b, hb, h⟩ := bind_eq_ok.mp h
  obtain ⟨r, hr, h⟩ := bind_eq_ok.mp h
  obtain ⟨hscheme, hauthority⟩ := Reference.isWeb_of_ofChars hbase hb
  rw [hasOtherScheme_iff hbase hb hr]
  by_cases hsame : r.scheme = b.scheme
  · -- What is written from here on has the scheme of the base, and an authority.
    rw [← hsame] at hscheme
    have hrelative : ¬ (r.scheme ≠ b.scheme ∨ ¬ isScheme relativeSchemes r.scheme = true) :=
      not_or.mpr ⟨fun hother => hother hsame, fun hnot => hnot (isRelative_of_web hscheme)⟩
    rw [if_neg hrelative] at h
    simp only [takesAuthority_of_web hscheme, Bool.true_and, if_true] at h
    refine .inr ⟨fun hother => hother hsame, ?_⟩
    split at h
    next hown =>
      rw [pure_eq_ok.mp h]
      exact Reference.isAbsolute_of_isWeb ⟨hscheme, by simpa using hown⟩
    next =>
      split at h <;>
      · rw [pure_eq_ok.mp h]
        exact Reference.isAbsolute_of_isWeb ⟨hscheme, hauthority⟩
  · rw [if_pos (.inl hsame)] at h
    exact .inl ⟨hsame, pure_eq_ok.mp h⟩

/-- On a web page a reference with another scheme stays as it is, and any other one but the empty
one gets an address that begins with a web scheme. -/
lemma absolute_of_web (hbase : IsWebAddress base) (hreference : reference ≠ "")
    (h : absolute reference base = .ok url) :
    (HasOtherScheme reference base ∧ url = reference) ∨
      (¬ HasOtherScheme reference base ∧ isAbsolute url) := by
  by_cases habsolute : isAbsolute reference
  · rw [absolute, if_pos (.inr (.inl habsolute))] at h
    obtain rfl := Except.ok.inj h
    by_cases hother : HasOtherScheme reference base
    · exact .inl ⟨hother, rfl⟩
    · exact .inr ⟨hother, habsolute⟩
  · rw [absolute, if_neg (by simp [hreference, habsolute, hbase.ne_empty])] at h
    exact resolve_of_web hbase hreference h

/-- Every address on a web page carries a scheme. -/
lemma carriesScheme_of_absolute (hbase : IsWebAddress base) (hreference : reference ≠ "")
    (h : absolute reference base = .ok url) : CarriesScheme url := by
  rcases absolute_of_web hbase hreference h with ⟨⟨scheme, hscheme, -⟩, rfl⟩ | ⟨-, habsolute⟩
  · exact ⟨scheme, hscheme⟩
  · exact carriesScheme_of_isAbsolute habsolute

/-- What is resolved already stays as it is. -/
lemma absolute_absolute (hbase : IsWebAddress base) (h : absolute reference base = .ok url) :
    absolute url base = .ok url := by
  by_cases hkept : reference = "" ∨ isAbsolute reference ∨ base = ""
  · rw [absolute, if_pos hkept] at h
    obtain rfl := Except.ok.inj h
    rw [absolute, if_pos hkept]
  · rcases absolute_of_web hbase (fun heq => hkept (.inl heq)) h with ⟨-, rfl⟩ | ⟨-, habsolute⟩
    · exact h
    · rw [absolute, if_pos (.inr (.inl habsolute))]

end MangaShelf.Url
