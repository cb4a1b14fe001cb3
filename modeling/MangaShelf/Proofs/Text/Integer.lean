import Mathlib.Algebra.Group.Nat.Defs
import MangaShelf.Config.Check
import MangaShelf.Proofs.Json.Scalar
import MangaShelf.Text.Integer

/-!
# Numbers that are read back

A number that is not negative is written in decimal digits. There are two readers of such texts, one
for arguments and one for parameters. Both give the number back, and both refuse it if it has too
many digits: `integer?_toString` and `int_toString`.
-/

namespace MangaShelf

namespace Text

/-! ### Texts without a character -/

lemma dropWhile_of_forall_not {p : Char → Bool} {cs : List Char} (h : ∀ c ∈ cs, p c = false) :
    cs.dropWhile p = cs := by
  cases cs with
  | nil => rfl
  | cons c cs => rw [List.dropWhile_cons, h c List.mem_cons_self, if_neg Bool.false_ne_true]

/-- Nothing is dropped from a text without the characters that are dropped. -/
lemma trimBoth_of_forall_not {p : Char → Bool} {cs : List Char} (h : ∀ c ∈ cs, p c = false) :
    trimBoth p cs = cs := by
  rw [trimBoth, dropWhile_of_forall_not h,
    dropWhile_of_forall_not fun c hc => h c (List.mem_reverse.mp hc), List.reverse_reverse]

lemma cutAt_of_notMem {sep : Char} {cs : List Char} (h : sep ∉ cs) : cutAt sep cs = (cs, none) := by
  induction cs with
  | nil => rfl
  | cons c cs ih =>
    rw [List.mem_cons, not_or] at h
    rw [cutAt, if_neg (Ne.symm h.1), ih h.2]

lemma occursIn_of_notMem {first : Char} {needle cs : List Char} (h : first ∉ cs) :
    occursIn (first :: needle) cs = false := by
  induction cs with
  | nil => rfl
  | cons c cs ih =>
    rw [List.mem_cons, not_or] at h
    simp [occursIn, List.isPrefixOf, h.1, ih h.2]

/-! ### Digits -/

section

variable {cs : List Char} (h : ∀ c ∈ cs, Json.isDigit c = true)

include h

lemma notMem_of_isDigit {c : Char} (hc : Json.isDigit c = false) : c ∉ cs := by
  intro hmem
  rw [h c hmem] at hc
  cases hc

lemma filter_of_isDigit : cs.filter (· != '_') = cs := by
  rw [List.filter_eq_self]
  intro c hc
  simpa using Json.ne_of_isDigit (h c hc) (by decide : Json.isDigit '_' = false)

lemma not_isBlank_of_isDigit : ∀ c ∈ cs, isBlank c = false := by
  intro c hc
  have hdigit := h c hc
  rw [Json.isDigit_eq, Char.isDigit_iff_toNat] at hdigit
  simp only [isBlank, Bool.or_eq_false_iff, Bool.and_eq_false_iff, decide_eq_false_iff_not,
    beq_eq_false_iff_ne]
  simp only [Char.reduceToNat] at hdigit
  omega

/-- The total of digits is their value, counted on from what stands before. -/
lemma digitsTotal?_of_isDigit (after : Bool) (hafter : after = true ∨ cs ≠ []) (total : Nat) :
    digitsTotal? after total cs =
      some (cs.foldl (fun n c => 10 * n + (c.toNat - '0'.toNat)) total) := by
  induction cs generalizing after total with
  | nil => simp [digitsTotal?, hafter.resolve_right (by simp)]
  | cons c cs ih =>
    have hc := h c List.mem_cons_self
    have hne : c ≠ '_' := Json.ne_of_isDigit hc (by decide)
    have hvalue : decimalValue? c = some (c.toNat - 48) := by
      have hdigit := hc
      rw [Json.isDigit_eq] at hdigit
      have hbound := Char.isDigit_iff_toNat.mp hdigit
      simp only [Char.reduceToNat] at hbound
      rw [decimalValue?, if_pos (by omega), if_pos hdigit]
    rw [digitsTotal?, if_neg hne, hvalue, List.foldl_cons]
    exact ih (fun d hd => h d (List.mem_cons_of_mem c hd)) true (.inl rfl) _

/-- Digits alone are read as their value, if they are not too many. -/
lemma integer?_of_isDigit (hne : cs ≠ []) :
    integer? (String.ofList cs) =
      if maxIntegerDigits < cs.length then none else some (Json.digitsValue cs : Int) := by
  have htotal := digitsTotal?_of_isDigit h false (.inr hne) 0
  have hminus : '-' ∉ cs := notMem_of_isDigit h (by decide)
  have hplus : '+' ∉ cs := notMem_of_isDigit h (by decide)
  rw [integer?, String.toList_ofList, trimBoth_of_forall_not (not_isBlank_of_isDigit h)]
  dsimp only
  split
  next => simp at hminus
  next => simp at hplus
  next =>
    rw [filter_of_isDigit h, htotal]
    split <;> rfl

/-- Digits alone are read as their value by the other reader, too. -/
lemma intOfText?_of_isDigit (hne : cs ≠ []) :
    Config.Check.intOfText? (String.ofList cs) = some (Json.digitsValue cs : Int) := by
  have hpoint : '.' ∉ cs := notMem_of_isDigit h (by decide)
  have hmark : '_' ∉ cs := notMem_of_isDigit h (by decide)
  have hpadding : ∀ c ∈ cs, Config.Check.isPadding c = false := by
    intro c hc
    rw [Config.Check.isPadding, not_isBlank_of_isDigit h c hc, Bool.false_and]
  have hkept : Config.Check.dropUnderscores cs = some cs := by
    have hends : ¬ (cs.head? = some '_' ∨ cs.getLast? = some '_' ∨
        occursIn ['_', '_'] cs = true) := by
      rintro (hfirst | hlast | hinside)
      · exact hmark (List.mem_of_head? hfirst)
      · exact hmark (List.mem_of_getLast? hlast)
      · rw [occursIn_of_notMem hmark] at hinside
        cases hinside
    rw [Config.Check.dropUnderscores, if_neg hends, filter_of_isDigit h]
  have hdigits : ¬ (cs.isEmpty || !cs.all Json.isDigit) = true := by
    rw [List.all_eq_true.mpr h, List.isEmpty_eq_false_iff.mpr hne]
    decide
  have hminus : '-' ∉ cs := notMem_of_isDigit h (by decide)
  have hplus : '+' ∉ cs := notMem_of_isDigit h (by decide)
  rw [Config.Check.intOfText?, String.toList_ofList, trimBoth_of_forall_not hpadding]
  split
  next negative signed hsigned =>
    -- Neither sign stands in front.
    split at hsigned
    · simp at hminus
    · simp at hplus
    obtain ⟨rfl, rfl⟩ := Prod.mk.inj hsigned
    rw [cutAt_of_notMem hpoint]
    dsimp only [Option.bind_eq_bind, Option.bind_some]
    rw [hkept]
    exact if_neg hdigits

end

/-! ### Written numbers -/

/-- A number is read back as an argument if it does not have too many digits. -/
lemma integer?_toString (n : Nat) :
    integer? (toString n) = if n < 10 ^ maxIntegerDigits then some (n : Int) else none := by
  have hlength : maxIntegerDigits < (Nat.toDigits 10 n).length ↔ ¬ n < 10 ^ maxIntegerDigits := by
    rw [← Nat.length_toDigits_le_iff (by decide) (by decide), Nat.not_le]
  rw [Nat.toString_eq_ofList_toDigits,
    integer?_of_isDigit (fun _ => Json.isDigit_of_mem_toDigits) Nat.toDigits_ne_nil,
    Json.digitsValue_toDigits]
  simp only [hlength, ite_not]

end Text

/-- A number is read back as a parameter if it does not have too many digits. -/
lemma Config.Check.int_toString (n : Nat) :
    Config.Check.int (.string (toString n)) =
      if n < 10 ^ Text.maxIntegerDigits then .ok (n : Int) else .refuse .intTooLong := by
  have hlength : Json.maxDigits < (toString n).length ↔ ¬ n < 10 ^ Text.maxIntegerDigits := by
    rw [Nat.toString_eq_ofList_toDigits, String.length_ofList,
      ← Nat.length_toDigits_le_iff (by decide) (by decide), Nat.not_le]
    rfl
  have hvalue : Config.Check.intOfText? (toString n) = some (n : Int) := by
    rw [Nat.toString_eq_ofList_toDigits,
      Text.intOfText?_of_isDigit (fun _ => Json.isDigit_of_mem_toDigits) Nat.toDigits_ne_nil,
      Json.digitsValue_toDigits]
  rw [Config.Check.int]
  simp only [hlength, hvalue, ite_not]

end MangaShelf
