import Mathlib.Data.List.Basic
import Mathlib.Data.List.TakeWhile
import MangaShelf.Pattern.Template
import MangaShelf.Proofs.Text.Integer

/-!
# Reading templates

A template with dollar signs is rewritten into one with backslashes and read as such. What is read
are its own pieces: no backslash, bracket or digit in it is taken for part of an escape that the
rewriting brings in: `templateParts_rewritten`.
-/

namespace MangaShelf

namespace Text

lemma isDecimal_of_isDigit {c : Char} (h : Json.isDigit c = true) : isDecimal c = true := by
  rw [Json.isDigit_eq] at h
  have hascii : c.toNat < 128 := by
    have := Char.isDigit_iff_toNat.mp h
    simp only [Char.reduceToNat] at this
    omega
  simp [isDecimal, decimalValue?, hascii, h]

lemma takeWhile_eq_nil_iff {p : Char → Bool} {cs : List Char} :
    cs.takeWhile p = [] ↔ ∀ c ∈ cs.head?, p c = false := by
  cases cs with
  | nil => simp
  | cons c cs => cases hc : p c <;> simp [hc]

lemma head?_dropWhile (p : Char → Bool) (cs : List Char) :
    ∀ c ∈ (cs.dropWhile p).head?, p c = false := by
  intro c hc
  have hfirst := List.head?_dropWhile_not p cs
  rw [Option.mem_def.mp hc] at hfirst
  exact hfirst

lemma substitute_cons_of_not {needle new cs : List Char} {c : Char} (h : ¬ needle <+: c :: cs) :
    substitute needle new 0 (c :: cs) = c :: substitute needle new 0 cs := by
  rw [substitute, if_neg (by rwa [List.isPrefixOf_iff_prefix])]

/-- A text without the first character of what is replaced is left as it is. -/
lemma substitute_append_of_notMem {first : Char} {needle new cs : List Char} (rest : List Char)
    (h : first ∉ cs) :
    substitute (first :: needle) new 0 (cs ++ rest) =
      cs ++ substitute (first :: needle) new 0 rest := by
  induction cs with
  | nil => rfl
  | cons c cs ih =>
    rw [List.mem_cons, not_or] at h
    rw [List.cons_append, substitute_cons_of_not fun hp => h.1 (List.cons_prefix_cons.mp hp).1,
      ih h.2, List.cons_append]

end Text

namespace Pattern

open Text (head?_dropWhile takeWhile_eq_nil_iff)

/-! ### Pieces -/

/-- A piece of a template with dollar signs. -/
inductive Piece where
  | char (c : Char)
  /-- The matched text. -/
  | whole
  /-- The text of the group of a number, given by its digits. -/
  | group (digits : List Char)
  deriving DecidableEq, Repr

/-- The pieces that a template is made of: `$&`, a dollar sign with all the digits after it, and any
other character by itself. -/
inductive Spells : List Char → List Piece → Prop where
  | nil : Spells [] []
  | whole {cs : List Char} {pieces : List Piece} (h : Spells cs pieces) :
    Spells ('$' :: '&' :: cs) (.whole :: pieces)
  | group {digits cs : List Char} {pieces : List Piece} (hne : digits ≠ [])
    (hdigits : ∀ d ∈ digits, Json.isDigit d = true)
    (hend : ∀ d ∈ cs.head?, Json.isDigit d = false) (h : Spells cs pieces) :
    Spells ('$' :: (digits ++ cs)) (.group digits :: pieces)
  | char {c : Char} {cs : List Char} {pieces : List Piece}
    (hc : c = '$' → ∀ d ∈ cs.head?, d ≠ '&' ∧ Json.isDigit d = false) (h : Spells cs pieces) :
    Spells (c :: cs) (.char c :: pieces)

/-- Every text is a template. -/
lemma exists_spells (template : List Char) : ∃ pieces, Spells template pieces := by
  match template with
  | [] => exact ⟨[], .nil⟩
  | c :: cs =>
    obtain ⟨pieces, hpieces⟩ := exists_spells cs
    by_cases hwhole : c = '$' ∧ ∃ rest, cs = '&' :: rest
    · obtain ⟨rfl, rest, hcs⟩ := hwhole
      obtain ⟨pieces, hpieces⟩ := exists_spells rest
      exact ⟨.whole :: pieces, hcs ▸ .whole hpieces⟩
    by_cases hgroup : c = '$' ∧ cs.takeWhile Json.isDigit ≠ []
    · obtain ⟨rfl, hne⟩ := hgroup
      obtain ⟨pieces, hpieces⟩ := exists_spells (cs.dropWhile Json.isDigit)
      have hall := Spells.group hne (fun d hd => List.mem_takeWhile_imp hd)
        (head?_dropWhile Json.isDigit cs) hpieces
      rw [List.takeWhile_append_dropWhile] at hall
      exact ⟨_, hall⟩
    · refine ⟨.char c :: pieces, .char (fun hc d hd => ⟨?_, ?_⟩) hpieces⟩
      · rintro rfl
        exact hwhole ⟨hc, List.head?_eq_some_iff.mp hd⟩
      · exact takeWhile_eq_nil_iff.mp (of_not_not fun hne => hgroup ⟨hc, hne⟩) d hd
termination_by template.length
decreasing_by
  · simp
  · simp only [hcs, List.length_cons]
    omega
  · exact Nat.lt_succ_of_le (List.length_dropWhile_le _ _)

/-! ### Rewriting -/

variable {c : Char} {cs digits : List Char}

lemma head?_doubleBackslashes (cs : List Char) : (doubleBackslashes cs).head? = cs.head? := by
  cases cs with
  | nil => rfl
  | cons c cs =>
    by_cases hc : c = '\\'
    · subst hc
      rfl
    · rw [doubleBackslashes, Text.substitute_cons_of_not
        fun hp => hc (List.cons_prefix_cons.mp hp).1.symm]
      rfl

/-- A text begins as before, or with a backslash. -/
lemma mem_head?_rewriteMatch (hc : c ∈ (rewriteMatch cs).head?) : c = '\\' ∨ c ∈ cs.head? := by
  cases cs with
  | nil => exact .inr hc
  | cons d cs =>
    by_cases hp : ['$', '&'] <+: d :: cs
    · rw [rewriteMatch, Text.substitute, if_pos (List.isPrefixOf_iff_prefix.mpr hp)] at hc
      exact .inl (Option.some.inj hc).symm
    · rw [rewriteMatch, Text.substitute_cons_of_not hp] at hc
      exact .inr hc

lemma rewriteGroups_length (digits cs : List Char) :
    rewriteGroups digits.length (digits ++ cs) = rewriteGroups 0 cs := by
  induction digits with
  | nil => rfl
  | cons d digits ih => exact ih

lemma rewriteGroups_of_ne (hc : c ≠ '$') (cs : List Char) :
    rewriteGroups 0 (c :: cs) = c :: rewriteGroups 0 cs := by
  rw [rewriteGroups, if_neg fun h => hc h.1]

lemma rewriteGroups_of_no_digit (h : ∀ d ∈ cs.head?, Text.isDecimal d = false) :
    rewriteGroups 0 (c :: cs) = c :: rewriteGroups 0 cs := by
  rw [rewriteGroups, if_neg fun hdigits => hdigits.2 (takeWhile_eq_nil_iff.mpr h)]

lemma rewriteGroups_digits (hne : digits ≠ []) (hdigits : ∀ d ∈ digits, Text.isDecimal d = true)
    (hend : ∀ d ∈ cs.head?, Text.isDecimal d = false) :
    rewriteGroups 0 ('$' :: (digits ++ cs)) =
      '\\' :: 'g' :: '<' :: (digits ++ '>' :: rewriteGroups 0 cs) := by
  have htake : (digits ++ cs).takeWhile Text.isDecimal = digits := by
    rw [List.takeWhile_append_of_pos hdigits, takeWhile_eq_nil_iff.mpr hend, List.append_nil]
  rw [rewriteGroups, htake, if_pos ⟨rfl, hne⟩, rewriteGroups_length]

/-- What a text begins with once its backslashes and references to the match are rewritten. -/
lemma mem_head?_matched (hc : c ∈ (rewriteMatch (doubleBackslashes cs)).head?) :
    c = '\\' ∨ c ∈ cs.head? := by
  rw [← head?_doubleBackslashes cs]
  exact mem_head?_rewriteMatch hc

lemma rewritten_whole (cs : List Char) :
    rewritten ('$' :: '&' :: cs) = '\\' :: 'g' :: '<' :: (['0'] ++ '>' :: rewritten cs) := rfl

lemma rewritten_backslash (cs : List Char) :
    rewritten ('\\' :: cs) = '\\' :: '\\' :: rewritten cs := rfl

/-- A character that neither is a backslash nor begins a reference is left as it is. -/
lemma rewritten_char (hbackslash : c ≠ '\\')
    (hdollar : c = '$' → ∀ d ∈ cs.head?, d ≠ '&' ∧ Text.isDecimal d = false) :
    rewritten (c :: cs) = c :: rewritten cs := by
  have hdouble : doubleBackslashes (c :: cs) = c :: doubleBackslashes cs :=
    Text.substitute_cons_of_not fun hp => hbackslash (List.cons_prefix_cons.mp hp).1.symm
  have hmatch : rewriteMatch (c :: doubleBackslashes cs) =
      c :: rewriteMatch (doubleBackslashes cs) := by
    refine Text.substitute_cons_of_not fun hp => ?_
    obtain ⟨rfl, rest, hrest⟩ := List.cons_prefix_cons.mp hp
    refine (hdollar rfl '&' ?_).1 rfl
    rw [← head?_doubleBackslashes, ← hrest]
    rfl
  rw [rewritten, hdouble, hmatch]
  -- a dollar sign may have come to stand before a backslash, but not before a digit
  by_cases hc : c = '$'
  · refine rewriteGroups_of_no_digit fun d hd => ?_
    obtain rfl | hd := mem_head?_matched hd
    · rfl
    · exact (hdollar hc d hd).2
  · exact rewriteGroups_of_ne hc _

lemma rewritten_group (hne : digits ≠ []) (hdigits : ∀ d ∈ digits, Json.isDigit d = true)
    (hend : ∀ d ∈ cs.head?, Text.isDecimal d = false) :
    rewritten ('$' :: (digits ++ cs)) =
      '\\' :: 'g' :: '<' :: (digits ++ '>' :: rewritten cs) := by
  have hdouble : doubleBackslashes ('$' :: digits ++ cs) =
      '$' :: digits ++ doubleBackslashes cs := by
    refine Text.substitute_append_of_notMem cs ?_
    simpa using Text.notMem_of_isDigit hdigits (show Json.isDigit '\\' = false by decide)
  have hmatch : rewriteMatch ('$' :: (digits ++ doubleBackslashes cs)) =
      '$' :: (digits ++ rewriteMatch (doubleBackslashes cs)) := by
    obtain ⟨d, ds, rfl⟩ := List.exists_cons_of_ne_nil hne
    have hfirst : ¬ ['$', '&'] <+: '$' :: (d :: ds ++ doubleBackslashes cs) := by
      intro hp
      obtain ⟨rfl, -⟩ := List.cons_prefix_cons.mp (List.cons_prefix_cons.mp hp).2
      cases hdigits '&' List.mem_cons_self
    rw [rewriteMatch, Text.substitute_cons_of_not hfirst, Text.substitute_append_of_notMem _
      (Text.notMem_of_isDigit hdigits (by decide))]
    rfl
  rw [← List.cons_append, rewritten, hdouble, List.cons_append, hmatch, rewriteGroups_digits hne]
  · rfl
  · exact fun d hd => Text.isDecimal_of_isDigit (hdigits d hd)
  · intro d hd
    obtain rfl | hd := mem_head?_matched hd
    · rfl
    · exact hend d hd

/-! ### Reading -/

/-- The only decimal digits in a text are those from `0` to `9`. -/
def HasPlainDigits (cs : List Char) : Prop :=
  ∀ c ∈ cs, Text.isDecimal c = true → Json.isDigit c = true

instance (cs : List Char) : Decidable (HasPlainDigits cs) :=
  List.decidableBAll _ _

lemma HasPlainDigits.tail (h : HasPlainDigits (c :: cs)) : HasPlainDigits cs :=
  fun d hd => h d (List.mem_cons_of_mem c hd)

lemma HasPlainDigits.isDecimal_eq_false (h : HasPlainDigits cs) {d : Char} (hd : d ∈ cs.head?)
    (hdigit : Json.isDigit d = false) : Text.isDecimal d = false := by
  rw [← Bool.not_eq_true]
  intro hdecimal
  rw [h d (List.mem_of_mem_head? hd) hdecimal] at hdigit
  cases hdigit

variable {groups : Nat} {template : List Char} {pieces : List Piece}

lemma templateParts_length (groups : Nat) (passed cs : List Char) :
    templateParts groups passed.length (passed ++ cs) = templateParts groups 0 cs := by
  induction passed with
  | nil => rfl
  | cons c passed ih => exact ih

lemma templateParts_char (hc : c ≠ '\\') :
    templateParts groups 0 (c :: cs) = do return .char c :: (← templateParts groups 0 cs) := by
  rw [templateParts, if_neg hc]

lemma templateParts_backslashes :
    templateParts groups 0 ('\\' :: '\\' :: cs) =
      do return .char '\\' :: (← templateParts groups 0 cs) := rfl

lemma bracketedGroup_digits (hne : digits ≠ []) (hdigits : ∀ d ∈ digits, Json.isDigit d = true)
    (hfew : digits.length ≤ Json.maxDigits) :
    bracketedGroup groups ('<' :: (digits ++ '>' :: cs)) =
      do return (← groupPart groups (Json.digitsValue digits), digits.length + 2) := by
  have hname : (digits ++ '>' :: cs).takeWhile (· != '>') = digits := by
    rw [List.takeWhile_append_of_pos fun d hd =>
      bne_iff_ne.mpr (Json.ne_of_isDigit (hdigits d hd) (by decide))]
    simp
  have hgood : (digits.isEmpty || decide (digits.length = (digits ++ '>' :: cs).length) ||
      !digits.all Json.isDigit) = false := by
    simpa [hne] using hdigits
  rw [bracketedGroup, hname, if_neg (by rw [hgood]; decide), if_neg (Nat.not_lt.mpr hfew)]

/-- A number of not too many digits in angle brackets is read as the group of that number. -/
lemma templateParts_group (hne : digits ≠ []) (hdigits : ∀ d ∈ digits, Json.isDigit d = true)
    (hfew : digits.length ≤ Json.maxDigits) :
    templateParts groups 0 ('\\' :: 'g' :: '<' :: (digits ++ '>' :: cs)) = do
      return (← groupPart groups (Json.digitsValue digits)) :: (← templateParts groups 0 cs) := by
  have hpassed : templateParts groups (digits.length + 3) ('g' :: '<' :: (digits ++ '>' :: cs)) =
      templateParts groups 0 cs := by
    have hlength := templateParts_length groups ('g' :: '<' :: (digits ++ ['>'])) cs
    simpa using hlength
  show (templateEscape groups ('g' :: '<' :: (digits ++ '>' :: cs)) >>= _) = _
  rw [templateEscape, if_pos rfl, bracketedGroup_digits hne hdigits hfew]
  cases groupPart groups (Json.digitsValue digits) with
  | error refusal => rfl
  | ok part =>
    show (do return [part] ++ (← templateParts groups (digits.length + 3) _)) = _
    rw [hpassed]
    rfl

/-- The part that a piece is read as. -/
def Piece.part (groups : Nat) : Piece → Except Refusal TemplatePart
  | .char c => .ok (.char c)
  | .whole => .ok (.group 0)
  | .group digits => groupPart groups (Json.digitsValue digits)

/-- A template with dollar signs is read piece by piece. -/
lemma templateParts_rewritten (h : Spells template pieces) (hplain : HasPlainDigits template)
    (hfew : ∀ digits, .group digits ∈ pieces → digits.length ≤ Json.maxDigits) :
    templateParts groups 0 (rewritten template) = pieces.mapM (Piece.part groups) := by
  induction h with
  | nil => rfl
  | whole h ih =>
    have hrest := ih hplain.tail.tail fun digits hd => hfew digits (List.mem_cons_of_mem _ hd)
    have hzero : groupPart groups (Json.digitsValue ['0']) = .ok (.group 0) :=
      if_neg (Nat.not_lt_zero groups)
    rw [rewritten_whole, templateParts_group (List.cons_ne_nil _ _)
      (List.forall_mem_singleton.mpr rfl) (by decide), hzero, List.mapM_cons, ← hrest]
    rfl
  | @group digits cs pieces hne hdigits hend h ih =>
    have hcs : HasPlainDigits cs := fun c hc => hplain.tail c (List.mem_append_right _ hc)
    have hrest := ih hcs fun digits hd => hfew digits (List.mem_cons_of_mem _ hd)
    rw [rewritten_group hne hdigits fun d hd => hcs.isDecimal_eq_false hd (hend d hd),
      templateParts_group hne hdigits (hfew digits List.mem_cons_self), List.mapM_cons, ← hrest]
    rfl
  | @char c cs pieces hc h ih =>
    have hrest := ih hplain.tail fun digits hd => hfew digits (List.mem_cons_of_mem _ hd)
    rw [List.mapM_cons, ← hrest]
    -- a backslash is doubled, and the two are read as one
    by_cases hbackslash : c = '\\'
    · rw [hbackslash, rewritten_backslash, templateParts_backslashes]
      rfl
    · rw [rewritten_char hbackslash fun hdollar d hd =>
        ⟨(hc hdollar d hd).1, hplain.tail.isDecimal_eq_false hd (hc hdollar d hd).2⟩,
        templateParts_char hbackslash]
      rfl

lemma Piece.eq_malformed_of_part {piece : Piece} {refusal : Refusal}
    (h : piece.part groups = .error refusal) : refusal = .malformed := by
  cases piece with
  | char c => cases h
  | whole => cases h
  | group digits =>
    rw [part, groupPart] at h
    split at h
    next => exact (Except.error.inj h).symm
    next => cases h

/-- A template that refers to a group beyond those of the pattern is malformed. -/
lemma templateParts_of_beyond (h : Spells template pieces) (hplain : HasPlainDigits template)
    (hfew : ∀ digits, .group digits ∈ pieces → digits.length ≤ Json.maxDigits)
    (hbeyond : ∃ digits, .group digits ∈ pieces ∧ groups < Json.digitsValue digits) :
    templateParts groups 0 (rewritten template) = .error .malformed := by
  obtain ⟨digits, hdigits, hlt⟩ := hbeyond
  have hfails := FailsFor.mapM pieces fun piece _ => FailsFor.error_eq (piece.part groups)
  rw [templateParts_rewritten h hplain hfew]
  cases hparts : pieces.mapM (Piece.part groups) with
  | ok parts =>
    exact absurd hparts (hfails.not_ok .malformed ⟨.group digits, hdigits, if_pos hlt⟩ parts)
  | error refusal =>
    obtain ⟨piece, -, hpiece⟩ := hfails.of_error refusal hparts
    rw [piece.eq_malformed_of_part hpiece]

/-! ### Filling -/

/-- The text of a piece for a match that ends at the place `stop`; a group that took no part in it is
empty. -/
def Piece.fill (matched : List Char) (stop : Place) : Piece → List Char
  | .char c => [c]
  | .whole => matched
  | .group digits => (stop.group? (Json.digitsValue digits)).getD []

lemma Spells.digits_of_group (h : Spells template pieces) (hd : .group digits ∈ pieces) :
    digits ≠ [] ∧ ∀ d ∈ digits, Json.isDigit d = true := by
  induction h with
  | nil => cases hd
  | whole h ih => exact ih ((List.mem_cons.mp hd).resolve_left nofun)
  | group hne hdigits hend h ih =>
    obtain heq | hd := List.mem_cons.mp hd
    · cases heq
      exact ⟨hne, hdigits⟩
    · exact ih hd
  | char hc h ih => exact ih ((List.mem_cons.mp hd).resolve_left nofun)

/-- Digits count on at least tenfold each from what stands before them. -/
lemma mul_pow_le_foldl (total : Nat) (digits : List Char) : total * 10 ^ digits.length ≤
    digits.foldl (fun n c => 10 * n + (c.toNat - '0'.toNat)) total := by
  induction digits generalizing total with
  | nil => simp
  | cons c digits ih =>
    calc total * 10 ^ (digits.length + 1)
        = 10 * total * 10 ^ digits.length := by
          rw [Nat.pow_succ', ← Nat.mul_assoc, Nat.mul_comm total]
      _ ≤ (10 * total + (c.toNat - '0'.toNat)) * 10 ^ digits.length :=
          Nat.mul_le_mul_right _ (Nat.le_add_right _ _)
      _ ≤ _ := ih _

lemma pow_le_digitsValue {d : Char} (hd : Json.isDigit d = true) (hne : d ≠ '0')
    (digits : List Char) : 10 ^ digits.length ≤ Json.digitsValue (d :: digits) := by
  have hpos : 1 ≤ 10 * 0 + (d.toNat - '0'.toNat) := by
    have hdigit := Char.isDigit_iff_toNat.mp (Json.isDigit_eq d ▸ hd)
    have hzero : d.toNat ≠ '0'.toNat := fun h => hne (Char.toNat_inj.mp h)
    omega
  calc 10 ^ digits.length
      ≤ (10 * 0 + (d.toNat - '0'.toNat)) * 10 ^ digits.length := Nat.le_mul_of_pos_left _ hpos
    _ ≤ _ := mul_pow_le_foldl _ digits

/-- A number without a zero in front that does not exceed the number of groups has few digits, and it
is not that of the whole match. -/
lemma Spells.few_digits (h : Spells template pieces) (hd : .group digits ∈ pieces)
    (hhead : digits.head? ≠ some '0') (hle : Json.digitsValue digits < groupLimit) :
    digits.length ≤ Json.maxDigits ∧ Json.digitsValue digits ≠ 0 := by
  obtain ⟨hne, hdigits⟩ := h.digits_of_group hd
  obtain ⟨d, digits, rfl⟩ := List.exists_cons_of_ne_nil hne
  have hpow := pow_le_digitsValue (hdigits d List.mem_cons_self)
    (fun heq => hhead (congrArg some heq)) digits
  have hlength : digits.length < 10 := by
    rw [← Nat.pow_lt_pow_iff_right (show 1 < 10 by decide)]
    exact (hpow.trans_lt hle).trans (by decide)
  refine ⟨?_, ?_⟩
  · rw [List.length_cons, Json.maxDigits]
    omega
  · have := Nat.pow_pos (n := digits.length) (show 0 < 10 by decide)
    omega

/-- The part that a piece is read as, if it can be. -/
def Piece.toPart : Piece → TemplatePart
  | .char c => .char c
  | .whole => .group 0
  | .group digits => .group (Json.digitsValue digits)

/-- If its references are to groups of the pattern, a template is read, and it is filled piece by
piece. -/
lemma exists_templateParts (h : Spells template pieces) (hplain : HasPlainDigits template)
    (hlimit : groups < groupLimit)
    (hgood : ∀ digits, .group digits ∈ pieces →
      digits.head? ≠ some '0' ∧ Json.digitsValue digits ≤ groups) :
    ∃ parts, templateParts groups 0 (rewritten template) = .ok parts ∧
      ∀ f : Found, parts.flatMap (·.expand f) = pieces.flatMap (·.fill f.text f.stop) := by
  have hfew (digits : List Char) (hd : .group digits ∈ pieces) :=
    h.few_digits hd (hgood digits hd).1 ((hgood digits hd).2.trans_lt hlimit)
  refine ⟨pieces.map Piece.toPart, ?_, fun f => ?_⟩
  · have hparts : ∀ piece ∈ pieces, piece.part groups = pure piece.toPart := by
      intro piece hpiece
      cases piece with
      | char c => rfl
      | whole => rfl
      | group digits => exact if_neg (Nat.not_lt.mpr (hgood digits hpiece).2)
    rw [templateParts_rewritten h hplain fun digits hd => (hfew digits hd).1, mapM_congr hparts,
      List.mapM_pure]
    rfl
  · rw [List.flatMap_map]
    refine List.flatMap_congr fun piece hpiece => ?_
    cases piece with
    | char c => rfl
    | whole => rfl
    | group digits =>
      show (f.group? (Json.digitsValue digits)).getD [] = _
      rw [Found.group?, if_neg (hfew digits hpiece).2]
      rfl

end Pattern

end MangaShelf
