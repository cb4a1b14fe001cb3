import MangaShelf.Json.Reader
import MangaShelf.Json.Writer
import MangaShelf.Proofs.Run

/-!
# Strings and whole numbers are read back

The parts of a written value that hold no others: a quoted string is read up to its closing quote
(`readString_written`), and a whole number up to the first character that is no digit
(`readValue_intDigits`).
-/

namespace MangaShelf.Json

/-! ### Blanks -/

/-- The characters are blanks between the parts of a text. -/
def AllSpace (cs : List Char) : Prop :=
  ∀ c ∈ cs, isSpace c = true

/-- Nothing but blanks stands between the marks of a written value and its parts. -/
structure Spacing.Blank (sp : Spacing) : Prop where
  comma : ∃ blanks, sp.comma = ',' :: blanks ∧ AllSpace blanks
  colon : ∃ blanks, sp.colon = ':' :: blanks ∧ AllSpace blanks

lemma Spacing.blank_line : Spacing.line.Blank :=
  ⟨⟨[' '], rfl, by simp [AllSpace, isSpace]⟩, ⟨[' '], rfl, by simp [AllSpace, isSpace]⟩⟩

lemma Spacing.allSpace_newline (sp : Spacing) (level : Nat) : AllSpace (sp.newline level) := by
  unfold newline AllSpace
  split
  · simp
  · intro c hc
    rcases List.mem_cons.mp hc with rfl | hc
    · rfl
    · rw [List.eq_of_mem_replicate hc]
      rfl

lemma skipSpaces_append {blanks : List Char} (h : AllSpace blanks) (cs : List Char) :
    skipSpaces (blanks ++ cs) = skipSpaces cs :=
  List.dropWhile_append_of_pos h

lemma skipSpaces_cons {c : Char} (h : isSpace c = false) (cs : List Char) :
    skipSpaces (c :: cs) = c :: cs := by
  simp [skipSpaces, h]

/-- Blanks before something else are passed over, and nothing more. -/
lemma skipSpaces_append_cons {blanks : List Char} (h : AllSpace blanks) {c : Char}
    (hc : isSpace c = false) (cs : List Char) : skipSpaces (blanks ++ c :: cs) = c :: cs := by
  rw [skipSpaces_append h, skipSpaces_cons hc]

/-! ### Strings -/

lemma hexValue?_hexDigit (n : Nat) : hexValue? (hexDigit n) = some (n % 16) := by
  have hall : ∀ d < 16, hexValue? (Nat.digitChar d) = some d := by decide
  exact hall (n % 16) (Nat.mod_lt n (by decide))

lemma charOfCode_toNat {c : Char} (h : c.toNat < 32) : charOfCode c.toNat = c := by
  rw [charOfCode, if_pos (.inl (by omega)), Char.ofNat_toNat]

/-- An escape by code is read as its character. -/
lemma codeEscape?_of_control {c : Char} (h : c.toNat < 32) {rest : List Char} (hrest : rest ≠ []) :
    codeEscape? ('0' :: '0' :: hexDigit (c.toNat / 16) :: hexDigit c.toNat :: rest) =
      some (c, rest) := by
  have hdigits : hexDigits? 4 0 ('0' :: '0' :: hexDigit (c.toNat / 16) :: hexDigit c.toNat :: rest) =
      some (c.toNat, rest) := by
    have hzero : hexValue? '0' = some 0 := by decide
    simp only [hexDigits?, hzero, hexValue?_hexDigit]
    congr 2
    omega
  obtain ⟨d, ds, rfl⟩ := List.exists_cons_of_ne_nil hrest
  rw [codeEscape?, hdigits]
  have hlow : ¬ (0xD800 ≤ c.toNat ∧ c.toNat ≤ 0xDBFF) := by omega
  simp only [hlow, if_false, charOfCode_toNat h]

/-- One step reads one written character. -/
lemma stringTail_escapeChar (start fuel : Nat) (done : List Char) (c : Char) {rest : List Char}
    (hrest : rest ≠ []) :
    stringTail start (fuel + 1) done (escapeChar c ++ rest) =
      stringTail start fuel (c :: done) rest := by
  by_cases hplain : c = '"' ∨ c = '\\' ∨ c = '\n' ∨ c = '\r' ∨ c = '\t' ∨ c = '\x08' ∨ c = '\x0c'
  · rcases hplain with rfl | rfl | rfl | rfl | rfl | rfl | rfl <;> rfl
  · simp only [not_or] at hplain
    obtain ⟨hquote, hslash, hn, hr, ht, hb, hf⟩ := hplain
    by_cases hcontrol : c.toNat < 32
    · simp [escapeChar, hquote, hslash, hn, hr, ht, hb, hf, hcontrol, stringTail,
        codeEscape?_of_control hcontrol hrest]
    · simp [escapeChar, hquote, hslash, hn, hr, ht, hb, hf, hcontrol, stringTail]

lemma stringTail_of_written (start : Nat) (cs : List Char) {fuel : Nat} (hfuel : cs.length < fuel)
    (done rest : List Char) :
    stringTail start fuel done (cs.flatMap escapeChar ++ '"' :: rest) =
      .ok (String.ofList (done.reverse ++ cs), rest) := by
  induction cs generalizing fuel done with
  | nil =>
    obtain ⟨fuel, rfl⟩ := Nat.exists_eq_succ_of_ne_zero (by omega : fuel ≠ 0)
    simp [stringTail]
  | cons c cs ih =>
    obtain ⟨fuel, rfl⟩ := Nat.exists_eq_succ_of_ne_zero (by omega : fuel ≠ 0)
    rw [List.flatMap_cons, List.append_assoc, stringTail_escapeChar start fuel done c (by simp),
      ih (by simpa using hfuel)]
    simp

lemma length_le_written (cs : List Char) : cs.length ≤ (cs.flatMap escapeChar).length := by
  induction cs with
  | nil => simp
  | cons c cs ih =>
    have hne : 0 < (escapeChar c).length := by
      unfold escapeChar
      repeat' split
      all_goals simp
    simp only [List.flatMap_cons, List.length_append, List.length_cons]
    omega

/-- A quoted string is read back. -/
lemma readString_written (s : String) (rest : List Char) :
    readString (s.toList.flatMap escapeChar ++ '"' :: rest) = .ok (s, rest) := by
  have hfuel : s.toList.length < (s.toList.flatMap escapeChar ++ '"' :: rest).length + 1 := by
    have := length_le_written s.toList
    simp only [List.length_append]
    omega
  rw [readString, stringTail_of_written _ _ hfuel]
  simp

/-! ### Whole numbers -/

/-- What comes after a value does not go on a number. -/
def Ends (cs : List Char) : Prop :=
  ∀ c ∈ cs.head?, isDigit c = false ∧ c ≠ '.' ∧ c ≠ 'e' ∧ c ≠ 'E'

lemma ends_nil : Ends [] := by
  simp [Ends]

lemma ends_of_allSpace {blanks : List Char} (h : AllSpace blanks) {rest : List Char}
    (hrest : Ends rest) : Ends (blanks ++ rest) := by
  cases blanks with
  | nil => exact hrest
  | cons c cs =>
    intro d hd
    obtain rfl : c = d := by simpa using hd
    have hspace := h c List.mem_cons_self
    simp only [isSpace, Bool.or_eq_true, beq_iff_eq] at hspace
    rcases hspace with ((rfl | rfl) | rfl) | rfl <;> decide

lemma isDigit_eq (c : Char) : isDigit c = c.isDigit := by
  simp [isDigit, Char.isDigit, Char.le_def]

lemma isDigit_of_mem_toDigits {n : Nat} {c : Char} (h : c ∈ Nat.toDigits 10 n) :
    isDigit c = true := by
  rw [isDigit_eq]
  exact Nat.isDigit_of_mem_toDigits (by decide) (by decide) h

lemma exists_toDigits_eq_cons (n : Nat) :
    ∃ c cs, Nat.toDigits 10 n = c :: cs ∧ isDigit c = true := by
  obtain ⟨c, cs, hcs⟩ := List.exists_cons_of_ne_nil (Nat.toDigits_ne_nil (n := n) (b := 10))
  exact ⟨c, cs, hcs, isDigit_of_mem_toDigits (hcs ▸ List.mem_cons_self)⟩

lemma digitsValue_toDigits (n : Nat) : digitsValue (Nat.toDigits 10 n) = n :=
  Nat.ofDigitChars_ten_toDigits

/-- Only the number zero begins with a zero. -/
lemma toDigits_eq_zero_cons {n : Nat} {ds : List Char} (h : Nat.toDigits 10 n = '0' :: ds) :
    ds = [] := by
  induction n using Nat.strongRecOn generalizing ds with
  | ind n ih =>
    by_cases hlt : n < 10
    · rw [Nat.toDigits_of_lt_base hlt] at h
      simp_all
    · rw [Nat.toDigits_of_base_le (by decide) (by omega)] at h
      obtain ⟨c, cs, hcs, -⟩ := exists_toDigits_eq_cons (n / 10)
      rw [hcs] at h
      obtain rfl : c = '0' := by simpa using congrArg List.head? h
      obtain rfl := ih (n / 10) (by omega) hcs
      have hvalue := digitsValue_toDigits (n / 10)
      rw [hcs] at hvalue
      have : n / 10 = 0 := by simpa [digitsValue] using hvalue.symm
      omega

lemma takeWhile_isDigit {ds rest : List Char} (h : ∀ c ∈ ds, isDigit c = true) (hrest : Ends rest) :
    (ds ++ rest).takeWhile isDigit = ds ∧ (ds ++ rest).dropWhile isDigit = rest := by
  rw [List.takeWhile_append_of_pos h, List.dropWhile_append_of_pos h]
  cases rest with
  | nil => simp
  | cons c cs => simp [(hrest c rfl).1]

lemma fractionDigits_of_ends {rest : List Char} (h : Ends rest) : fractionDigits rest = none := by
  cases rest with
  | nil => rfl
  | cons c cs => 
    have := (h c rfl).2.1
    unfold fractionDigits
    split
    · simp_all
    · rfl

lemma exponentPart_of_ends {rest : List Char} (h : Ends rest) : exponentPart rest = none := by
  cases rest with
  | nil => rfl
  | cons c cs => 
    obtain ⟨-, -, he, hE⟩ := h c rfl
    simp [exponentPart, he, hE]

lemma readNumber_toDigits (negative : Bool) {n : Nat} (hn : (Nat.toDigits 10 n).length ≤ maxDigits)
    {rest : List Char} (hrest : Ends rest) :
    readNumber negative (Nat.toDigits 10 n ++ rest) =
      some (.ok (.int (if negative then -n else n), rest)) := by
  obtain ⟨c, cs, hcs, hc⟩ := exists_toDigits_eq_cons n
  have hdigits : ∀ d ∈ cs, isDigit d = true := fun d hd =>
    isDigit_of_mem_toDigits (hcs ▸ List.mem_cons_of_mem c hd)
  obtain ⟨htake, hdrop⟩ := takeWhile_isDigit hdigits hrest
  have hwhole : (if c = '0' then ['0'] else c :: (cs ++ rest).takeWhile isDigit) = c :: cs ∧
      (if c = '0' then cs ++ rest else (cs ++ rest).dropWhile isDigit) = rest := by
    split
    next hzero =>
      subst hzero
      obtain rfl := toDigits_eq_zero_cons hcs
      simp
    next => rw [htake, hdrop]; exact ⟨rfl, rfl⟩
  have hvalue : digitsValue (c :: cs) = n := by rw [← hcs, digitsValue_toDigits]
  rw [hcs] at hn ⊢
  simp only [List.cons_append, readNumber, hc, if_true, hwhole.1, hwhole.2,
    fractionDigits_of_ends hrest, exponentPart_of_ends hrest]
  simpa [hvalue] using hn

lemma ne_of_isDigit {c d : Char} (hc : isDigit c = true) (hd : isDigit d = false) : c ≠ d := by
  rintro rfl
  simp [hc] at hd

lemma isSpace_of_isDigit {c : Char} (hc : isDigit c = true) : isSpace c = false := by
  have hspace := ne_of_isDigit hc (d := ' ') (by decide)
  have htab := ne_of_isDigit hc (d := '\t') (by decide)
  have hfeed := ne_of_isDigit hc (d := '\n') (by decide)
  have hreturn := ne_of_isDigit hc (d := '\r') (by decide)
  simp [isSpace, hspace, htab, hfeed, hreturn]

/-- Where a digit stands, a number is read. -/
lemma readValue_of_digit (depth : Nat) {c : Char} (hc : isDigit c = true) (cs : List Char) :
    readValue depth (c :: cs) = (readNumber false (c :: cs)).getD (fault (c :: cs)) := by
  have hword : readWord (c :: cs) = none := by
    unfold readWord
    split
    case h_7 => rfl
    all_goals exact absurd (List.cons.inj ‹_›).1 (ne_of_isDigit hc (by decide))
  unfold readValue
  split
  case h_4 =>
    rw [hword]
    dsimp only
    split
    next heq => exact absurd (List.cons.inj heq).1 (ne_of_isDigit hc (by decide))
    next => rfl
  all_goals exact absurd (List.cons.inj ‹_›).1 (ne_of_isDigit hc (by decide))

/-- Where a digit stands after a sign, a negative number is read. -/
lemma readValue_of_sign (depth : Nat) {c : Char} (hc : isDigit c = true) (cs : List Char) :
    readValue depth ('-' :: c :: cs) = (readNumber true (c :: cs)).getD (fault ('-' :: c :: cs)) := by
  have hne : c ≠ 'I' := ne_of_isDigit hc (by decide)
  simp [readValue, readWord, hne]

lemma readValue_intDigits (depth : Nat) {n : Int}
    (hn : (Nat.toDigits 10 n.natAbs).length ≤ maxDigits) {rest : List Char} (hrest : Ends rest) :
    readValue depth (intDigits n ++ rest) = .ok (.int n, rest) := by
  obtain ⟨c, cs, hcs, hc⟩ := exists_toDigits_eq_cons n.natAbs
  have hread := fun negative => readNumber_toDigits negative hn hrest
  rw [hcs, List.cons_append] at hread
  unfold intDigits
  split
  next hneg =>
    rw [hcs, List.cons_append, List.cons_append, readValue_of_sign depth hc, hread]
    simp only [if_true, Option.getD_some]
    congr 3
    omega
  next hpos =>
    rw [hcs, List.cons_append, readValue_of_digit depth hc, hread]
    simp only [Bool.false_eq_true, if_false, Option.getD_some]
    congr 3
    omega

end MangaShelf.Json
