import Mathlib.Algebra.Group.Nat.Defs
import Mathlib.Tactic.Set
import MangaShelf.Proofs.Json.Scalar

/-!
# Written values are read back

A value without floating-point numbers is read back from its written form, on one line or on many:
`readValue_chars`. All that matters of what comes after it is that it does not go on a number. On
one line the written form has no line breaks: `noControl_chars`.
-/

namespace MangaShelf.Json

/-- A value without floating-point numbers that a reader of `depth` takes: at most so many
containers stand inside each other, whole numbers are not too long, and no object has two members
with one key. -/
inductive Plain : Nat → Json → Prop where
  | null {depth : Nat} : Plain depth .null
  | bool {depth : Nat} (b : Bool) : Plain depth (.bool b)
  | int {depth : Nat} {n : Int} (hdigits : (Nat.toDigits 10 n.natAbs).length ≤ maxDigits) :
    Plain depth (.int n)
  | string {depth : Nat} (s : String) : Plain depth (.string s)
  | array {depth : Nat} {items : List Json} (hitems : ∀ v ∈ items, Plain depth v) :
    Plain (depth + 1) (.array items)
  | object {depth : Nat} {members : List (String × Json)} (hkeys : (members.map (·.1)).Nodup)
    (hmembers : ∀ m ∈ members, Plain depth m.2) : Plain (depth + 1) (.object members)

/-- A natural number is plain if it does not have too many digits. -/
lemma plain_nat (depth : Nat) {n : Nat} (h : n < 10 ^ maxDigits) : (Json.int n).Plain depth :=
  .int ((Nat.length_toDigits_le_iff (by decide) (by decide)).mpr h)

/-! ### Values -/

section

variable {sp : Spacing} {value : List Char → Except ReadError (Json × List Char)}

/-- A written value begins with a character of its own, which closes no array. -/
lemma exists_chars_eq_cons (sp : Spacing) {depth : Nat} {v : Json} (h : Plain depth v) (level : Nat) :
    ∃ c cs, chars sp level v = c :: cs ∧ isSpace c = false ∧ c ≠ ']' := by
  cases h with
  | null => exact ⟨_, _, rfl, rfl, by decide⟩
  | bool b => cases b <;> exact ⟨_, _, rfl, rfl, by decide⟩
  | @int _ n hdigits =>
    obtain ⟨c, cs, hcs, hc⟩ := exists_toDigits_eq_cons n.natAbs
    simp only [chars, intDigits, hcs]
    split
    · exact ⟨_, _, rfl, rfl, by decide⟩
    · exact ⟨c, cs, rfl, isSpace_of_isDigit hc, ne_of_isDigit hc (by decide)⟩
  | string s => exact ⟨_, _, rfl, rfl, by decide⟩
  | @array _ items _ =>
    cases items <;> exact ⟨_, _, rfl, rfl, by decide⟩
  | @object _ members _ _ =>
    cases members <;> exact ⟨_, _, rfl, rfl, by decide⟩

/-- Closing a container ends the value in it. -/
lemma ends_close {blanks : List Char} (hblanks : AllSpace blanks) {c : Char} (hc : c = ']' ∨ c = '}')
    (rest : List Char) : Ends (blanks ++ c :: rest) := by
  refine ends_of_allSpace hblanks ?_
  intro d hd
  obtain rfl : c = d := by simpa using hd
  rcases hc with rfl | rfl <;> decide

/-- A new member comes after those that are there. -/
lemma setMember_of_notMem {key : String} (v : Json) {members : List (String × Json)}
    (h : key ∉ members.map (·.1)) : setMember key v members = members ++ [(key, v)] := by
  induction members with
  | nil => rfl
  | cons m ms ih =>
    obtain ⟨k, w⟩ := m
    simp only [List.map_cons, List.mem_cons, not_or] at h
    rw [setMember, if_neg (Ne.symm h.1), ih h.2]
    rfl

variable (hsp : sp.Blank) (level : Nat)

include hsp

lemma ends_comma (rest : List Char) : Ends (sp.comma ++ rest) := by
  obtain ⟨blanks, hcomma, -⟩ := hsp.comma
  rw [hcomma]
  intro d hd
  obtain rfl : ',' = d := by simpa using hd
  decide

/-- Items whose written forms are read back are read back as a list. -/
lemma readItems_chars {v : Json} {vs : List Json}
    (hstart : ∀ w ∈ v :: vs, ∃ c cs, chars sp level w = c :: cs ∧ isSpace c = false ∧ c ≠ ']')
    (hread : ∀ w ∈ v :: vs, ∀ rest, Ends rest → value (chars sp level w ++ rest) = .ok (w, rest))
    {blanks : List Char} (hblanks : AllSpace blanks) {fuel : Nat} (hfuel : vs.length < fuel)
    (done : List Json) (rest : List Char) :
    readItems value fuel done
        (chars sp level v ++ (charsItems sp level vs ++ (blanks ++ ']' :: rest))) =
      .ok (done.reverse ++ v :: vs, rest) := by
  induction vs generalizing v done fuel with
  | nil =>
    obtain ⟨fuel, rfl⟩ := Nat.exists_eq_succ_of_ne_zero (by omega : fuel ≠ 0)
    have hv := hread v List.mem_cons_self (blanks ++ ']' :: rest) (ends_close hblanks (.inl rfl) rest)
    refine bind_eq_ok.mpr ⟨(v, blanks ++ ']' :: rest), hv, ?_⟩
    simp [skipSpaces_append_cons hblanks (by decide : isSpace ']' = false)]
  | cons w ws ih =>
    obtain ⟨fuel, rfl⟩ := Nat.exists_eq_succ_of_ne_zero (by omega : fuel ≠ 0)
    obtain ⟨between, hcomma, hbetween⟩ := hsp.comma
    set more := charsItems sp level ws ++ (blanks ++ ']' :: rest) with hmore
    have hv := hread v List.mem_cons_self
      (sp.comma ++ (sp.newline level ++ (chars sp level w ++ more))) (ends_comma hsp _)
    have hshorter : ws.length < fuel := by simpa using hfuel
    have hws := ih (v := w) (fun u hu => hstart u (List.mem_cons_of_mem v hu))
      (fun u hu => hread u (List.mem_cons_of_mem v hu)) hshorter (v :: done)
    obtain ⟨c, cs, hw, hspace, hclose⟩ := hstart w (by simp)
    have hnext : skipSpaces (between ++ (sp.newline level ++ (chars sp level w ++ more))) =
        chars sp level w ++ more := by
      rw [skipSpaces_append hbetween, skipSpaces_append (sp.allSpace_newline level), hw,
        List.cons_append, skipSpaces_cons hspace]
    have hhead : (chars sp level w ++ more).head? ≠ some ']' := by simp [hw, hclose]
    have heq : charsItems sp level (w :: ws) ++ (blanks ++ ']' :: rest) =
        sp.comma ++ (sp.newline level ++ (chars sp level w ++ more)) := by
      simp [charsItems, hmore]
    rw [heq]
    refine bind_eq_ok.mpr ⟨_, hv, ?_⟩
    dsimp only
    rw [hcomma, List.cons_append, skipSpaces_cons (by decide)]
    dsimp only
    rw [if_neg (by decide), if_pos rfl, hnext, if_neg hhead, hws, List.reverse_cons,
      List.append_assoc]
    rfl

/-- A new member is read up to what comes after it. -/
lemma readMembers_member {k : String} {v : Json} {more : List Char}
    (hstart : ∃ c cs, chars sp level v = c :: cs ∧ isSpace c = false)
    (hread : value (chars sp level v ++ more) = .ok (v, more))
    {done : List (String × Json)} (hkey : k ∉ done.map (·.1)) (fuel : Nat) :
    readMembers value (fuel + 1) done (quoted k ++ (sp.colon ++ (chars sp level v ++ more))) =
      match skipSpaces more with
      | [] => fault []
      | c :: after =>
        if c = '}' then .ok (done ++ [(k, v)], after)
        else if c = ',' then
          if (skipSpaces after).head? = some '}' then fault (c :: after)
          else readMembers value fuel (done ++ [(k, v)]) (skipSpaces after)
        else fault (c :: after) := by
  obtain ⟨blanks, hcolon, hblanks⟩ := hsp.colon
  obtain ⟨c, cs, hc, hspace⟩ := hstart
  have hquoted : quoted k ++ (sp.colon ++ (chars sp level v ++ more)) =
      '"' :: (k.toList.flatMap escapeChar ++
        '"' :: (sp.colon ++ (chars sp level v ++ more))) := by
    simp [quoted]
  have hvalue : skipSpaces (blanks ++ (chars sp level v ++ more)) = chars sp level v ++ more := by
    rw [hc, List.cons_append, skipSpaces_append_cons hblanks hspace]
  rw [hquoted, readMembers, readString_written]
  simp only [bind, Except.bind, hcolon, List.cons_append]
  rw [skipSpaces_cons (by decide)]
  cases hmore : skipSpaces more with
  | nil => simp only [hvalue, hread, hmore]
  | cons c after => simp only [hvalue, hread, setMember_of_notMem v hkey, hmore]

/-- Members with keys that differ, whose written values are read back, are read back as they are. -/
lemma readMembers_chars {k : String} {v : Json} {ms : List (String × Json)}
    (hstart : ∀ m ∈ (k, v) :: ms, ∃ c cs, chars sp level m.2 = c :: cs ∧ isSpace c = false)
    (hread : ∀ m ∈ (k, v) :: ms, ∀ rest, Ends rest →
      value (chars sp level m.2 ++ rest) = .ok (m.2, rest))
    {blanks : List Char} (hblanks : AllSpace blanks) {fuel : Nat} (hfuel : ms.length < fuel)
    (done : List (String × Json)) (hkeys : ((done ++ (k, v) :: ms).map (·.1)).Nodup)
    (rest : List Char) :
    readMembers value fuel done
        (quoted k ++ (sp.colon ++ (chars sp level v ++
          (charsMembers sp level ms ++ (blanks ++ '}' :: rest))))) =
      .ok (done ++ (k, v) :: ms, rest) := by
  have hkey {done rest : List (String × Json)} {k : String} {v : Json}
      (h : ((done ++ (k, v) :: rest).map (·.1)).Nodup) : k ∉ done.map (·.1) := by
    rw [List.map_append, List.map_cons] at h
    exact fun hk => (List.nodup_append.mp h).2.2 k hk k List.mem_cons_self rfl
  induction ms generalizing k v done fuel with
  | nil =>
    obtain ⟨fuel, rfl⟩ := Nat.exists_eq_succ_of_ne_zero (by omega : fuel ≠ 0)
    have hv := hread (k, v) List.mem_cons_self (blanks ++ '}' :: rest)
      (ends_close hblanks (.inr rfl) rest)
    rw [charsMembers, List.nil_append,
      readMembers_member hsp level (hstart _ List.mem_cons_self) hv (hkey hkeys),
      skipSpaces_append_cons hblanks (by decide)]
    rfl
  | cons m ms ih =>
    obtain ⟨fuel, rfl⟩ := Nat.exists_eq_succ_of_ne_zero (by omega : fuel ≠ 0)
    obtain ⟨key, w⟩ := m
    obtain ⟨between, hcomma, hbetween⟩ := hsp.comma
    set more := sp.colon ++ (chars sp level w ++
      (charsMembers sp level ms ++ (blanks ++ '}' :: rest))) with hmore
    have hv := hread (k, v) List.mem_cons_self
      (sp.comma ++ (sp.newline level ++ (quoted key ++ more))) (ends_comma hsp _)
    have hshorter : ms.length < fuel := by simpa using hfuel
    have hms := ih (k := key) (v := w) (fun m hm => hstart m (List.mem_cons_of_mem _ hm))
      (fun m hm => hread m (List.mem_cons_of_mem _ hm)) hshorter (done ++ [(k, v)])
      (by simpa using hkeys)
    have hnext : skipSpaces (between ++ (sp.newline level ++ (quoted key ++ more))) =
        quoted key ++ more := by
      rw [skipSpaces_append hbetween, skipSpaces_append (sp.allSpace_newline level)]
      exact skipSpaces_cons (by decide) _
    have hhead : (quoted key ++ more).head? ≠ some '}' := by
      simp [quoted]
    have heq : charsMembers sp level ((key, w) :: ms) ++ (blanks ++ '}' :: rest) =
        sp.comma ++ (sp.newline level ++ (quoted key ++ more)) := by
      simp [charsMembers, hmore]
    rw [heq, readMembers_member hsp level (hstart _ List.mem_cons_self) hv (hkey hkeys), hcomma,
      List.cons_append, skipSpaces_cons (by decide)]
    dsimp only
    rw [if_neg (by decide), if_pos rfl, hnext, if_neg hhead, hms, List.append_assoc]
    rfl

lemma length_le_charsItems (vs : List Json) : vs.length ≤ (charsItems sp level vs).length := by
  induction vs with
  | nil => simp
  | cons v vs ih =>
    obtain ⟨blanks, hcomma, -⟩ := hsp.comma
    simp only [charsItems, hcomma, List.length_append, List.length_cons]
    omega

lemma length_le_charsMembers (ms : List (String × Json)) :
    ms.length ≤ (charsMembers sp level ms).length := by
  induction ms with
  | nil => simp
  | cons m ms ih =>
    obtain ⟨blanks, hcomma, -⟩ := hsp.comma
    simp only [charsMembers, hcomma, List.length_append, List.length_cons]
    omega

end

section

variable {sp : Spacing}

/-- After an opening bracket that nothing closes at once the items are read. -/
lemma readValue_bracket (depth : Nat) {cs inner : List Char} (h : skipSpaces cs = inner)
    (hopen : inner.head? ≠ some ']') :
    readValue (depth + 1) ('[' :: cs) =
      (readItems (readValue depth) (inner.length + 1) [] inner).map fun read =>
        (.array read.1, read.2) := by
  subst h
  rw [readValue]
  dsimp only
  split
  next after heq => simp [heq] at hopen
  next => rfl

/-- After an opening brace that nothing closes at once the members are read. -/
lemma readValue_brace (depth : Nat) {cs inner : List Char} (h : skipSpaces cs = inner)
    (hopen : inner.head? ≠ some '}') :
    readValue (depth + 1) ('{' :: cs) =
      (readMembers (readValue depth) (inner.length + 1) [] inner).map fun read =>
        (.object read.1, read.2) := by
  subst h
  rw [readValue]
  dsimp only
  split
  next after heq => simp [heq] at hopen
  next => rfl

/-- What begins with an opening brace is read as an object, if at all. -/
lemma exists_members_of_readValue {depth : Nat} {cs rest : List Char} {v : Json}
    (h : readValue depth ('{' :: cs) = .ok (v, rest)) : ∃ members, v = .object members := by
  cases depth with
  | zero => cases h
  | succ depth =>
    rw [readValue] at h
    dsimp only at h
    split at h
    next =>
      cases h
      exact ⟨[], rfl⟩
    next =>
      obtain ⟨⟨members, after⟩, -, h⟩ := bind_eq_ok.mp h
      cases h
      exact ⟨members, rfl⟩

lemma exists_members_of_read {cs : List Char} {v : Json} (h : read ('{' :: cs) = .ok v) :
    ∃ members, v = .object members := by
  obtain ⟨⟨w, rest⟩, hw, h⟩ := bind_eq_ok.mp h
  dsimp only at h
  split at h
  next =>
    obtain rfl := Except.ok.inj h
    exact exists_members_of_readValue hw
  next => cases h

variable (hsp : sp.Blank) (level : Nat)

include hsp

/-- A written array is read back if its items are. -/
lemma readValue_array {depth : Nat} {items : List Json} (hitems : ∀ v ∈ items, Plain depth v)
    (hread : ∀ v ∈ items, ∀ level rest, Ends rest →
      readValue depth (chars sp level v ++ rest) = .ok (v, rest)) (rest : List Char) :
    readValue (depth + 1) (chars sp level (.array items) ++ rest) = .ok (.array items, rest) := by
  cases items with
  | nil => simp [chars, readValue, skipSpaces_cons (by decide : isSpace ']' = false)]
  | cons v vs =>
    obtain ⟨c, cs, hc, hspace, hclose⟩ :=
      exists_chars_eq_cons sp (hitems v List.mem_cons_self) (level + 1)
    set inner := chars sp (level + 1) v ++ (charsItems sp (level + 1) vs ++
      (sp.newline level ++ ']' :: rest)) with hinner
    have hchars : chars sp level (.array (v :: vs)) ++ rest =
        '[' :: (sp.newline (level + 1) ++ inner) := by
      simp [chars, hinner]
    have hskip : skipSpaces (sp.newline (level + 1) ++ inner) = inner := by
      rw [skipSpaces_append (sp.allSpace_newline _), hinner, hc, List.cons_append,
        skipSpaces_cons hspace]
    have hopen : inner.head? ≠ some ']' := by simp [hinner, hc, hclose]
    have hfuel : vs.length < inner.length + 1 := by
      have := length_le_charsItems hsp (level + 1) vs
      simp only [hinner, List.length_append]
      omega
    rw [hchars, readValue_bracket depth hskip hopen, readItems_chars hsp (level + 1)
      (fun w hw => exists_chars_eq_cons sp (hitems w hw) (level + 1))
      (fun w hw => hread w hw (level + 1)) (sp.allSpace_newline level) hfuel]
    rfl

/-- A written object is read back if the values of its members are. -/
lemma readValue_object {depth : Nat} {members : List (String × Json)}
    (hkeys : (members.map (·.1)).Nodup) (hmembers : ∀ m ∈ members, Plain depth m.2)
    (hread : ∀ m ∈ members, ∀ level rest, Ends rest →
      readValue depth (chars sp level m.2 ++ rest) = .ok (m.2, rest)) (rest : List Char) :
    readValue (depth + 1) (chars sp level (.object members) ++ rest) =
      .ok (.object members, rest) := by
  cases members with
  | nil => simp [chars, readValue, skipSpaces_cons (by decide : isSpace '}' = false)]
  | cons m ms =>
    obtain ⟨k, v⟩ := m
    set inner := quoted k ++ (sp.colon ++ (chars sp (level + 1) v ++
      (charsMembers sp (level + 1) ms ++ (sp.newline level ++ '}' :: rest)))) with hinner
    have hchars : chars sp level (.object ((k, v) :: ms)) ++ rest =
        '{' :: (sp.newline (level + 1) ++ inner) := by
      simp [chars, hinner]
    have hskip : skipSpaces (sp.newline (level + 1) ++ inner) = inner := by
      rw [skipSpaces_append (sp.allSpace_newline _)]
      exact skipSpaces_cons (by decide) _
    have hopen : inner.head? ≠ some '}' := by simp [hinner, quoted]
    have hfuel : ms.length < inner.length + 1 := by
      have := length_le_charsMembers hsp (level + 1) ms
      simp only [hinner, List.length_append]
      omega
    have hstart : ∀ m ∈ (k, v) :: ms,
        ∃ c cs, chars sp (level + 1) m.2 = c :: cs ∧ isSpace c = false := by
      intro m hm
      obtain ⟨c, cs, hc, hspace, -⟩ := exists_chars_eq_cons sp (hmembers m hm) (level + 1)
      exact ⟨c, cs, hc, hspace⟩
    rw [hchars, readValue_brace depth hskip hopen, readMembers_chars hsp (level + 1) hstart
      (fun m hm => hread m hm (level + 1)) (sp.allSpace_newline level) hfuel [] hkeys]
    rfl

/-- A written value is read back, with everything that comes after it left to read. -/
lemma readValue_chars {depth : Nat} {v : Json} (h : Plain depth v) {rest : List Char}
    (hrest : Ends rest) : readValue depth (chars sp level v ++ rest) = .ok (v, rest) := by
  induction h generalizing level rest with
  | null => simp [chars, readValue, readWord]
  | bool b => cases b <;> simp [chars, readValue, readWord]
  | int hdigits => exact readValue_intDigits _ hdigits hrest
  | string s =>
    have hquoted : chars sp level (.string s) ++ rest =
        '"' :: (s.toList.flatMap escapeChar ++ '"' :: rest) := by
      simp [chars, quoted]
    rw [hquoted, readValue, readString_written]
    rfl
  | array hitems ih =>
    exact readValue_array hsp level hitems (fun v hv level rest hrest => ih v hv level hrest) rest
  | object hkeys hmembers ih =>
    exact readValue_object hsp level hkeys hmembers
      (fun m hm level rest hrest => ih m hm level hrest) rest

/-- A whole text that is a written value and blanks after it is read as the value. -/
lemma read_chars {v : Json} (h : Plain maxDepth v) {blanks : List Char} (hblanks : AllSpace blanks) :
    read (chars sp level v ++ blanks) = .ok v := by
  obtain ⟨c, cs, hc, hspace, -⟩ := exists_chars_eq_cons sp h level
  have hskip : skipSpaces (chars sp level v ++ blanks) = chars sp level v ++ blanks := by
    rw [hc, List.cons_append, skipSpaces_cons hspace]
  have hend : Ends blanks := by simpa using ends_of_allSpace hblanks ends_nil
  have hrest : skipSpaces blanks = [] := by
    rw [← List.append_nil blanks, skipSpaces_append hblanks]
    rfl
  rw [read, hskip]
  refine bind_eq_ok.mpr ⟨_, readValue_chars hsp level h hend, ?_⟩
  dsimp only
  rw [hrest]

end

/-! ### One line -/

/-- No character controls a device, and so none breaks a line. -/
def NoControl (cs : List Char) : Prop :=
  ∀ c ∈ cs, 32 ≤ c.toNat

@[simp] lemma noControl_nil : NoControl [] := by
  simp [NoControl]

@[simp] lemma noControl_cons {c : Char} {cs : List Char} :
    NoControl (c :: cs) ↔ 32 ≤ c.toNat ∧ NoControl cs :=
  List.forall_mem_cons

@[simp] lemma noControl_append {as bs : List Char} :
    NoControl (as ++ bs) ↔ NoControl as ∧ NoControl bs :=
  List.forall_mem_append

lemma NoControl.notMem {cs : List Char} (h : NoControl cs) {c : Char} (hc : c.toNat < 32) :
    c ∉ cs := fun hmem => absurd (h c hmem) (by omega)

@[simp] lemma Spacing.newline_line (level : Nat) : Spacing.line.newline level = [] := rfl

lemma noControl_escapeChar (c : Char) : NoControl (escapeChar c) := by
  have hhex (n : Nat) : 32 ≤ (hexDigit n).toNat := by
    have hall : ∀ d < 16, 32 ≤ (Nat.digitChar d).toNat := by decide
    exact hall (n % 16) (Nat.mod_lt n (by decide))
  unfold escapeChar
  repeat' split
  all_goals simp_all

lemma noControl_quoted (s : String) : NoControl (quoted s) := by
  have htext : NoControl (s.toList.flatMap escapeChar) := by
    intro c hc
    obtain ⟨d, -, hd⟩ := List.mem_flatMap.mp hc
    exact noControl_escapeChar d c hd
  simp [quoted, htext]

lemma noControl_intDigits (n : Int) : NoControl (intDigits n) := by
  have hdigits : NoControl (Nat.toDigits 10 n.natAbs) := by
    intro c hc
    have hdigit := isDigit_of_mem_toDigits hc
    rw [isDigit, Bool.and_eq_true, decide_eq_true_eq] at hdigit
    exact Nat.le_trans (by decide : 32 ≤ '0'.toNat) hdigit.1
  unfold intDigits
  split
  · simp [hdigits]
  · exact hdigits

lemma noControl_charsItems {vs : List Json} (level : Nat)
    (h : ∀ v ∈ vs, NoControl (chars .line level v)) : NoControl (charsItems .line level vs) := by
  induction vs with
  | nil => simp [charsItems]
  | cons v vs ih =>
    have hv := h v List.mem_cons_self
    have hvs := ih fun w hw => h w (List.mem_cons_of_mem v hw)
    have hcomma : NoControl Spacing.line.comma := by simp [Spacing.line]
    simp [charsItems, hv, hvs, hcomma]

lemma noControl_charsMembers {ms : List (String × Json)} (level : Nat)
    (h : ∀ m ∈ ms, NoControl (chars .line level m.2)) :
    NoControl (charsMembers .line level ms) := by
  induction ms with
  | nil => simp [charsMembers]
  | cons m ms ih =>
    have hm := h m List.mem_cons_self
    have hms := ih fun m' hm' => h m' (List.mem_cons_of_mem m hm')
    have hcomma : NoControl Spacing.line.comma := by simp [Spacing.line]
    have hcolon : NoControl Spacing.line.colon := by simp [Spacing.line]
    simp [charsMembers, noControl_quoted, hm, hms, hcomma, hcolon]

/-- On one line no character of a written value controls a device. -/
lemma noControl_chars {depth : Nat} {v : Json} (h : Plain depth v) (level : Nat) :
    NoControl (chars .line level v) := by
  induction h generalizing level with
  | null => simp [chars]
  | bool b => cases b <;> simp [chars]
  | int hdigits => exact noControl_intDigits _
  | string s => exact noControl_quoted s
  | @array depth items hitems ih =>
    cases items with
    | nil => simp [chars]
    | cons v vs =>
      have hv := ih v List.mem_cons_self (level + 1)
      have hvs := noControl_charsItems (level + 1) fun w hw =>
        ih w (List.mem_cons_of_mem v hw) (level + 1)
      simp [chars, hv, hvs]
  | @object depth members hkeys hmembers ih =>
    cases members with
    | nil => simp [chars]
    | cons m ms =>
      have hm := ih m List.mem_cons_self (level + 1)
      have hms := noControl_charsMembers (level + 1) fun m' hm' =>
        ih m' (List.mem_cons_of_mem m hm') (level + 1)
      have hcolon : NoControl Spacing.line.colon := by simp [Spacing.line]
      simp [chars, noControl_quoted, hm, hms, hcolon]

end MangaShelf.Json
