import Mathlib.Data.List.Infix
import Mathlib.Tactic.Lemma
import MangaShelf.Markup.Writer

/-!
# Tags that are left out

Markup is written without the tags that repeat the content type. Such a tag ends at the first closing
bracket, so what is left out before a closing bracket does not depend on what follows it:
`dropContentType_append`. Markup stays as it is exactly if none of its parts begins with such a tag.
-/

namespace MangaShelf.Markup

variable {c : Char} {cs ds rest : List Char}

/-- Some markup begins with a tag that is left out, and the rest follows it. -/
def LeavesOut (cs rest : List Char) : Prop :=
  ∃ inside, '>' ∉ inside ∧ cs = contentTypeTag ++ inside ++ '>' :: rest

lemma exists_leavesOut_iff :
    (∃ rest, LeavesOut cs rest) ↔ ∃ after, cs = contentTypeTag ++ after ∧ '>' ∈ after := by
  constructor
  · rintro ⟨rest, inside, -, rfl⟩
    exact ⟨inside ++ '>' :: rest, List.append_assoc _ _ _, by simp⟩
  · rintro ⟨after, rfl, hmem⟩
    obtain ⟨inside, rest, rfl, hinside⟩ := List.eq_append_cons_of_mem hmem
    exact ⟨rest, inside, hinside, (List.append_assoc _ _ _).symm⟩

lemma LeavesOut.length_lt (h : LeavesOut cs rest) : rest.length < cs.length := by
  obtain ⟨inside, -, rfl⟩ := h
  simp only [List.length_append, List.length_cons]
  omega

lemma LeavesOut.append (h : LeavesOut cs rest) (ds : List Char) :
    LeavesOut (cs ++ ds) (rest ++ ds) := by
  obtain ⟨inside, hinside, rfl⟩ := h
  exact ⟨inside, hinside, by simp⟩

lemma not_leavesOut_of_ne (h : c ≠ '<') (rest : List Char) : ¬ LeavesOut (c :: cs) rest := by
  rintro ⟨inside, -, heq⟩
  exact h (List.cons.inj heq).1

/-! ### Leaving out one tag -/

lemma throughMark_cons_of_ne (h : c ≠ '>') (done cs : List Char) :
    throughMark ['>'] done (c :: cs) = throughMark ['>'] (c :: done) cs := by
  rw [throughMark, if_neg]
  rw [List.isPrefixOf_iff_prefix, List.cons_prefix_cons]
  exact fun hfront => h hfront.1.symm

lemma throughMark_append {inside : List Char} (h : '>' ∉ inside) (done rest : List Char) :
    throughMark ['>'] done (inside ++ '>' :: rest) =
      some (done.reverse ++ inside ++ ['>'], rest) := by
  induction inside generalizing done with
  | nil => simp [throughMark]
  | cons c inside ih =>
    rw [List.mem_cons, not_or] at h
    rw [List.cons_append, throughMark_cons_of_ne (Ne.symm h.1), ih h.2]
    simp

lemma throughMark_of_notMem (h : '>' ∉ cs) (done : List Char) : throughMark ['>'] done cs = none := by
  induction cs generalizing done with
  | nil => rfl
  | cons c cs ih =>
    rw [List.mem_cons, not_or] at h
    rw [throughMark_cons_of_ne (Ne.symm h.1), ih h.2]

/-- What is left of a tag is passed over. -/
lemma dropContentType_passed (passed cs : List Char) :
    dropContentType passed.length (passed ++ cs) = dropContentType 0 cs := by
  induction passed with
  | nil => rfl
  | cons c passed ih => exact ih

lemma dropContentType_of_leavesOut (h : LeavesOut cs rest) :
    dropContentType 0 cs = dropContentType 0 rest := by
  obtain ⟨inside, hinside, rfl⟩ := h
  obtain ⟨tail, htag⟩ : ∃ tail, contentTypeTag = '<' :: tail := ⟨_, rfl⟩
  have hbegins : contentTypeTag.isPrefixOf ('<' :: (tail ++ inside ++ '>' :: rest)) = true := by
    simp [htag]
  have hafter : ('<' :: (tail ++ inside ++ '>' :: rest)).drop contentTypeTag.length =
      inside ++ '>' :: rest := by
    simp [htag]
  have hlength : contentTypeTag.length + ([].reverse ++ inside ++ ['>']).length - 1 =
      (tail ++ inside ++ ['>']).length := by
    simp [htag]
    omega
  have hpassed : tail ++ inside ++ '>' :: rest = (tail ++ inside ++ ['>']) ++ rest := by simp
  calc dropContentType 0 (contentTypeTag ++ inside ++ '>' :: rest)
      = dropContentType 0 ('<' :: (tail ++ inside ++ '>' :: rest)) := by rw [htag]; rfl
    _ = dropContentType (tail ++ inside ++ ['>']).length (tail ++ inside ++ '>' :: rest) := by
        rw [dropContentType, if_pos hbegins, hafter, throughMark_append hinside]
        dsimp only
        rw [hlength]
    _ = dropContentType 0 rest := by rw [hpassed, dropContentType_passed]

lemma dropContentType_cons (h : ∀ rest, ¬ LeavesOut (c :: cs) rest) :
    dropContentType 0 (c :: cs) = c :: dropContentType 0 cs := by
  rw [dropContentType]
  split
  · next hbegins =>
    obtain ⟨after, hafter⟩ := List.isPrefixOf_iff_prefix.mp hbegins
    have hnone : '>' ∉ after := fun hmem =>
      let ⟨rest, hrest⟩ := exists_leavesOut_iff.mpr ⟨after, hafter.symm, hmem⟩
      h rest hrest
    rw [← hafter, List.drop_left, throughMark_of_notMem hnone]
  · rfl

/-- Leaving out tags goes from the front: over a tag that is left out, or to the next character. -/
lemma dropContentType_induction {motive : List Char → Prop} (nil : motive [])
    (out : ∀ cs rest, LeavesOut cs rest → motive rest → motive cs)
    (cons : ∀ c cs, (∀ rest, ¬ LeavesOut (c :: cs) rest) → motive cs → motive (c :: cs))
    (cs : List Char) : motive cs := by
  by_cases h : ∃ rest, LeavesOut cs rest
  · obtain ⟨rest, hrest⟩ := h
    have := hrest.length_lt
    exact out cs rest hrest (dropContentType_induction nil out cons rest)
  · cases cs with
    | nil => exact nil
    | cons c cs =>
      exact cons c cs (not_exists.mp h) (dropContentType_induction nil out cons cs)
termination_by cs.length

/-! ### Leaving out all tags -/

lemma dropContentType_length_le (cs : List Char) : (dropContentType 0 cs).length ≤ cs.length := by
  induction cs using dropContentType_induction with
  | nil => exact Nat.le_refl _
  | out cs rest h ih =>
    rw [dropContentType_of_leavesOut h]
    exact ih.trans h.length_lt.le
  | cons c cs h ih =>
    rw [dropContentType_cons h]
    exact Nat.succ_le_succ ih

/-- No tag begins where there is no opening bracket. -/
lemma dropContentType_append_of_notMem (h : '<' ∉ cs) (ds : List Char) :
    dropContentType 0 (cs ++ ds) = cs ++ dropContentType 0 ds := by
  induction cs with
  | nil => rfl
  | cons c cs ih =>
    rw [List.mem_cons, not_or] at h
    rw [List.cons_append, dropContentType_cons (not_leavesOut_of_ne (Ne.symm h.1)), ih h.2]
    rfl

/-- Some markup ends in a closing bracket, if it does not end at once. -/
def IsClosed (cs : List Char) : Prop :=
  ∀ c ∈ cs.getLast?, c = '>'

lemma isClosed_append_bracket (cs : List Char) : IsClosed (cs ++ ['>']) := by
  intro c hc
  simpa [eq_comm] using hc

lemma IsClosed.of_suffix (h : IsClosed cs) (hsuffix : ds <:+ cs) : IsClosed ds := by
  obtain ⟨front, rfl⟩ := hsuffix
  intro c hc
  exact h c (by rw [List.getLast?_append, Option.mem_def.mp hc]; rfl)

/-- A tag that is left out ends with the first closing bracket, whatever follows. -/
lemma IsClosed.leavesOut_of_append (hclosed : IsClosed (c :: cs))
    (h : LeavesOut (c :: cs ++ ds) rest) : ∃ rest, LeavesOut (c :: cs) rest := by
  obtain ⟨front, hfront⟩ : ∃ front, c :: cs = front ++ ['>'] := by
    refine ⟨(c :: cs).dropLast, ?_⟩
    have hlast := hclosed _ (List.getLast?_eq_getLast_of_ne_nil (List.cons_ne_nil c cs))
    rw [← hlast, List.dropLast_append_getLast]
  obtain ⟨inside, hinside, heq⟩ := h
  have htag : '>' ∉ contentTypeTag ++ inside := by
    rw [List.mem_append, not_or]
    exact ⟨by decide, hinside⟩
  -- The first closing bracket after the tag begins is the last of these characters, or is before it.
  rw [hfront, List.append_assoc, List.singleton_append, List.append_eq_append_iff] at heq
  rw [hfront]
  rcases heq with ⟨more, hmore, heq⟩ | ⟨more, hmore, heq⟩
  · cases more with
    | nil => exact ⟨[], inside, hinside, by rw [hmore, List.append_nil]⟩
    | cons d more =>
      obtain rfl := (List.cons.inj heq).1
      exact absurd (by rw [hmore]; simp) htag
  · cases more with
    | nil => exact ⟨[], inside, hinside, by rw [hmore, List.append_nil]⟩
    | cons d more =>
      obtain rfl := (List.cons.inj heq).1
      exact ⟨more ++ ['>'], inside, hinside, by rw [hmore]; simp⟩

/-- What is left out before a closing bracket does not depend on what follows it. -/
lemma dropContentType_append (h : IsClosed cs) (ds : List Char) :
    dropContentType 0 (cs ++ ds) = dropContentType 0 cs ++ dropContentType 0 ds := by
  induction cs using dropContentType_induction with
  | nil => rfl
  | out cs rest hout ih =>
    have hrest : IsClosed rest := by
      obtain ⟨inside, -, rfl⟩ := hout
      exact h.of_suffix ⟨contentTypeTag ++ inside ++ ['>'], by simp⟩
    rw [dropContentType_of_leavesOut hout, dropContentType_of_leavesOut (hout.append ds), ih hrest]
  | cons c cs hnot ih =>
    have hnot' : ∀ rest, ¬ LeavesOut (c :: (cs ++ ds)) rest := fun rest hrest =>
      let ⟨rest, hrest⟩ := h.leavesOut_of_append hrest
      hnot rest hrest
    rw [List.cons_append, dropContentType_cons hnot', dropContentType_cons hnot,
      ih (h.of_suffix (List.suffix_cons c cs)), List.cons_append]

/-- Nothing is left out exactly if nowhere a tag begins that is left out. -/
lemma dropContentType_eq_self_iff :
    dropContentType 0 cs = cs ↔ ∀ ds, ds <:+ cs → ∀ rest, ¬ LeavesOut ds rest := by
  constructor
  · intro h ds hsuffix
    induction cs with
    | nil =>
      rw [List.suffix_nil.mp hsuffix]
      rintro rest ⟨inside, -, heq⟩
      cases heq
    | cons c cs ih =>
      have hfront : ∀ rest, ¬ LeavesOut (c :: cs) rest := by
        intro rest hrest
        have hlength := congrArg List.length h
        rw [dropContentType_of_leavesOut hrest] at hlength
        have := dropContentType_length_le rest
        have := hrest.length_lt
        omega
      rw [dropContentType_cons hfront] at h
      rcases List.suffix_cons_iff.mp hsuffix with rfl | hsuffix
      · exact hfront
      · exact ih (List.cons.inj h).2 hsuffix
  · intro h
    induction cs with
    | nil => rfl
    | cons c cs ih =>
      rw [dropContentType_cons (h _ List.suffix_rfl),
        ih fun ds hsuffix => h ds (hsuffix.trans (List.suffix_cons c cs))]

end MangaShelf.Markup
