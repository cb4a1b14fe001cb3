import MangaShelf.Pattern.Matcher
import MangaShelf.Proofs.Pattern.Reading

/-!
# Running patterns

What running a pattern comes to for parts in a row, for the characters of a text, and for repeated
characters up to one that ends them.
-/

namespace MangaShelf.Pattern

/-! ### Places -/

/-- The place between two parts of a text, after some groups have matched. -/
def Place.amid (groups : List (Nat × Span)) (before after : List Char) : Place :=
  { Place.between before after with groups := groups }

@[simp] lemma Place.left_amid (groups : List (Nat × Span)) (before after : List Char) :
    (amid groups before after).left = after.length := rfl

@[simp] lemma Place.after_amid (groups : List (Nat × Span)) (before after : List Char) :
    (amid groups before after).after = after := rfl

@[simp] lemma Place.groups_amid (groups : List (Nat × Span)) (before after : List Char) :
    (amid groups before after).groups = groups := rfl

variable {groups : List (Nat × Span)} {before after cs : List Char} {c : Char} {t : CharTest}
  {k : Continuation} {found : Place}

lemma run_test_cons :
    (test t).run k (.amid groups before (c :: cs)) =
      if t.has c then k (.amid groups (c :: before) cs) else none := rfl

lemma run_test_of_not_has {s : Place} (h : ∀ c, s.after.head? = some c → t.has c = false) :
    (test t).run k s = none := by
  obtain ⟨before, after, left, groups, hleft⟩ := s
  cases after with
  | nil => rfl
  | cons c cs => exact if_neg (by simp [h c rfl])

/-! ### Parts in a row -/

/-- Parts in a row are run one after the other. -/
lemma run_sequence (done : List Item) (k : Continuation) :
    (sequence done).run k = done.foldl (fun k i => i.pattern.run k) k := by
  induction done using List.reverseRecOn with
  | nil => rfl
  | append_singleton done i ih =>
    rw [sequence_concat, List.foldl_append, ← ih]
    split
    next hempty => rw [hempty]; rfl
    next => rfl

/-- The characters of a text, one after the other. -/
def literals (o : Options) (cs : List Char) (k : Continuation) : Continuation :=
  cs.foldr (fun c k => (literal o c).run k) k

lemma foldl_literals (o : Options) (cs : List Char) (k : Continuation) :
    (cs.map fun c => Item.part (literal o c)).reverse.foldl (fun k i => i.pattern.run k) k =
      literals o cs k := by
  rw [List.foldl_reverse, List.foldr_map]
  rfl

lemma has_literal (o : Options) (ho : o.ignoreCase = false) (c d : Char) :
    (CharTest.one c o.folding).has d = (c == d) := by
  simp [CharTest.has, Options.folding, ho, Folding.takes, Folding.same, Bool.beq_comm]

lemma run_literal_of_ne {o : Options} (ho : o.ignoreCase = false) {s : Place}
    (h : s.after.head? ≠ some c) : (literal o c).run k s = none := by
  refine run_test_of_not_has fun d hd => ?_
  rw [has_literal o ho, beq_eq_false_iff_ne]
  rintro rfl
  exact h hd

lemma literals_append {o : Options} (ho : o.ignoreCase = false) (cs : List Char) :
    literals o cs k (.amid groups before (cs ++ after)) =
      k (.amid groups (cs.reverse ++ before) after) := by
  induction cs generalizing before with
  | nil => rfl
  | cons c cs ih =>
    show (literal o c).run (literals o cs k) (.amid groups before (c :: (cs ++ after))) = _
    rw [literal, run_test_cons, has_literal o ho, beq_self_eq_true, if_pos rfl, ih,
      List.reverse_cons, List.append_assoc]
    rfl

lemma literals_of_not_prefix {o : Options} (ho : o.ignoreCase = false) (h : ¬ cs <+: after) :
    literals o cs k (.amid groups before after) = none := by
  induction cs generalizing before after with
  | nil => exact absurd (List.nil_prefix) h
  | cons c cs ih =>
    cases after with
    | nil => rfl
    | cons d after =>
      show (literal o c).run (literals o cs k) (.amid groups before (d :: after)) = none
      rw [literal, run_test_cons, has_literal o ho]
      split
      next heq =>
        obtain rfl := beq_iff_eq.mp heq
        exact ih fun hprefix => h (List.cons_prefix_cons.mpr ⟨rfl, hprefix⟩)
      next => rfl

/-! ### Repetitions -/

section

variable {body : Continuation → Continuation} {fuel count : Nat} {last : Option Nat} {s : Place}

/-- Another round comes first. -/
lemma greedyRounds_succ (h : last ≠ some s.left) :
    greedyRounds body 0 none k (fuel + 1) count last s =
      (body (greedyRounds body 0 none k fuel (count + 1) (some s.left)) s).or (k s) := by
  simp only [greedyRounds, Nat.not_lt_zero, if_false, reduceCtorEq, h, or_self]
  split <;> simp [*]

/-- What comes after the rounds comes first. -/
lemma lazyRounds_succ (h : last ≠ some s.left) :
    lazyRounds body 0 none k (fuel + 1) count last s =
      (k s).or (body (lazyRounds body 0 none k fuel (count + 1) (some s.left)) s) := by
  simp only [lazyRounds, Nat.not_lt_zero, if_false, reduceCtorEq, h, or_self]
  split <;> simp [*]

end

/-- As many characters as there are are taken, if what comes after the last of them succeeds. -/
lemma run_greedy (hcs : ∀ c ∈ cs, t.has c = true)
    (hend : ∀ c, after.head? = some c → t.has c = false)
    (hfound : k (.amid groups (cs.reverse ++ before) after) = some found) :
    (repeated (test t) 0 none .greedy).run k (.amid groups before (cs ++ after)) = some found := by
  -- A round takes one character, so the last one began with another number of characters left.
  have hrounds : ∀ fuel count last, cs.length < fuel → last ≠ some (cs ++ after).length →
      greedyRounds (test t).run 0 none k fuel count last (.amid groups before (cs ++ after)) =
        some found := by
    induction cs generalizing before with
    | nil =>
      intro fuel count last hfuel hlast
      obtain ⟨fuel, rfl⟩ := Nat.exists_eq_succ_of_ne_zero (Nat.ne_zero_of_lt hfuel)
      rw [greedyRounds_succ hlast, List.nil_append, run_test_of_not_has hend]
      exact hfound
    | cons c cs ih =>
      intro fuel count last hfuel hlast
      obtain ⟨fuel, rfl⟩ := Nat.exists_eq_succ_of_ne_zero (Nat.ne_zero_of_lt hfuel)
      obtain ⟨hc, hcs⟩ := List.forall_mem_cons.mp hcs
      rw [List.reverse_cons, List.append_assoc] at hfound
      have hrest := ih hcs hfound fuel (count + 1) (some (c :: cs ++ after).length)
        (Nat.lt_of_succ_lt_succ hfuel) (by simp)
      rw [greedyRounds_succ hlast, List.cons_append, run_test_cons, if_pos hc]
      exact Option.or_eq_some_iff.mpr (.inl hrest)
  exact hrounds _ 0 none (by simp; omega) (by simp)

/-- Characters are taken up to the first one at which what comes after them can succeed. -/
lemma run_lazy (hcs : ∀ d ∈ cs, t.has d = true ∧ d ≠ c)
    (hstop : ∀ s : Place, s.after.head? ≠ some c → k s = none)
    (hfound : k (.amid groups (cs.reverse ++ before) after) = some found) :
    (repeated (test t) 0 none .lazy).run k (.amid groups before (cs ++ after)) = some found := by
  have hrounds : ∀ fuel count last, cs.length < fuel → last ≠ some (cs ++ after).length →
      lazyRounds (test t).run 0 none k fuel count last (.amid groups before (cs ++ after)) =
        some found := by
    induction cs generalizing before with
    | nil =>
      intro fuel count last hfuel hlast
      obtain ⟨fuel, rfl⟩ := Nat.exists_eq_succ_of_ne_zero (Nat.ne_zero_of_lt hfuel)
      rw [lazyRounds_succ hlast]
      exact Option.or_eq_some_iff.mpr (.inl hfound)
    | cons d cs ih =>
      intro fuel count last hfuel hlast
      obtain ⟨fuel, rfl⟩ := Nat.exists_eq_succ_of_ne_zero (Nat.ne_zero_of_lt hfuel)
      obtain ⟨⟨hd, hne⟩, hcs⟩ := List.forall_mem_cons.mp hcs
      rw [List.reverse_cons, List.append_assoc] at hfound
      have hrest := ih hcs hfound fuel (count + 1) (some (d :: cs ++ after).length)
        (Nat.lt_of_succ_lt_succ hfuel) (by simp)
      rw [lazyRounds_succ hlast, List.cons_append, hstop _ (by simpa using hne),
        run_test_cons, if_pos hd]
      exact hrest
  exact hrounds _ 0 none (by simp; omega) (by simp)

/-! ### Searching -/

lemma searchFrom_of_run {p : Pattern} {fuel : Nat} {s stop : Place} (h : p.run some s = some stop) :
    searchFrom p fuel s = some ⟨s, stop⟩ := by
  unfold searchFrom
  rw [h]

lemma searchFrom_cons {p : Pattern} {fuel : Nat}
    (h : p.run some (.between before (c :: cs)) = none) :
    searchFrom p (fuel + 1) (.between before (c :: cs)) =
      searchFrom p fuel (.between (c :: before) cs) := by
  rw [searchFrom.eq_def p (fuel + 1)]
  dsimp only
  rw [h]
  rfl

end MangaShelf.Pattern
