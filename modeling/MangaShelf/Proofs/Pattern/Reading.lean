import Mathlib.Data.List.Induction
import Mathlib.Tactic.FinCases
import Mathlib.Tactic.Lemma
import MangaShelf.Pattern.Parser
import MangaShelf.Proofs.Run
import MangaShelf.Script.ArrayLiteral

/-!
# Reading patterns step by step

What the reader of patterns makes of the text in front of it, one part at a time: marks that stand
for themselves, classes, repetitions and groups. An escaped text is read as its own characters:
`items_escaped`.
-/

namespace MangaShelf.Pattern

variable {o : Options} {s s' : ReaderState} {c : Char} {cs rest : List Char} {fuel : Nat}
  {done : List Item} {p : Pattern}

/-- The characters of a text with a backslash before each special one. -/
def escaped (cs : List Char) : List Char :=
  cs.flatMap fun c => if Script.isSpecial c then ['\\', c] else [c]

lemma toList_escapePattern (text : String) :
    (Script.escapePattern text).toList = escaped text.toList :=
  String.toList_ofList

/-! ### Steps of the reader -/

lemma run_bind_of_ok {α β : Type} {x : Reader α} {a : α} (h : x.run s = .ok (a, s'))
    (f : α → Reader β) : (x >>= f).run s = (f a).run s' := by
  rw [StateT.run_bind, h]
  rfl

lemma run_peek (s : ReaderState) : peek.run s = .ok (s.rest.head?, s) := rfl

lemma run_next (h : s.rest = c :: cs) :
    (discard next).run s = .ok ((), { s with rest := cs }) := by
  obtain ⟨rest, _⟩ := s
  obtain rfl : rest = c :: cs := h
  rfl

lemma run_take_self (h : s.rest = c :: cs) :
    (take c).run s = .ok (true, { s with rest := cs }) := by
  rw [take, run_bind_of_ok (run_peek s), h, List.head?_cons, if_pos rfl,
    run_bind_of_ok (run_next h)]
  rfl

lemma run_take_other (h : s.rest.head? ≠ some c) : (take c).run s = .ok (false, s) := by
  rw [take, run_bind_of_ok (run_peek s), if_neg h]
  rfl

lemma run_openGroup (s : ReaderState) :
    (openGroup none).run s = .ok (s.nextGroup,
      { s with nextGroup := s.nextGroup + 1, openGroups := s.nextGroup :: s.openGroups }) := rfl

lemma run_closing (h : s.rest = ')' :: rest) :
    closing.run s = .ok ((), { s with rest := rest }) := by
  rw [closing, run_bind_of_ok (run_take_self h)]
  rfl

/-- Something is read a few calls deeper, if the stack has room for them. -/
lemma run_nested {α : Type} {calls : Nat} {read : Reader α} {a : α}
    (hroom : s.nesting + calls ≤ maxNesting)
    (h : read.run { s with nesting := s.nesting + calls } = .ok (a, s')) :
    (nested calls read).run s = .ok (a, { s' with nesting := s.nesting }) := by
  have hget : (get : Reader ReaderState).run s = .ok (s, s) := rfl
  have hdeeper : (modify fun s' => { s' with nesting := s.nesting + calls } : Reader PUnit).run s =
      .ok ((), { s with nesting := s.nesting + calls }) := rfl
  rw [nested, run_bind_of_ok hget, if_neg (Nat.not_lt.mpr hroom)]
  refine (run_bind_of_ok hdeeper _).trans ?_
  rw [run_bind_of_ok h]
  rfl

/-- After a backslash a special character stands for itself. -/
lemma run_escape_of_isSpecial (h : Script.isSpecial c = true) (cs : List Char) :
    (escape o).run { s with rest := c :: cs } = .ok (literal o c, { s with rest := cs }) := by
  have hmem : c ∈ ['(', ')', '[', ']', '{', '}', '?', '*', '+', '-', '|', '^', '$', '\\', '.', '&',
      '~', '#', ' ', '\t', '\n', '\r', '\x0b', '\x0c'] := List.contains_iff_mem.mp h
  clear h
  fin_cases hmem <;> rfl

/-! ### Ends -/

lemma items_nil (h : s.rest = []) : (items (fuel + 1) o done).run s = .ok (sequence done, s) := by
  rw [items, run_bind_of_ok (run_peek s), h]
  rfl

lemma items_close (h : s.rest = ')' :: rest) :
    (items (fuel + 1) o done).run s = .ok (sequence done, s) := by
  rw [items, run_bind_of_ok (run_peek s), h]
  rfl

/-- Parts without a bar after them are the only alternative. -/
lemma alternatives_eq_ok (h : (items fuel o []).run s = .ok (p, s'))
    (hbar : s'.rest.head? ≠ some '|') : (alternatives (fuel + 1) o).run s = .ok (p, s') := by
  have hget : (get : Reader ReaderState).run s = .ok (s, s) := rfl
  rw [alternatives, run_bind_of_ok hget, run_bind_of_ok h, run_bind_of_ok (run_take_other hbar),
    if_neg (by decide)]
  rfl

section

variable (hplain : o.verbose = false)

include hplain

/-! ### Single characters -/

/-- A character that neither ends a row of parts nor repeats one is a part of its own. -/
lemma items_cons (h : c ∉ ['|', ')', '*', '+', '?', '{', '(']) :
    (items (fuel + 1) o done).run { s with rest := c :: cs } =
      (plainItem o c >>= fun i => items fuel o (i :: done)).run { s with rest := cs } := by
  simp only [List.mem_cons, List.not_mem_nil, or_false, not_or] at h
  rw [items, run_bind_of_ok (run_peek _)]
  simp only [List.head?_cons, h, hplain, Bool.false_and, Bool.false_eq_true, or_self, if_false]
  rw [run_bind_of_ok (run_next rfl)]

lemma items_any :
    (items (fuel + 1) o done).run { s with rest := '.' :: cs } =
      (items fuel o (.part (.test (.any o.dotAll)) :: done)).run { s with rest := cs } :=
  items_cons hplain (by decide)

/-- Any blank character. -/
def blank (o : Options) : Pattern :=
  .test (.set false [.category .blank false o.ascii] .exact)

lemma items_blank :
    (items (fuel + 1) o done).run { s with rest := '\\' :: 's' :: cs } =
      (items fuel o (.part (blank o) :: done)).run { s with rest := cs } :=
  items_cons hplain (by decide)

/-- A character that is not special stands for itself. -/
lemma items_literal (h : Script.isSpecial c = false) :
    (items (fuel + 1) o done).run { s with rest := c :: cs } =
      (items fuel o (.part (literal o c) :: done)).run { s with rest := cs } := by
  have hmark : ∀ mark, Script.isSpecial mark = true → c ≠ mark := by
    rintro mark hmark rfl
    rw [h] at hmark
    cases hmark
  have hplainItem : plainItem o c = pure (.part (literal o c)) := by
    rw [plainItem, if_neg (hmark _ (by decide)), if_neg (hmark _ (by decide)),
      if_neg (hmark _ (by decide)), if_neg (hmark _ (by decide)), if_neg (hmark _ (by decide))]
  rw [items_cons hplain, hplainItem, pure_bind]
  intro hmem
  fin_cases hmem <;> exact hmark _ (by decide) rfl

lemma items_special (h : Script.isSpecial c = true) :
    (items (fuel + 1) o done).run { s with rest := '\\' :: c :: cs } =
      (items fuel o (.part (literal o c) :: done)).run { s with rest := cs } := by
  rw [items_cons hplain (by decide), plainItem, if_pos rfl, bind_assoc,
    run_bind_of_ok (run_escape_of_isSpecial h cs)]
  rfl

/-- An escaped text stands for its own characters. -/
lemma items_escaped (name : List Char) :
    (items (fuel + name.length) o done).run { s with rest := escaped name ++ cs } =
      (items fuel o ((name.map fun c => .part (literal o c)).reverse ++ done)).run
        { s with rest := cs } := by
  induction name generalizing done with
  | nil => rfl
  | cons c name ih =>
    rw [List.length_cons, ← Nat.add_assoc, escaped, List.flatMap_cons, List.append_assoc,
      List.map_cons, List.reverse_cons, List.append_assoc]
    cases hc : Script.isSpecial c with
    | true => exact (items_special hplain hc).trans ih
    | false => exact (items_literal hplain hc).trans ih

/-! ### Repetitions -/

lemma items_greedy (h : cs.head? ≠ some '?') (h' : cs.head? ≠ some '+') :
    (items (fuel + 1) o (.part p :: done)).run { s with rest := '*' :: cs } =
      (items fuel o (.rounds (.repeated p 0 none .greedy) :: done)).run { s with rest := cs } := by
  rw [items, run_bind_of_ok (run_peek _)]
  simp only [List.head?_cons, hplain, Bool.false_and, Bool.false_eq_true, if_false, if_true,
    Char.reduceEq, or_self]
  rw [run_bind_of_ok (run_next rfl)]
  refine run_bind_of_ok ?_ _
  rw [repeatLast, run_bind_of_ok (run_take_other h), if_neg (by decide),
    run_bind_of_ok (run_take_other h')]
  rfl

lemma items_lazy :
    (items (fuel + 1) o (.part p :: done)).run { s with rest := '*' :: '?' :: cs } =
      (items fuel o (.rounds (.repeated p 0 none .lazy) :: done)).run { s with rest := cs } := by
  rw [items, run_bind_of_ok (run_peek _)]
  simp only [List.head?_cons, hplain, Bool.false_and, Bool.false_eq_true, if_false, if_true,
    Char.reduceEq, or_self]
  rw [run_bind_of_ok (run_next rfl)]
  refine run_bind_of_ok ?_ _
  rw [repeatLast, run_bind_of_ok (run_take_self rfl), if_pos rfl]
  rfl

/-! ### Groups -/

/-- A group takes the next number and reads alternatives up to its closing bracket. -/
lemma items_group (hcs : cs.head? ≠ some '?') (hroom : s.nesting + 2 ≤ maxNesting)
    (h : (alternatives fuel o).run { s with
      rest := cs
      nextGroup := s.nextGroup + 1
      openGroups := s.nextGroup :: s.openGroups
      atStart := false
      nesting := s.nesting + 2 } = .ok (p, s'))
    (hrest : s'.rest = ')' :: rest) :
    (items (fuel + 4) o done).run { s with rest := '(' :: cs } =
      (items (fuel + 2) o (.part (.group s.nextGroup p) :: done)).run { s' with
        rest := rest
        openGroups := s'.openGroups.filter (· != s.nextGroup)
        nesting := s.nesting } := by
  rw [items, run_bind_of_ok (run_peek _)]
  simp only [List.head?_cons, hplain, Bool.false_and, Bool.false_eq_true, if_false, if_true,
    Char.reduceEq, or_self]
  rw [run_bind_of_ok (run_next rfl), groupItem, run_bind_of_ok (run_take_other hcs),
    if_pos (by decide), run_bind_of_ok (run_openGroup _)]
  refine run_bind_of_ok ?_ _
  -- inside the group nothing is at the start of the pattern any more
  let inner : ReaderState := { s with
    rest := cs
    nextGroup := s.nextGroup + 1
    openGroups := s.nextGroup :: s.openGroups
    atStart := false }
  have hstart : (modify fun s => { s with atStart := false } : Reader PUnit).run
      { inner with atStart := s.atStart } = .ok ((), inner) := rfl
  have hnested := run_nested (s := inner) hroom h
  have hclosing := run_closing (s := { s' with nesting := s.nesting }) hrest
  rw [inGroup, within, bind_assoc, run_bind_of_ok hstart, bind_assoc, run_bind_of_ok hnested,
    bind_assoc, run_bind_of_ok hclosing]
  rfl

end

/-! ### Whole patterns -/

lemma sequence_concat (done : List Item) (i : Item) :
    sequence (done ++ [i]) =
      if sequence done = .empty then i.pattern else .seq i.pattern (sequence done) :=
  List.foldl_append

/-- Parts in a row without a look behind are kept as they are. -/
lemma fixWidths_sequence {groups : List (Nat × Nat × Option Nat)}
    (h : ∀ i ∈ done, fixWidths groups i.pattern = some i.pattern) :
    fixWidths groups (sequence done) = some (sequence done) := by
  induction done using List.reverseRecOn with
  | nil => rfl
  | append_singleton done i ih =>
    have hi := h i (List.mem_append_right _ (List.mem_singleton_self i))
    have hdone := ih fun j hj => h j (List.mem_append_left _ hj)
    rw [sequence_concat]
    split
    next => exact hi
    next =>
      rw [fixWidths, hi, hdone]
      rfl

/-- A text that is read to its end is a pattern, if it has few groups, mentions none and looks behind
nowhere. -/
lemma compileWith_eq_ok
    (h : (alternatives (4 * cs.length + 4) o).run (.start o cs) = .ok (p, s'))
    (hletters : s'.letters = []) (hrest : s'.rest = []) (hgroups : s'.nextGroup ≤ groupLimit)
    (hmentioned : s'.mentioned = []) (hwidths : ∀ groups, fixWidths groups p = some p) :
    compileWith o cs = .ok ⟨p, s'.nextGroup - 1⟩ := by
  rw [compileWith, h]
  simp only [bind, Except.bind]
  rw [hletters, hrest, decide_eq_false (Nat.not_lt.mpr hgroups), hmentioned, hwidths]
  rfl

lemma groups_lt_of_compileWith {compiled : Compiled} (h : compileWith o cs = .ok compiled) :
    compiled.groups < groupLimit := by
  obtain ⟨⟨p, s⟩, -, h⟩ := bind_eq_ok.mp h
  dsimp only at h
  split at h
  next => cases h
  next =>
    split at h
    next => cases h
    next hlimit =>
      split at h
      next q _ =>
        obtain rfl := pure_eq_ok.mp h
        simp only [Bool.or_eq_true, decide_eq_true_eq, not_or, Nat.not_lt] at hlimit
        exact (Nat.sub_le_sub_right hlimit.1.2 1).trans_lt (by decide)
      next => cases h

end MangaShelf.Pattern
