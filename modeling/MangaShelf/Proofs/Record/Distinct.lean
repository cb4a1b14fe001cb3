import Mathlib.Data.List.Basic
import Mathlib.Data.List.Induction
import Mathlib.Tactic.ByContra
import Mathlib.Tactic.Lemma
import Mathlib.Tactic.Tauto
import MangaShelf.Record.RequestField

/-!
# First occurrences

A list with each of its items where it comes first.
-/

namespace MangaShelf

open RequestField (distinct)

variable {α : Type} [DecidableEq α]

lemma mem_distinct {seen xs : List α} {x : α} : x ∈ distinct seen xs ↔ x ∈ xs ∧ x ∉ seen := by
  induction xs generalizing seen with
  | nil => simp [distinct]
  | cons y ys ih =>
    rw [distinct]
    by_cases hy : y ∈ seen
    · rw [if_pos hy, ih, List.mem_cons]
      exact and_congr_left fun hx => ⟨.inr, fun h => h.resolve_left fun heq => hx (heq ▸ hy)⟩
    · rw [if_neg hy, List.mem_cons, ih, List.mem_cons, List.mem_cons, not_or]
      by_cases hx : x = y
      · simp [hx, hy]
      · simp [hx]

lemma mem_distinct_nil {xs : List α} {x : α} : x ∈ distinct [] xs ↔ x ∈ xs := by
  simp [mem_distinct]

lemma nodup_distinct (seen xs : List α) : (distinct seen xs).Nodup := by
  induction xs generalizing seen with
  | nil => exact List.nodup_nil
  | cons y ys ih =>
    rw [distinct]
    split
    · exact ih seen
    · exact List.nodup_cons.mpr ⟨fun h => (mem_distinct.mp h).2 List.mem_cons_self, ih _⟩

/-- Items that come once each are all kept. -/
lemma distinct_of_nodup {seen xs : List α} (h : xs.Nodup) (hseen : ∀ x ∈ xs, x ∉ seen) :
    distinct seen xs = xs := by
  induction xs generalizing seen with
  | nil => rfl
  | cons y ys ih =>
    obtain ⟨hy, hys⟩ := List.nodup_cons.mp h
    obtain ⟨hfirst, hlater⟩ := List.forall_mem_cons.mp hseen
    rw [distinct, if_neg hfirst, ih hys]
    intro x hx hmem
    rcases List.mem_cons.mp hmem with rfl | hmem
    · exact hy hx
    · exact hlater x hx hmem

lemma distinct_cons_of_mem {seen : List α} {x : α} (h : x ∈ seen) (xs : List α) :
    distinct seen (x :: xs) = distinct seen xs := by
  rw [distinct, if_pos h]

lemma distinct_cons_of_notMem {seen : List α} {x : α} (h : x ∉ seen) (xs : List α) :
    distinct seen (x :: xs) = x :: distinct (x :: seen) xs := by
  rw [distinct, if_neg h]

/-- Of the items seen before it only matters which they are. -/
lemma distinct_congr {seen seen' : List α} (xs : List α) (h : ∀ x, x ∈ seen ↔ x ∈ seen') :
    distinct seen xs = distinct seen' xs := by
  induction xs generalizing seen seen' with
  | nil => rfl
  | cons x xs ih =>
    by_cases hx : x ∈ seen
    · rw [distinct_cons_of_mem hx, distinct_cons_of_mem ((h x).mp hx), ih h]
    · have hseen (y : α) : y ∈ x :: seen ↔ y ∈ x :: seen' := by
        rw [List.mem_cons, List.mem_cons, h]
      rw [distinct_cons_of_notMem hx, distinct_cons_of_notMem (mt (h x).mpr hx), ih hseen]

/-- Further items that are seen before are those that are left out. -/
lemma distinct_append_seen (extra seen xs : List α) :
    distinct (extra ++ seen) xs = (distinct seen xs).filter (· ∉ extra) := by
  induction xs generalizing seen with
  | nil => rfl
  | cons x xs ih =>
    have hseen (y : α) : y ∈ x :: (extra ++ seen) ↔ y ∈ extra ++ x :: seen := by
      simp only [List.mem_cons, List.mem_append, or_left_comm]
    by_cases hx : x ∈ seen
    · rw [distinct_cons_of_mem (List.mem_append_right extra hx), distinct_cons_of_mem hx, ih]
    rw [distinct_cons_of_notMem hx]
    by_cases hextra : x ∈ extra
    · rw [distinct_cons_of_mem (List.mem_append_left seen hextra),
        List.filter_cons_of_neg (by simpa using hextra), ← ih]
      refine distinct_congr xs fun y => ?_
      rw [← hseen, List.mem_cons]
      exact ⟨.inr, fun h => h.elim (fun heq => heq ▸ List.mem_append_left seen hextra) id⟩
    · rw [distinct_cons_of_notMem (by simp [hextra, hx]),
        List.filter_cons_of_pos (by simpa using hextra), ← ih, distinct_congr xs hseen]

/-- One more item that is seen before is left out. -/
lemma distinct_cons_seen (x : α) (seen xs : List α) :
    distinct (x :: seen) xs = (distinct seen xs).filter (· ≠ x) := by
  have h := distinct_append_seen [x] seen xs
  simpa only [List.singleton_append, List.mem_singleton] using h

/-- Of further items those are added that did not come before. -/
lemma distinct_append (seen xs ys : List α) :
    distinct seen (xs ++ ys) = distinct seen xs ++ (distinct seen ys).filter (· ∉ xs) := by
  induction xs generalizing seen with
  | nil => simp [distinct]
  | cons x xs ih =>
    rw [List.cons_append]
    by_cases hx : x ∈ seen
    · rw [distinct_cons_of_mem hx, distinct_cons_of_mem hx, ih]
      congr 1
      refine List.filter_congr fun y hy => ?_
      have hne : y ≠ x := fun heq => (mem_distinct.mp hy).2 (heq ▸ hx)
      simp [hne]
    · rw [distinct_cons_of_notMem hx, distinct_cons_of_notMem hx, ih, List.cons_append,
        distinct_cons_seen x seen ys, List.filter_filter]
      simp only [List.mem_cons, not_or, ← Bool.decide_and, and_comm]

lemma distinct_append_singleton (seen xs : List α) (x : α) :
    distinct seen (xs ++ [x]) = distinct seen xs ++ if x ∈ seen ∨ x ∈ xs then [] else [x] := by
  rw [distinct_append]
  by_cases hseen : x ∈ seen
  · simp [distinct, hseen]
  · by_cases hx : x ∈ xs <;> simp [distinct, hseen, hx]

/-- It does not matter whether items are left out before or after. -/
lemma distinct_filter (p : α → Bool) (seen xs : List α) :
    distinct seen (xs.filter p) = (distinct seen xs).filter p := by
  induction xs generalizing seen with
  | nil => rfl
  | cons x xs ih =>
    cases hp : p x with
    | false =>
      rw [List.filter_cons_of_neg (by simp [hp]), ih]
      by_cases hx : x ∈ seen
      · rw [distinct_cons_of_mem hx]
      · rw [distinct_cons_of_notMem hx, List.filter_cons_of_neg (by simp [hp]),
          distinct_cons_seen, List.filter_filter]
        refine List.filter_congr fun y _ => ?_
        by_cases hy : y = x
        · simp [hy, hp]
        · simp [hy]
    | true =>
      rw [List.filter_cons_of_pos hp]
      by_cases hx : x ∈ seen
      · rw [distinct_cons_of_mem hx, distinct_cons_of_mem hx, ih]
      · rw [distinct_cons_of_notMem hx, distinct_cons_of_notMem hx, List.filter_cons_of_pos hp, ih]

lemma map_distinct {β : Type} [DecidableEq β] {f : α → β} (hf : Function.Injective f)
    (seen xs : List α) : (distinct seen xs).map f = distinct (seen.map f) (xs.map f) := by
  induction xs generalizing seen with
  | nil => rfl
  | cons x xs ih =>
    have hmem : f x ∈ seen.map f ↔ x ∈ seen := List.mem_map_of_injective hf
    rw [List.map_cons]
    by_cases hx : x ∈ seen
    · rw [distinct_cons_of_mem hx, distinct_cons_of_mem (hmem.mpr hx), ih]
    · rw [distinct_cons_of_notMem hx, distinct_cons_of_notMem (mt hmem.mp hx), List.map_cons, ih,
        List.map_cons]

/-- The distinct items stand in the order in which they first come. -/
lemma pairwise_distinct (seen xs : List α) :
    (distinct seen xs).Pairwise fun x y => xs.idxOf x < xs.idxOf y := by
  induction xs generalizing seen with
  | nil => exact .nil
  | cons z zs ih =>
    have hlater {rest : List α} (hrest : ∀ x ∈ rest, x ≠ z)
        (h : rest.Pairwise fun x y => zs.idxOf x < zs.idxOf y) :
        rest.Pairwise fun x y => (z :: zs).idxOf x < (z :: zs).idxOf y := by
      refine h.imp_of_mem fun {x y} hx hy hlt => ?_
      rw [List.idxOf_cons_ne zs (hrest x hx).symm, List.idxOf_cons_ne zs (hrest y hy).symm]
      exact Nat.succ_lt_succ hlt
    by_cases hz : z ∈ seen
    · rw [distinct_cons_of_mem hz]
      exact hlater (fun x hx heq => (mem_distinct.mp hx).2 (heq ▸ hz)) (ih seen)
    · rw [distinct_cons_of_notMem hz]
      have hne : ∀ x ∈ distinct (z :: seen) zs, x ≠ z := fun x hx heq =>
        (mem_distinct.mp hx).2 (heq ▸ List.mem_cons_self)
      refine .cons (fun x hx => ?_) (hlater hne (ih _))
      rw [List.idxOf_cons_self, List.idxOf_cons_ne zs (hne x hx).symm]
      exact Nat.succ_pos _

/-- The last of the distinct items is the one whose first occurrence comes last. -/
lemma getLast?_distinct_nil {xs : List α} {x : α} :
    (distinct [] xs).getLast? = some x ↔ x ∈ xs ∧ ∀ y ∈ xs, xs.idxOf y ≤ xs.idxOf x := by
  induction xs using List.reverseRecOn with
  | nil => simp [distinct]
  | append_singleton xs z ih =>
    rw [distinct_append_singleton]
    by_cases hz : z ∈ xs
    · -- nothing new comes in, and each item keeps its first place
      have hmem (y : α) : y ∈ xs ++ [z] ↔ y ∈ xs := by
        simp only [List.mem_append, List.mem_singleton]
        exact ⟨fun h => h.elim id fun h => h ▸ hz, .inl⟩
      rw [if_pos (.inr hz), List.append_nil, ih]
      simp only [hmem]
      refine and_congr_right fun hx => forall₂_congr fun y hy => ?_
      rw [List.idxOf_append_of_mem hx, List.idxOf_append_of_mem hy]
    · have hplace : (xs ++ [z]).idxOf z = xs.length := by
        rw [List.idxOf_append_of_notMem hz]
        simp
      rw [if_neg (by simp [hz]), List.getLast?_concat, Option.some_inj]
      constructor
      · rintro rfl
        refine ⟨by simp, fun y hy => ?_⟩
        rw [hplace]
        have := List.idxOf_lt_length_of_mem hy
        simp at this
        omega
      · rintro ⟨hx, hlast⟩
        by_contra hne
        have hxs : x ∈ xs := by
          rcases List.mem_append.mp hx with h | h
          · exact h
          · exact absurd (List.mem_singleton.mp h).symm hne
        have hle := hlast z (by simp)
        rw [hplace, List.idxOf_append_of_mem hxs] at hle
        exact absurd (List.idxOf_lt_length_of_mem hxs) (by omega)

end MangaShelf
