import Mathlib.Data.Nat.Find
import MangaShelf.Proofs.Pattern.Match

/-!
# Where a match lies

Whatever a pattern looks at on its way, it only moves onward in the text: `movesOnward_run`. So a
match is a part of the text, from a place where the pattern runs to the end: `exists_matched`. A
search finds the first such place: `MatchesFirst.search_eq`.
-/

namespace MangaShelf.Pattern

variable {p : Pattern} {s t u stop : Place} {k : Continuation} {text : List Char} {i : Nat}

/-! ### Moving onward -/

/-- The second place is the first one or further on in the same text. -/
def Place.Onward (s t : Place) : Prop :=
  ∃ moved, s.after = moved ++ t.after ∧ t.before = moved.reverse ++ s.before

lemma Place.Onward.of_same (hafter : s.after = t.after) (hbefore : t.before = s.before) :
    s.Onward t :=
  ⟨[], hafter, hbefore⟩

lemma Place.Onward.refl (s : Place) : s.Onward s :=
  .of_same rfl rfl

lemma Place.Onward.trans (hst : s.Onward t) (htu : t.Onward u) : s.Onward u := by
  obtain ⟨moved, hafter, hbefore⟩ := hst
  obtain ⟨moved', hafter', hbefore'⟩ := htu
  refine ⟨moved ++ moved', ?_, ?_⟩
  · rw [hafter, hafter', List.append_assoc]
  · rw [hbefore', hbefore, List.reverse_append, List.append_assoc]

lemma Place.onward_of_step? {c : Char} (h : s.step? = some (c, t)) : s.Onward t := by
  obtain ⟨before, after, left, groups, hleft⟩ := s
  cases after with
  | nil => cases h
  | cons d after =>
    cases h
    exact ⟨[_], rfl, rfl⟩

lemma onward_of_passText {folding : Folding} {cs : List Char}
    (h : passText folding cs s = some t) : s.Onward t := by
  induction cs generalizing s with
  | nil =>
    cases h
    exact .refl _
  | cons c cs ih =>
    rw [passText] at h
    split at h
    next => cases h
    next d next hstep =>
      split at h
      next => exact (Place.onward_of_step? hstep).trans (ih h)
      next => cases h

/-- Whatever comes after it, the pattern hands on a place further on. -/
def MovesOnward (body : Continuation → Continuation) : Prop :=
  ∀ k s stop, body k s = some stop → ∃ t, s.Onward t ∧ k t = some stop

section

variable {body : Continuation → Continuation} {least fuel count : Nat} {most last : Option Nat}

lemma onward_of_body (hbody : MovesOnward body) {k' : Continuation}
    (hrest : ∀ t, k' t = some stop → ∃ u, t.Onward u ∧ k u = some stop)
    (h : body k' s = some stop) : ∃ u, s.Onward u ∧ k u = some stop := by
  obtain ⟨t, hst, ht⟩ := hbody k' s stop h
  obtain ⟨u, htu, hu⟩ := hrest t ht
  exact ⟨u, hst.trans htu, hu⟩

lemma MovesOnward.greedyRounds (hbody : MovesOnward body)
    (h : greedyRounds body least most k fuel count last s = some stop) :
    ∃ t, s.Onward t ∧ k t = some stop := by
  induction fuel generalizing count last s with
  | zero => exact ⟨s, .refl s, h⟩
  | succ fuel ih =>
    simp only [Pattern.greedyRounds] at h
    split at h
    next => exact onward_of_body hbody (fun t ht => ih ht) h
    next =>
      split at h
      next => exact ⟨s, .refl s, h⟩
      next =>
        split at h
        next found hfound =>
          rw [h] at hfound
          exact onward_of_body hbody (fun t ht => ih ht) hfound
        next => exact ⟨s, .refl s, h⟩

lemma MovesOnward.lazyRounds (hbody : MovesOnward body)
    (h : lazyRounds body least most k fuel count last s = some stop) :
    ∃ t, s.Onward t ∧ k t = some stop := by
  induction fuel generalizing count last s with
  | zero => exact ⟨s, .refl s, h⟩
  | succ fuel ih =>
    simp only [Pattern.lazyRounds] at h
    split at h
    next => exact onward_of_body hbody (fun t ht => ih ht) h
    next =>
      split at h
      next found hfound =>
        rw [h] at hfound
        exact ⟨s, .refl s, hfound⟩
      next =>
        split at h
        next => cases h
        next => exact onward_of_body hbody (fun t ht => ih ht) h

end

lemma movesOnward_run (p : Pattern) : MovesOnward p.run := by
  induction p with
  | empty => exact fun k s stop h => ⟨s, .refl s, h⟩
  | fail => exact fun k s stop h => nomatch h
  | test c =>
    intro k s stop h
    simp only [run] at h
    split at h
    next => cases h
    next c next hstep =>
      split at h
      next => exact ⟨next, Place.onward_of_step? hstep, h⟩
      next => cases h
  | anchor a =>
    intro k s stop h
    simp only [run] at h
    split at h
    next => exact ⟨s, .refl s, h⟩
    next => cases h
  | seq p q hp hq =>
    intro k s stop h
    exact onward_of_body hp (fun t ht => hq k t stop ht) h
  | alt p q hp hq =>
    intro k s stop h
    simp only [run] at h
    split at h
    next found hfound =>
      rw [h] at hfound
      exact hp k s stop hfound
    next => exact hq k s stop h
  | group number p hp =>
    intro k s stop h
    obtain ⟨t, hst, ht⟩ := hp _ s stop h
    exact ⟨{ t with groups := (number, t.since s) :: t.groups }, hst.trans (.of_same rfl rfl), ht⟩
  | repeated p least most greed hp =>
    intro k s stop h
    cases greed with
    | greedy => exact hp.greedyRounds h
    | lazy => exact hp.lazyRounds h
    | possessive =>
      obtain ⟨t, ht, hk⟩ := Option.bind_eq_some_iff.mp h
      obtain ⟨u, hsu, hu⟩ := hp.greedyRounds ht
      cases hu
      exact ⟨t, hsu, hk⟩
  | again number folding =>
    intro k s stop h
    simp only [run] at h
    split at h
    next => cases h
    next text htext =>
      obtain ⟨t, ht, hk⟩ := Option.bind_eq_some_iff.mp h
      exact ⟨t, onward_of_passText ht, hk⟩
  | ahead negated p hp =>
    -- what is ahead or behind is looked at, but the place stays
    intro k s stop h
    simp only [run] at h
    split at h
    next found _ =>
      split at h
      next => cases h
      next => exact ⟨{ s with groups := found.groups }, .of_same rfl rfl, h⟩
    next =>
      split at h
      next => exact ⟨s, .refl s, h⟩
      next => cases h
  | behind negated width p hp =>
    intro k s stop h
    simp only [run] at h
    split at h
    next found _ =>
      split at h
      next => cases h
      next => exact ⟨{ s with groups := found.groups }, .of_same rfl rfl, h⟩
    next =>
      split at h
      next => exact ⟨s, .refl s, h⟩
      next => cases h
  | atomic p hp =>
    intro k s stop h
    obtain ⟨t, ht, hk⟩ := Option.bind_eq_some_iff.mp h
    obtain ⟨u, hsu, hu⟩ := hp some s t ht
    cases hu
    exact ⟨t, hsu, hk⟩
  | ifGroup number yes no hyes hno =>
    intro k s stop h
    simp only [run] at h
    split at h
    next => exact hyes k s stop h
    next => exact hno k s stop h

/-! ### Matches in a text -/

/-- The place after the first characters of a text. -/
def Place.ofIndex (text : List Char) (i : Nat) : Place :=
  .between (text.take i).reverse (text.drop i)

/-- A match is the part of the text between two places. -/
lemma exists_matched (h : p.run some (.ofIndex text i) = some stop) :
    ∃ matched, text = text.take i ++ (matched ++ stop.after) ∧
      Found.text ⟨.ofIndex text i, stop⟩ = matched := by
  obtain ⟨t, ⟨matched, hafter, -⟩, ht⟩ := movesOnward_run p some _ stop h
  cases ht
  have hdrop : text.drop i = matched ++ stop.after := hafter
  refine ⟨matched, by rw [← hdrop, List.take_append_drop], ?_⟩
  have hleft : (text.drop i).length - stop.left = matched.length := by
    rw [hdrop, stop.left_eq, List.length_append, Nat.add_sub_cancel]
  show (text.drop i).take ((text.drop i).length - stop.left) = matched
  rw [hleft, hdrop, List.take_left]

/-- The pattern runs to the end from no place in the text. -/
def MatchesNowhere (p : Pattern) (text : List Char) : Prop :=
  ∀ i ≤ text.length, p.run some (.ofIndex text i) = none

/-- The first place in the text from which the pattern runs to the end, and where it ends. -/
structure MatchesFirst (p : Pattern) (text : List Char) (i : Nat) (stop : Place) : Prop where
  le_length : i ≤ text.length
  runs : p.run some (.ofIndex text i) = some stop
  first : ∀ j < i, p.run some (.ofIndex text j) = none

lemma exists_matchesFirst (h : ¬ MatchesNowhere p text) : ∃ i stop, MatchesFirst p text i stop := by
  classical
  have hsome : ∃ i, i ≤ text.length ∧ p.run some (.ofIndex text i) ≠ none := by
    simpa [MatchesNowhere] using h
  obtain ⟨hle, hruns⟩ := Nat.find_spec hsome
  obtain ⟨stop, hstop⟩ := Option.ne_none_iff_exists'.mp hruns
  refine ⟨Nat.find hsome, stop, hle, hstop, fun j hj => ?_⟩
  by_contra hj'
  exact Nat.find_min hsome hj ⟨hj.le.trans hle, hj'⟩

/-! ### Searching -/

/-- A search passes over the places from which the pattern does not run to the end. -/
lemma search_eq_searchFrom (hi : i ≤ text.length)
    (hnone : ∀ j < i, p.run some (.ofIndex text j) = none) :
    search p text = searchFrom p (text.length - i) (.ofIndex text i) := by
  induction i with
  | zero => rfl
  | succ i ih =>
    rw [ih (Nat.le_of_succ_le hi) fun j hj => hnone j (Nat.lt_succ_of_lt hj)]
    have hplace : Place.ofIndex text i =
        .between (text.take i).reverse (text[i] :: text.drop (i + 1)) := by
      rw [Place.ofIndex, List.drop_eq_getElem_cons hi]
    have hrun := hnone i (Nat.lt_succ_self i)
    rw [hplace] at hrun ⊢
    rw [show text.length - i = (text.length - (i + 1)) + 1 by omega, searchFrom_cons hrun,
      Place.ofIndex, List.take_succ_eq_append_getElem hi, List.reverse_concat]

lemma MatchesFirst.search_eq (h : MatchesFirst p text i stop) :
    search p text = some ⟨.ofIndex text i, stop⟩ := by
  rw [search_eq_searchFrom h.le_length h.first, searchFrom_of_run h.runs]

lemma MatchesNowhere.search_eq (h : MatchesNowhere p text) : search p text = none := by
  rw [search_eq_searchFrom le_rfl fun j hj => h j hj.le, Nat.sub_self]
  unfold searchFrom
  rw [h text.length le_rfl]

/-- The same where the pattern does not run to the end whatever comes before a place. -/
lemma search_eq_some {cs after : List Char}
    (hnone : ∀ i < cs.length, ∀ before,
      p.run some (.between before ((cs ++ after).drop i)) = none)
    (hstop : p.run some (.between cs.reverse after) = some stop) :
    search p (cs ++ after) = some ⟨.between cs.reverse after, stop⟩ := by
  have hplace : Place.ofIndex (cs ++ after) cs.length = .between cs.reverse after := by
    rw [Place.ofIndex, List.take_left, List.drop_left]
  rw [← hplace] at hstop ⊢
  exact MatchesFirst.search_eq ⟨by simp, hstop, fun j hj => hnone j hj _⟩

end MangaShelf.Pattern
