import MangaShelf.Proofs.Extraction.Embedded
import MangaShelf.Proofs.Selector.Walk

/-!
# The scope of a rule

A rule that is applied to an element takes its value from the element and from what is inside it,
unless its selector strays: `candidates_inside_iff`. A selector strays when the element itself is
what its first compound asks for and a combinator goes on from there to a later sibling.
-/

namespace MangaShelf.Extraction

open Config (FieldRule)
open Markup (Cursor)
open Selector (Placed Query)

/-- A selector strays from an element: it can be used, and one of its alternatives strays. -/
def Strays (context : Cursor) (selector : Option String) : Prop :=
  ∃ text qs, given selector = some text ∧ Selector.queries text = .ok qs ∧
    ∃ q ∈ qs, q.Strays context

/-- What is read from an element is read from the node alone, wherever it stands. -/
lemma read_congr {c d : Cursor} (h : c.node = d.node) (rule : FieldRule) :
    read (.element c) rule = read (.element d) rule := by
  have htext : (Subject.element c).text? = (Subject.element d).text? := by
    simp only [Subject.text?, h]
  have hattribute : fromAttribute (.element c) rule = fromAttribute (.element d) rule := by
    simp only [fromAttribute, Subject.attribute?, Cursor.attribute?, Cursor.attributes, h,
      Subject.isElement]
  have hmarkup : fromMarkup (.element c) = fromMarkup (.element d) := by
    simp only [fromMarkup, Subject.markup?, h]
  simp only [read, fromJson, fromText, htext, hattribute, hmarkup]

lemma candidates_of_not_given {s : Subject} {selector : Option String}
    (h : given selector = none) : s.candidates selector = .ok [s] := by
  cases selector with
  | none => rfl
  | some text =>
    obtain rfl : text = "" := by simpa [given] using h
    rfl

lemma candidates_of_given {context : Cursor} {selector : Option String} {text : String}
    (h : given selector = some text) :
    (Subject.element context).candidates selector =
      match Selector.placed text context with
      | .ok ps => .ok (ps.map fun p => .ofFound p.found)
      | .error .rejected => .ok []
      | .error fault => .error (.selector fault) := by
  obtain ⟨rfl, hne⟩ : selector = some text ∧ text ≠ "" := by
    simpa [given, Option.filter_eq_some_iff] using h
  have hfound : (Selector.select text context).map (·.map Subject.ofFound) =
      (Selector.placed text context).map (·.map fun p => .ofFound p.found) := by
    rw [Selector.select_eq]
    cases Selector.placed text context <;> simp [Except.map]
  unfold Subject.candidates
  split
  · contradiction
  · simp_all
  · next query heq =>
    obtain rfl := Option.some.inj heq
    dsimp only
    rw [hfound]
    cases Selector.placed text context with
    | ok ps => rfl
    | error fault => cases fault <;> rfl

/-- The candidates of a selector, with the places where they are found. -/
lemma exists_placed {context : Cursor} {selector : Option String} {subjects : List Subject}
    (h : (Subject.element context).candidates selector = .ok subjects) :
    ∃ ps : List Placed, subjects = ps.map (fun p => .ofFound p.found) ∧
      (∀ p ∈ ps, p.Inside context ∨ p.Beside context) ∧
      ((∀ p ∈ ps, p.Inside context) ↔ ¬ Strays context selector) := by
  cases hgiven : given selector with
  | none =>
    rw [candidates_of_not_given hgiven] at h
    have hinside : (⟨context.position, none, .element context⟩ : Placed).Inside context :=
      ⟨context, Cursor.inside_self context, .element⟩
    refine ⟨[⟨context.position, none, .element context⟩], (Except.ok.inj h).symm, ?_, ?_⟩
    · simp [hinside]
    · simp [hinside, Strays, hgiven]
  | some text =>
    rw [candidates_of_given hgiven] at h
    cases hqs : Selector.queries text with
    | error fault =>
      have hplaced : Selector.placed text context = .error fault := by
        rw [Selector.placed, hqs]
        rfl
      have hsubjects : subjects = [] := by
        rw [hplaced] at h
        cases fault <;> simp_all
      exact ⟨[], hsubjects, by simp, by simp [Strays, hgiven, hqs]⟩
    | ok qs =>
      obtain ⟨ps, hps⟩ : ∃ ps, Selector.placed text context = .ok ps := by
        rw [Selector.placed, hqs]
        exact ⟨_, rfl⟩
      rw [hps] at h
      obtain ⟨hnear, hiff⟩ := Selector.placed_inside_iff hqs hps
      refine ⟨ps, (Except.ok.inj h).symm, hnear, hiff.trans ?_⟩
      simp [Strays, hgiven, hqs]

/-- The candidates of a selector for an element stand at the element or inside it, or at a later
sibling or inside one; and all of them at the element or inside it exactly if the selector does not
stray. A rule with this selector makes its value from these candidates alone, each of them read
without regard to where it stands. -/
theorem candidates_inside_iff {context : Cursor} {selector : Option String}
    {subjects : List Subject} (h : (Subject.element context).candidates selector = .ok subjects) :
    (∃ ps : List Placed, subjects = ps.map (fun p => .ofFound p.found) ∧
      (∀ p ∈ ps, p.Inside context ∨ p.Beside context) ∧
      ((∀ p ∈ ps, p.Inside context) ↔ ¬ Strays context selector)) ∧
    ∀ rule : FieldRule, rule.selector = selector →
      extract (.element context) rule =
          (resultsOf rule (readBy rule subjects)).map (gathered rule) ∧
        ∀ c d : Cursor, c.node = d.node → read (.element c) rule = read (.element d) rule := by
  refine ⟨exists_placed h, fun rule hrule => ⟨?_, fun c d hnode => read_congr hnode rule⟩⟩
  exact extract_of_candidates (hrule ▸ h)

/-- A page with two items. -/
def twoItems : Markup.Node :=
  Markup.document "<ul><li>a</li><li>b</li></ul>"

/-- Where a subject stands, if it is an element. -/
def place? : Subject → Option (List Nat)
  | .element c => some c.place
  | .text _ => none
  | .value _ => none

/-- Where the candidates of a selector stand. -/
def placesOf (s : Subject) (selector : String) : Option (List (Option (List Nat))) :=
  (s.candidates (some selector)).toOption.map (·.map place?)

lemma exists_element_of_placesOf {s : Subject} {selector : String} {place : List Nat}
    (h : placesOf s selector = some [some place]) :
    ∃ c, s.candidates (some selector) = .ok [.element c] ∧ c.place = place := by
  obtain ⟨subjects, hsubjects, hplaces⟩ := Option.map_eq_some_iff.mp h
  obtain ⟨found, rfl, hfound⟩ := List.map_eq_singleton_iff.mp hplaces
  cases found with
  | element c => exact ⟨c, toOption_eq_some.mp hsubjects, Option.some.inj hfound⟩
  | text | value => cases hfound

lemma exists_neighbour :
    ∃ item neighbour,
      (Subject.ofPage twoItems).candidates (some "li:first-child") = .ok [.element item] ∧
      (Subject.element item).candidates (some "li + li") = .ok [.element neighbour] ∧
      ¬ item.place <:+ neighbour.place := by
  have hfirst : placesOf (.ofPage twoItems) "li:first-child" = some [some [0, 0, 0]] := by
    decide +kernel
  have hnext : ((Subject.ofPage twoItems).candidates (some "li:first-child")).toOption.map
      (·.map fun s => placesOf s "li + li") = some [some [some [1, 0, 0]]] := by
    decide +kernel
  obtain ⟨item, hitem, hplace⟩ := exists_element_of_placesOf hfirst
  rw [hitem] at hnext
  have hsecond : placesOf (.element item) "li + li" = some [some [1, 0, 0]] :=
    (List.cons.inj (Option.some.inj hnext)).1
  obtain ⟨neighbour, hneighbour, hplace'⟩ := exists_element_of_placesOf hsecond
  refine ⟨item, neighbour, hitem, hneighbour, ?_⟩
  rw [hplace, hplace']
  decide

/-- From the first of two items its neighbour is found, and the selector strays if it is not inside
the item. -/
theorem candidates_inside_iff_of_items :
    ∃ item neighbour,
      (Subject.element item).candidates (some "li + li") = .ok [.element neighbour] ∧
      ∃ ps : List Placed, [.element neighbour] = ps.map (fun p => Subject.ofFound p.found) ∧
        (∀ p ∈ ps, p.Inside item ∨ p.Beside item) ∧
        ((∀ p ∈ ps, p.Inside item) ↔ ¬ Strays item (some "li + li")) := by
  obtain ⟨item, neighbour, -, h, -⟩ := exists_neighbour
  exact ⟨item, neighbour, h, (candidates_inside_iff h).1⟩

/-- The neighbour that is found from the first of two items is not inside it. -/
theorem candidates_of_adjacent_item :
    ∃ item neighbour,
      (Subject.ofPage twoItems).candidates (some "li:first-child") = .ok [.element item] ∧
      (Subject.element item).candidates (some "li + li") = .ok [.element neighbour] ∧
      ¬ item.Inside neighbour := by
  obtain ⟨item, neighbour, hitem, h, hoff⟩ := exists_neighbour
  exact ⟨item, neighbour, hitem, h, fun hinside => hoff hinside.suffix⟩

end MangaShelf.Extraction
