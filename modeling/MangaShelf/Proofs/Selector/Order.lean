import MangaShelf.Extraction.Subject
import MangaShelf.Proofs.Selector.Walk

/-!
# Document order

The places inside a node are listed in document order, so a selector without a combinator finds its
elements as they are listed: `select_of_name` and, for the candidates of a rule,
`candidates_of_name`.
-/

namespace MangaShelf

namespace Selector

open Markup (Cursor Enclosure Node)

variable {c d e : Cursor}

/-- One place comes before the other in document order, and is not the same. -/
def Precedes (c d : Cursor) : Prop :=
  before c.position d.position = true ∧ c.place ≠ d.place

lemma before_append (as bs : List Nat) : before as (as ++ bs) = true := by
  induction as with
  | nil => rfl
  | cons a as ih => simp [before, ih]

lemma before_of_lt (as : List Nat) {i j : Nat} (h : i < j) (bs cs : List Nat) :
    before (as ++ i :: bs) (as ++ j :: cs) = true := by
  induction as with
  | nil => simp [before, h]
  | cons a as ih => simp [before, ih]

/-- A node comes before what is inside its children. -/
lemma precedes_of_child (h : c.IsChild d) (he : d.Inside e) : Precedes c e := by
  obtain ⟨i, hplace⟩ := h.place
  obtain ⟨above, habove⟩ := hplace ▸ he.suffix
  constructor
  · rw [Cursor.position, Cursor.position, ← habove, List.reverse_append, List.reverse_cons,
      List.append_assoc]
    exact before_append _ _
  · intro heq
    have := congrArg List.length (habove.trans heq.symm)
    rw [List.length_append, List.length_cons] at this
    omega

/-- What is inside a sibling comes before what is inside a later one. -/
lemma precedes_of_siblings {c' d' : Cursor} {i j : Nat} {outer : List Nat}
    (hc : c.place = i :: outer) (hd : d.place = j :: outer) (hlt : i < j) (hc' : c.Inside c')
    (hd' : d.Inside d') : Precedes c' d' := by
  obtain ⟨above, habove⟩ := hc ▸ hc'.suffix
  obtain ⟨above', habove'⟩ := hd ▸ hd'.suffix
  constructor
  · rw [Cursor.position, Cursor.position, ← habove, ← habove', List.reverse_append,
      List.reverse_append, List.reverse_cons, List.reverse_cons, List.append_assoc,
      List.append_assoc]
    exact before_of_lt _ hlt _ _
  · intro heq
    have := Cursor.eq_of_cons_suffix (hc ▸ hc'.suffix) (heq ▸ hd ▸ hd'.suffix)
    omega

lemma pairwise_siblings (up : List Enclosure) (place : List Nat) (index : Nat)
    (earlier ns : List Node) :
    (Cursor.siblings up place index earlier ns).Pairwise fun c d =>
      ∃ i j, c.place = i :: place ∧ d.place = j :: place ∧ i < j := by
  induction ns generalizing index earlier with
  | nil => exact .nil
  | cons n after ih =>
    refine .cons (fun d hd => ?_) (ih _ _)
    obtain ⟨j, hj, hplace⟩ := Cursor.place_of_mem_siblings hd
    exact ⟨index, j, rfl, hplace, hj⟩

lemma pairwise_children (c : Cursor) :
    c.children.Pairwise fun d e =>
      ∃ i j, d.place = i :: c.place ∧ e.place = j :: c.place ∧ i < j := by
  obtain ⟨node, earlier, after, up, place⟩ := c
  cases node with
  | element name attributes nodes => exact pairwise_siblings _ _ _ _ _
  | text | verbatim | comment => exact .nil

/-- The places inside a node are listed in document order. -/
lemma pairwise_selfAndDescendants (c : Cursor) : c.selfAndDescendants.Pairwise Precedes := by
  rw [Cursor.selfAndDescendants_eq, List.pairwise_cons, List.pairwise_flatMap]
  refine ⟨fun e he => ?_, fun child hchild => ?_, (pairwise_children c).imp ?_⟩
  · obtain ⟨child, hchild, he⟩ := List.mem_flatMap.mp he
    exact precedes_of_child hchild he
  · have := Cursor.IsChild.sizeOf_lt hchild
    exact pairwise_selfAndDescendants child
  · rintro d e ⟨i, j, hd, he, hlt⟩ d' hd' e' he'
    exact precedes_of_siblings hd he hlt hd' he'
termination_by sizeOf c.node

/-- A list in which no neighbours are the same is kept whole. -/
lemma thinned_of_pairwise {α : Type} {r : α → α → Prop} [DecidableRel r] {as : List α}
    (h : as.Pairwise fun a b => ¬ r a b) : thinned r as = as := by
  induction h with
  | nil => rfl
  | @cons a as hhead _ ih =>
    rcases thinned_cons_cases (r := r) a as with ⟨b, hb, hsame, -⟩ | heq
    · exact absurd hsame (hhead b (ih ▸ hb))
    · rw [heq, ih]

/-- The query for the elements of a name. -/
def Query.ofName (name : String) : Query :=
  ⟨⟨some name, []⟩, [], .elements⟩

/-- The elements of a name are found in the order in which they are listed. -/
lemma select_of_name {text name : String} (context : Cursor)
    (h : queries text = .ok [.ofName name]) :
    select text context =
      .ok ((ofName (some name) context.selfAndDescendants).map .element) := by
  have hordered : (ofName (some name) context.selfAndDescendants).Pairwise Precedes :=
    (pairwise_selfAndDescendants context).filter _
  have hrun : (Query.ofName name).run context =
      (ofName (some name) context.selfAndDescendants).map fun c =>
        ⟨c.position, none, .element c⟩ := by
    simp only [Query.run, Query.ofName, walk, Step.keep, List.all_nil]
    rw [List.filter_eq_self.mpr fun _ _ => rfl]
  have hsorted : ((Query.ofName name).run context).Pairwise fun p p' => p.before p' = true := by
    refine hrun ▸ List.pairwise_map.mpr (hordered.imp fun {c d} hprecedes => ?_)
    simp [Placed.before, hprecedes.1]
  have hapart : ((Query.ofName name).run context).Pairwise fun p p' => ¬ p.Same p' := by
    refine hrun ▸ List.pairwise_map.mpr (hordered.imp fun {c d} hprecedes hsame => ?_)
    exact hprecedes.2 (List.reverse_inj.mp hsame.1)
  rw [select, h]
  show Except.ok (merge ([Query.ofName name].flatMap fun q => q.run context)) = _
  rw [List.flatMap_singleton, merge_eq, List.mergeSort_of_pairwise hsorted,
    thinned_of_pairwise hapart, hrun, List.map_map]
  rfl

end Selector

/-- The candidates of a selector that is a name are the elements of this name. -/
lemma Extraction.Subject.candidates_of_name {text name : String} (context : Markup.Cursor)
    (hne : text ≠ "") (h : Selector.queries text = .ok [.ofName name]) :
    (Subject.element context).candidates (some text) =
      .ok ((Selector.ofName (some name) context.selfAndDescendants).map .element) := by
  rw [Subject.candidates]
  · simp [Selector.select_of_name context h, Except.map, Subject.ofFound]
  · simpa using hne

end MangaShelf
