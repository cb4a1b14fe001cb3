import Mathlib.Logic.Relation
import Mathlib.Tactic.Lemma
import MangaShelf.Markup.Cursor

/-!
# Moving between places

The places inside a node are those that are reached from it by going to children, again and again.
Going on to a later sibling leaves the inside of a node only from the node itself, and no two of the
places around a node share their place in the page.
-/

namespace MangaShelf.Markup.Cursor

open Relation (ReflTransGen)

variable {c d e : Cursor}

/-- One place is that of a child of the other. -/
def IsChild (c d : Cursor) : Prop :=
  d ∈ c.children

/-- The place is that of the node or of something inside it. -/
def Inside (c d : Cursor) : Prop :=
  d ∈ c.selfAndDescendants

/-- The place is that of a later sibling of the node or of something inside one. -/
def Beside (c d : Cursor) : Prop :=
  ∃ sibling ∈ c.following, sibling.Inside d

/-! ### Children -/

lemma withinList_eq (up : List Enclosure) (place : List Nat) (index : Nat)
    (before ns : List Node) :
    withinList up place index before ns =
      (siblings up place index before ns).flatMap selfAndDescendants := by
  induction ns generalizing index before with
  | nil => rfl
  | cons n after ih =>
    rw [withinList, siblings, List.flatMap_cons, ih]
    rfl

/-- Inside a node are the node itself and what is inside its children. -/
lemma selfAndDescendants_eq (c : Cursor) :
    c.selfAndDescendants = c :: c.children.flatMap selfAndDescendants := by
  obtain ⟨node, before, after, up, place⟩ := c
  cases node with
  | element name attributes nodes =>
    rw [selfAndDescendants, within, withinList_eq]
    rfl
  | text | verbatim | comment => rfl

lemma inside_iff : c.Inside d ↔ d = c ∨ ∃ child, c.IsChild child ∧ child.Inside d := by
  rw [Inside, selfAndDescendants_eq, List.mem_cons, List.mem_flatMap]
  rfl

lemma inside_self (c : Cursor) : c.Inside c :=
  inside_iff.mpr (.inl rfl)

lemma node_mem_of_mem_siblings {up : List Enclosure} {place : List Nat} {index : Nat}
    {before ns : List Node} (h : d ∈ siblings up place index before ns) : d.node ∈ ns := by
  induction ns generalizing index before with
  | nil => cases h
  | cons n after ih =>
    rcases List.mem_cons.mp h with rfl | h
    · exact List.mem_cons_self
    · exact List.mem_cons_of_mem n (ih h)

lemma IsChild.sizeOf_lt (h : c.IsChild d) : sizeOf d.node < sizeOf c.node := by
  obtain ⟨node, before, after, up, place⟩ := c
  cases node with
  | element name attributes nodes =>
    have hmem := List.sizeOf_lt_of_mem (node_mem_of_mem_siblings h)
    simp only [Node.element.sizeOf_spec]
    omega
  | text | verbatim | comment => cases h

/-- To be inside a node is to be reached from it through children. -/
lemma inside_iff_reflTransGen {c d : Cursor} : c.Inside d ↔ ReflTransGen IsChild c d := by
  constructor
  · intro h
    rcases inside_iff.mp h with rfl | ⟨child, hchild, h⟩
    · exact .refl
    · have := hchild.sizeOf_lt
      exact .head hchild (inside_iff_reflTransGen.mp h)
  · intro h
    induction h using ReflTransGen.head_induction_on with
    | refl => exact inside_self d
    | head hchild _ ih => exact inside_iff.mpr (.inr ⟨_, hchild, ih⟩)
termination_by sizeOf c.node

lemma Inside.trans (h : c.Inside d) (h' : d.Inside e) : c.Inside e :=
  inside_iff_reflTransGen.mpr
    ((inside_iff_reflTransGen.mp h).trans (inside_iff_reflTransGen.mp h'))

lemma Inside.child (h : c.Inside d) (h' : d.IsChild e) : c.Inside e :=
  h.trans (inside_iff.mpr (.inr ⟨e, h', inside_self e⟩))

/-- What is inside a node other than itself is a child of something inside it. -/
lemma Inside.eq_or_child (h : c.Inside d) : d = c ∨ ∃ b, c.Inside b ∧ b.IsChild d := by
  rcases (inside_iff_reflTransGen.mp h).cases_tail with rfl | ⟨b, hb, hd⟩
  · exact .inl rfl
  · exact .inr ⟨b, inside_iff_reflTransGen.mpr hb, hd⟩

/-! ### Later siblings -/

section siblings

variable {up : List Enclosure} {place : List Nat} {index : Nat} {before ns : List Node}

lemma place_of_mem_siblings (h : d ∈ siblings up place index before ns) :
    ∃ i, index ≤ i ∧ d.place = i :: place := by
  induction ns generalizing index before with
  | nil => cases h
  | cons n after ih =>
    rcases List.mem_cons.mp h with rfl | h
    · exact ⟨index, Nat.le_refl index, rfl⟩
    · obtain ⟨i, hi, hplace⟩ := ih h
      exact ⟨i, by omega, hplace⟩

lemma eq_of_mem_siblings (hd : d ∈ siblings up place index before ns)
    (he : e ∈ siblings up place index before ns) (h : d.place = e.place) : d = e := by
  induction ns generalizing index before with
  | nil => cases hd
  | cons n after ih =>
    -- The first sibling has the position `index`, and every later one a greater position.
    rcases List.mem_cons.mp hd with rfl | hd <;> rcases List.mem_cons.mp he with rfl | he
    · rfl
    · obtain ⟨i, hi, hplace⟩ := place_of_mem_siblings he
      have := (List.cons.inj (h.trans hplace)).1
      omega
    · obtain ⟨i, hi, hplace⟩ := place_of_mem_siblings hd
      have := (List.cons.inj (h.symm.trans hplace)).1
      omega
    · exact ih hd he

lemma mem_siblings_of_following (hd : d ∈ siblings up place index before ns)
    (he : e ∈ d.following) : e ∈ siblings up place index before ns := by
  induction ns generalizing index before with
  | nil => cases hd
  | cons n after ih =>
    rcases List.mem_cons.mp hd with rfl | hd
    · exact List.mem_cons_of_mem _ he
    · exact List.mem_cons_of_mem _ (ih hd)

end siblings

lemma IsChild.place (h : c.IsChild d) : ∃ i, d.place = i :: c.place := by
  obtain ⟨node, before, after, up, place⟩ := c
  cases node with
  | element name attributes nodes =>
    obtain ⟨i, -, hplace⟩ := place_of_mem_siblings h
    exact ⟨i, hplace⟩
  | text | verbatim | comment => cases h

lemma IsChild.eq_of_place (hd : c.IsChild d) (he : c.IsChild e) (h : d.place = e.place) :
    d = e := by
  obtain ⟨node, before, after, up, place⟩ := c
  cases node with
  | element name attributes nodes => exact eq_of_mem_siblings hd he h
  | text | verbatim | comment => cases hd

lemma IsChild.following (hd : c.IsChild d) (he : e ∈ d.following) : c.IsChild e := by
  obtain ⟨node, before, after, up, place⟩ := c
  cases node with
  | element name attributes nodes => exact mem_siblings_of_following hd he
  | text | verbatim | comment => cases hd

/-- A later sibling has a greater position below the same parent. -/
lemma place_of_mem_following (h : d ∈ c.following) :
    ∃ i j outer, c.place = i :: outer ∧ d.place = j :: outer ∧ i < j := by
  obtain ⟨node, before, after, up, place⟩ := c
  cases place with
  | nil => cases h
  | cons i outer =>
    obtain ⟨j, hj, hplace⟩ := place_of_mem_siblings h
    exact ⟨i, j, outer, rfl, hplace, hj⟩

lemma mem_following_trans (hd : d ∈ c.following) (he : e ∈ d.following) : e ∈ c.following := by
  obtain ⟨node, before, after, up, place⟩ := c
  cases place with
  | nil => cases hd
  | cons i outer => exact mem_siblings_of_following hd he

lemma eq_of_mem_following (hd : d ∈ c.following) (he : e ∈ c.following)
    (h : d.place = e.place) : d = e := by
  obtain ⟨node, before, after, up, place⟩ := c
  cases place with
  | nil => cases hd
  | cons i outer => exact eq_of_mem_siblings hd he h

/-- Going on to a later sibling leaves the inside of a node only from the node itself. -/
lemma Inside.following (h : c.Inside d) (he : e ∈ d.following) : c.Inside e ∨ d = c := by
  rcases h.eq_or_child with rfl | ⟨b, hb, hd⟩
  · exact .inr rfl
  · exact .inl (hb.child (hd.following he))

lemma Beside.trans (h : c.Beside d) (h' : d.Inside e) : c.Beside e := by
  obtain ⟨sibling, hsibling, h⟩ := h
  exact ⟨sibling, hsibling, h.trans h'⟩

/-- Later siblings of what is beside a node are beside it as well. -/
lemma Beside.following (h : c.Beside d) (he : e ∈ d.following) : c.Beside e := by
  obtain ⟨sibling, hsibling, h⟩ := h
  rcases h.following he with hinside | rfl
  · exact ⟨sibling, hsibling, hinside⟩
  · exact ⟨e, mem_following_trans hsibling he, inside_self e⟩

/-! ### Different places -/

lemma Inside.suffix (h : c.Inside d) : c.place <:+ d.place := by
  induction inside_iff_reflTransGen.mp h with
  | refl => exact List.suffix_rfl
  | tail hb hchild ih =>
    obtain ⟨i, hplace⟩ := hchild.place
    exact hplace ▸ (ih (inside_iff_reflTransGen.mpr hb)).trans (List.suffix_cons i _)

/-- Of two siblings only one can enclose a place. -/
lemma eq_of_cons_suffix {i j : Nat} {outer place : List Nat} (hi : i :: outer <:+ place)
    (hj : j :: outer <:+ place) : i = j := by
  have heq := (List.suffix_of_suffix_length_le hi hj (by simp)).eq_of_length (by simp)
  exact (List.cons.inj heq).1

lemma Beside.not_suffix (h : c.Beside d) : ¬ c.place <:+ d.place := by
  obtain ⟨sibling, hsibling, hd⟩ := h
  obtain ⟨i, j, outer, hc, hs, hlt⟩ := place_of_mem_following hsibling
  intro hsuffix
  have := eq_of_cons_suffix (hc ▸ hsuffix) (hs ▸ hd.suffix)
  omega

/-- A node is not inside its children. -/
lemma Inside.ne_of_child (h : c.Inside d) (he : d.IsChild e) : e ≠ c := by
  rintro rfl
  obtain ⟨i, hplace⟩ := he.place
  have := h.suffix.length_le
  rw [hplace, List.length_cons] at this
  omega

/-- A node is no later sibling of what is inside it. -/
lemma Inside.ne_of_following (h : c.Inside d) (he : e ∈ d.following) : e ≠ c := by
  rintro rfl
  obtain ⟨i, j, outer, hd, hc, hlt⟩ := place_of_mem_following he
  have := eq_of_cons_suffix (hc ▸ h.suffix) (hd ▸ List.suffix_rfl : i :: outer <:+ d.place)
  omega

/-- Two places inside a node that share their place in the page are the same. -/
lemma Inside.eq_of_place (hd : c.Inside d) (he : c.Inside e) (h : d.place = e.place) : d = e := by
  induction inside_iff_reflTransGen.mp hd using ReflTransGen.head_induction_on with
  | refl =>
    rcases inside_iff.mp he with rfl | ⟨child, hchild, he⟩
    · rfl
    · obtain ⟨i, hplace⟩ := hchild.place
      have := he.suffix.length_le
      rw [hplace, ← h, List.length_cons] at this
      omega
  | @head c child hchild hbelow ih =>
    have hinside := inside_iff_reflTransGen.mpr hbelow
    obtain ⟨i, hi⟩ := hchild.place
    rcases inside_iff.mp he with rfl | ⟨other, hother, he⟩
    · have := hinside.suffix.length_le
      rw [hi, h, List.length_cons] at this
      omega
    · obtain ⟨j, hj⟩ := hother.place
      have hij := eq_of_cons_suffix (hi ▸ hinside.suffix) (hj ▸ h ▸ he.suffix)
      obtain rfl := hchild.eq_of_place hother (by rw [hi, hj, hij])
      exact ih hinside he

lemma Beside.eq_of_place (hd : c.Beside d) (he : c.Beside e) (h : d.place = e.place) : d = e := by
  obtain ⟨sibling, hsibling, hd⟩ := hd
  obtain ⟨other, hother, he⟩ := he
  obtain ⟨i, j, outer, hc, hs, -⟩ := place_of_mem_following hsibling
  obtain ⟨i', k, outer', hc', ho, -⟩ := place_of_mem_following hother
  obtain ⟨-, rfl⟩ := List.cons.inj (hc.symm.trans hc')
  have hjk := eq_of_cons_suffix (hs ▸ hd.suffix) (ho ▸ h ▸ he.suffix)
  obtain rfl := eq_of_mem_following hsibling hother (by rw [hs, ho, hjk])
  exact hd.eq_of_place he h

/-- The places inside a node and beside it. -/
def Near (c d : Cursor) : Prop :=
  c.Inside d ∨ c.Beside d

lemma Near.eq_of_place (hd : c.Near d) (he : c.Near e) (h : d.place = e.place) : d = e := by
  rcases hd with hd | hd <;> rcases he with he | he
  · exact hd.eq_of_place he h
  · exact absurd (h ▸ hd.suffix) he.not_suffix
  · exact absurd (h ▸ he.suffix) hd.not_suffix
  · exact hd.eq_of_place he h

end MangaShelf.Markup.Cursor
