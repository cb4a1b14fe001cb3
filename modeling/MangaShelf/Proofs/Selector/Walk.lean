import MangaShelf.Proofs.Markup.Place
import MangaShelf.Proofs.Run
import MangaShelf.Selector.Match

/-!
# Where a selector leads

A query finds what is taken at the end of a chain of steps from the context or from something inside
it. Such a chain leaves the inside of the context only at its first step, when this goes on from the
context itself to a later sibling: `Query.mem_run_cases`, and for lists of selectors
`placed_inside_iff`.
-/

namespace MangaShelf.Selector

open Markup (Cursor Node)

/-! ### Each thing once -/

section thinned

variable {α : Type} {r : α → α → Prop} [DecidableRel r]

/-- Of items next to each other that are the same only the last. -/
def thinned (r : α → α → Prop) [DecidableRel r] (as : List α) : List α :=
  as.foldr (fun a rest =>
    match rest with
    | b :: _ => if r a b then rest else a :: rest
    | [] => [a]) []

lemma thinned_cons_cases (a : α) (as : List α) :
    (∃ b ∈ thinned r as, r a b ∧ thinned r (a :: as) = thinned r as) ∨
      thinned r (a :: as) = a :: thinned r as := by
  have hcons : thinned r (a :: as) =
      match thinned r as with
      | b :: _ => if r a b then thinned r as else a :: thinned r as
      | [] => [a] := rfl
  cases hrest : thinned r as with
  | nil =>
    rw [hrest] at hcons
    exact .inr hcons
  | cons b rest =>
    rw [hrest] at hcons
    dsimp only at hcons
    by_cases hsame : r a b
    · exact .inl ⟨b, List.mem_cons_self, hsame, by rw [hcons, if_pos hsame]⟩
    · exact .inr (by rw [hcons, if_neg hsame])

lemma thinned_sublist (as : List α) : (thinned r as).Sublist as := by
  induction as with
  | nil => exact .slnil
  | cons a as ih =>
    rcases thinned_cons_cases (r := r) a as with ⟨_, _, _, heq⟩ | heq
    · exact heq ▸ ih.cons a
    · exact heq ▸ ih.cons_cons a

/-- Whatever is left out has one that is the same among what is kept. -/
lemma exists_mem_thinned (hrefl : ∀ a, r a a) {a : α} {as : List α} (h : a ∈ as) :
    ∃ b ∈ thinned r as, r a b := by
  induction as with
  | nil => cases h
  | cons first as ih =>
    rcases thinned_cons_cases (r := r) first as with ⟨b, hb, hsame, heq⟩ | heq <;> rw [heq]
    · rcases List.mem_cons.mp h with rfl | h
      · exact ⟨b, hb, hsame⟩
      · exact ih h
    · rcases List.mem_cons.mp h with rfl | h
      · exact ⟨a, List.mem_cons_self, hrefl a⟩
      · obtain ⟨b, hb, hsame⟩ := ih h
        exact ⟨b, List.mem_cons_of_mem first hb, hsame⟩

end thinned

lemma inOrder_eq (cs : List Cursor) :
    inOrder cs = thinned (fun c d => c.place = d.place)
      (cs.mergeSort fun a b => before a.position b.position) := by
  unfold inOrder thinned
  refine congrArg (fun keep => List.foldr keep [] _) ?_
  funext c rest
  cases rest <;> rfl

/-- Places that are told apart by their positions are all kept. -/
lemma mem_inOrder {cs : List Cursor}
    (hapart : ∀ c ∈ cs, ∀ d ∈ cs, c.place = d.place → c = d) {c : Cursor} :
    c ∈ inOrder cs ↔ c ∈ cs := by
  rw [inOrder_eq]
  constructor
  · intro h
    exact List.mem_mergeSort.mp ((thinned_sublist _).subset h)
  · intro h
    obtain ⟨d, hd, hplace⟩ := exists_mem_thinned (r := fun c d : Cursor => c.place = d.place)
      (fun _ => rfl) (List.mem_mergeSort.mpr h)
    have hmem := List.mem_mergeSort.mp ((thinned_sublist _).subset hd)
    exact hapart c h d hmem hplace ▸ hd

/-! ### Steps -/

variable {scope : List Nat} {context c d e : Cursor} {k : Combinator} {s : Step}

/-- The combinator goes on to later siblings. -/
def Combinator.isSideways : Combinator → Bool
  | .adjacent => true
  | .sibling => true
  | .descendant => false
  | .child => false

/-- A place passes the test of a step. -/
def Step.Passes (s : Step) (scope : List Nat) (c : Cursor) : Prop :=
  c ∈ s.keep scope [c]

lemma mem_keep {cs : List Cursor} : c ∈ s.keep scope cs ↔ c ∈ cs ∧ s.Passes scope c := by
  simp only [Step.Passes, Step.keep, ofName, List.mem_filter, List.mem_singleton, true_and,
    and_assoc]

/-- Every other combinator goes on to a child of the place or of something inside it. -/
lemma child_of_reach (hk : k.isSideways = false) (h : d ∈ k.reach c) :
    ∃ b, c.Inside b ∧ b.IsChild d := by
  cases k with
  | descendant =>
    obtain ⟨b, hb, hd⟩ := List.mem_flatMap.mp h
    exact ⟨b, hb, hd⟩
  | child => exact ⟨c, Cursor.inside_self c, h⟩
  | adjacent | sibling => cases hk

lemma following_of_reach (hk : k.isSideways = true) (h : d ∈ k.reach c) : d ∈ c.following := by
  cases k with
  | descendant | child => cases hk
  | adjacent => exact (List.mem_filter.mp (List.mem_of_mem_take h)).1
  | sibling => exact h

/-- A step leaves the inside of the context only from the context itself, to a later sibling, and no
step leads back to the context. -/
lemma inside_or_leaves_of_reach (hc : context.Inside c) (h : d ∈ k.reach c) :
    (context.Inside d ∧ d ≠ context) ∨
      (c = context ∧ k.isSideways = true ∧ d ∈ context.following) := by
  cases hk : k.isSideways with
  | false =>
    obtain ⟨b, hb, hd⟩ := child_of_reach hk h
    exact .inl ⟨(hc.trans hb).child hd, (hc.trans hb).ne_of_child hd⟩
  | true =>
    have hd := following_of_reach hk h
    rcases hc.following hd with hinside | rfl
    · exact .inl ⟨hinside, hc.ne_of_following hd⟩
    · exact .inr ⟨rfl, rfl, hd⟩

/-- No step leads back from what is beside the context. -/
lemma beside_of_reach (hc : context.Beside c) (h : d ∈ k.reach c) : context.Beside d := by
  cases hk : k.isSideways with
  | false =>
    obtain ⟨b, hb, hd⟩ := child_of_reach hk h
    exact hc.trans (hb.child hd)
  | true => exact hc.following (following_of_reach hk h)

lemma near_of_reach (hc : context.Near c) (h : d ∈ k.reach c) : context.Near d := by
  rcases hc with hc | hc
  · rcases inside_or_leaves_of_reach hc h with ⟨hinside, -⟩ | ⟨-, -, hd⟩
    · exact .inl hinside
    · exact .inr ⟨d, hd, Cursor.inside_self d⟩
  · exact .inr (beside_of_reach hc h)

/-! ### Walks -/

/-- Steps lead from one place to another: each reaches a place that passes its test. -/
inductive Leads (scope : List Nat) : List (Combinator × Step) → Cursor → Cursor → Prop where
  | here (c : Cursor) : Leads scope [] c c
  | step {k : Combinator} {s : Step} {rest : List (Combinator × Step)} {c d e : Cursor}
      (hreach : d ∈ k.reach c) (hpasses : s.Passes scope d) (h : Leads scope rest d e) :
      Leads scope ((k, s) :: rest) c e

variable {steps : List (Combinator × Step)} {cs : List Cursor}

lemma Leads.beside (h : Leads scope steps c e) (hc : context.Beside c) : context.Beside e := by
  induction h with
  | here => exact hc
  | step hreach _ _ ih => exact ih (beside_of_reach hc hreach)

/-- A walk from something inside the context ends inside it, unless it begins at the context and
goes on to a later sibling. -/
lemma Leads.inside_or_beside (h : Leads scope steps c e) (hc : context.Inside c) :
    context.Inside e ∨ (c = context ∧ context.Beside e ∧
      ∃ k s rest, steps = (k, s) :: rest ∧ k.isSideways = true) := by
  induction h with
  | here => exact .inl hc
  | @step k s rest c d e hreach _ hleads ih =>
    rcases inside_or_leaves_of_reach hc hreach with ⟨hd, hne⟩ | ⟨rfl, hk, hd⟩
    · rcases ih hd with he | ⟨heq, -⟩
      · exact .inl he
      · exact absurd heq hne
    · exact .inr ⟨rfl, hleads.beside ⟨d, hd, Cursor.inside_self d⟩, k, s, rest, rfl, hk⟩

/-- From the context through a later sibling a walk ends beside it. -/
lemma Leads.beside_of_sideways {rest : List (Combinator × Step)} (hk : k.isSideways = true)
    (h : Leads scope ((k, s) :: rest) context e) : context.Beside e := by
  cases h with
  | step hreach _ hleads =>
    exact hleads.beside ⟨_, following_of_reach hk hreach, Cursor.inside_self _⟩

/-- A walk ends where its steps lead. -/
lemma mem_walk (hnear : ∀ c ∈ cs, context.Near c) :
    e ∈ walk scope steps cs ↔ ∃ c ∈ cs, Leads scope steps c e := by
  induction steps generalizing cs with
  | nil =>
    constructor
    · exact fun h => ⟨e, h, .here e⟩
    · rintro ⟨c, hc, h⟩
      cases h
      exact hc
  | cons first rest ih =>
    obtain ⟨k, s⟩ := first
    have hreached : ∀ d ∈ cs.flatMap (fun c => s.keep scope (k.reach c)), context.Near d := by
      intro d hd
      obtain ⟨c, hc, hd⟩ := List.mem_flatMap.mp hd
      exact near_of_reach (hnear c hc) (mem_keep.mp hd).1
    have hkept {d : Cursor} := mem_inOrder (c := d)
      fun c hc d hd h => (hreached c hc).eq_of_place (hreached d hd) h
    rw [walk, ih fun d hd => hreached d (hkept.mp hd)]
    constructor
    · rintro ⟨d, hd, h⟩
      obtain ⟨c, hc, hd⟩ := List.mem_flatMap.mp (hkept.mp hd)
      obtain ⟨hreach, hpasses⟩ := mem_keep.mp hd
      exact ⟨c, hc, .step hreach hpasses h⟩
    · rintro ⟨c, hc, h⟩
      cases h with
      | step hreach hpasses h =>
        exact ⟨_, hkept.mpr (List.mem_flatMap.mpr ⟨c, hc, mem_keep.mpr ⟨hreach, hpasses⟩⟩), h⟩

/-! ### Queries -/

/-- A found thing stands at a place: it is the element there, the text there or the value of one of
the attributes there. -/
inductive Placed.At (c : Cursor) : Placed → Prop where
  | element : At c ⟨c.position, none, .element c⟩
  | text {s : String} (h : c.node.ownText? = some s) : At c ⟨c.position, none, .text s⟩
  | value {a : Markup.Attribute} {i : Nat} (h : c.attributes[i]? = some a) :
      At c ⟨c.position, some i, .text a.effectiveValue⟩

/-- A found thing stands at the context or inside it. -/
def Placed.Inside (context : Cursor) (p : Placed) : Prop :=
  ∃ c, context.Inside c ∧ p.At c

/-- A found thing stands at a later sibling of the context or inside one. -/
def Placed.Beside (context : Cursor) (p : Placed) : Prop :=
  ∃ c, context.Beside c ∧ p.At c

/-- A query for texts or values ends with a bare step to anything inside. -/
def Query.isOpen (q : Query) : Bool :=
  q.taken ≠ .elements &&
    match q.further.getLast? with
    | some (k, s) => k = .descendant ∧ s.isBare
    | none => false

/-- The steps to the places from which a query takes; an open query takes from anything inside the
places to which the steps before its last one lead. -/
def Query.path (q : Query) : List (Combinator × Step) :=
  if q.isOpen then q.further.dropLast else q.further

/-- What a query takes from a place. -/
def Query.takes (q : Query) (c : Cursor) : List Placed :=
  match q.taken with
  | .elements => [⟨c.position, none, .element c⟩]
  | .texts => textsOf (if q.isOpen then c.selfAndDescendants else c.children)
  | .values name => values (· == name)
  | .allValues => values fun _ => true
where
  /-- The values of the wanted attributes that the query takes. -/
  values (want : String → Bool) : List Placed :=
    if q.isOpen then (c.selfAndDescendants.filter Cursor.isElement).flatMap (attributesOf want)
    else attributesOf want c

variable {q : Query} {p : Placed}

lemma textsOf_flatMap {α : Type} (as : List α) (f : α → List Cursor) :
    textsOf (as.flatMap f) = as.flatMap fun a => textsOf (f a) := by
  simp [textsOf, List.filterMap_flatMap]

lemma Query.attributeValues_eq (want : String → Bool) (start : List Cursor)
    (hfurther : q.further ≠ []) (helements : q.taken ≠ .elements) :
    Query.run.attributeValues q want scope start =
      (walk scope q.path start).flatMap fun c => takes.values q c want := by
  unfold Query.run.attributeValues path takes.values isOpen
  cases hlast : q.further.getLast? with
  | none => exact absurd (List.getLast?_eq_none_iff.mp hlast) hfurther
  | some last => by_cases hopen : last.1 = .descendant ∧ last.2.isBare <;> simp [helements, hopen]

/-- A query with a combinator takes from the places at the end of its path. -/
lemma Query.run_eq (hfurther : q.further ≠ []) :
    q.run context = (walk context.place q.path
      (q.first.keep context.place context.selfAndDescendants)).flatMap q.takes := by
  have htakes : q.takes = fun c => q.takes c := rfl
  rw [htakes]
  unfold run takes
  dsimp only
  cases htaken : q.taken with
  | elements => simp [path, isOpen, htaken, List.map_eq_flatMap]
  | values name | allValues =>
    exact attributeValues_eq _ _ hfurther (by simp [htaken])
  | texts =>
    cases hlast : q.further.getLast? with
    | none => exact absurd (List.getLast?_eq_none_iff.mp hlast) hfurther
    | some last =>
      by_cases hopen : last.1 = .descendant ∧ last.2.isBare
      · simp [path, isOpen, htaken, hlast, hopen, textsOf_flatMap]
      · simp [path, isOpen, htaken, hlast, hopen, textsOf_flatMap]

lemma at_of_mem_textsOf (h : p ∈ textsOf cs) : ∃ c ∈ cs, p.At c := by
  obtain ⟨c, hc, h⟩ := List.mem_filterMap.mp h
  obtain ⟨s, hs, rfl⟩ := Option.map_eq_some_iff.mp h
  exact ⟨c, hc, .text hs⟩

lemma at_of_mem_attributesOf {want : String → Bool} (h : p ∈ attributesOf want c) : p.At c := by
  obtain ⟨⟨a, i⟩, hmem, rfl⟩ := List.mem_map.mp h
  exact .value (List.mk_mem_zipIdx_iff_getElem?.mp (List.mem_filter.mp hmem).1)

/-- What a query takes from a place stands there or inside it. -/
lemma Query.inside_of_mem_takes (h : p ∈ q.takes c) : p.Inside c := by
  have hvalues : ∀ want, p ∈ takes.values q c want → p.Inside c := by
    intro want h
    unfold takes.values at h
    split at h
    · obtain ⟨d, hd, h⟩ := List.mem_flatMap.mp h
      exact ⟨d, (List.mem_filter.mp hd).1, at_of_mem_attributesOf h⟩
    · exact ⟨c, Cursor.inside_self c, at_of_mem_attributesOf h⟩
  unfold takes at h
  split at h
  · obtain rfl := List.mem_singleton.mp h
    exact ⟨c, Cursor.inside_self c, .element⟩
  · obtain ⟨d, hd, h⟩ := at_of_mem_textsOf h
    split at hd
    · exact ⟨d, hd, h⟩
    · exact ⟨d, (Cursor.inside_self c).child hd, h⟩
  · exact hvalues _ h
  · exact hvalues _ h

/-- A query without a combinator takes from what is inside the context. -/
lemma Query.inside_of_mem_run (hfurther : q.further = []) (h : p ∈ q.run context) :
    p.Inside context := by
  have hvalues : ∀ want, p ∈ run.attributeValues q want context.place
      (q.first.keep context.place context.selfAndDescendants) → p.Inside context := by
    intro want h
    simp only [run.attributeValues, hfurther, List.getLast?_nil] at h
    obtain ⟨c, hc, h⟩ := List.mem_flatMap.mp h
    exact ⟨c, (mem_keep.mp hc).1, at_of_mem_attributesOf h⟩
  unfold run at h
  simp only [hfurther, List.getLast?_nil, walk] at h
  split at h
  · obtain ⟨c, hc, rfl⟩ := List.mem_map.mp h
    exact ⟨c, (mem_keep.mp hc).1, .element⟩
  · split at h
    · exact at_of_mem_textsOf h
    · obtain ⟨d, hd, h⟩ := at_of_mem_textsOf h
      obtain ⟨c, hc, hd⟩ := List.mem_flatMap.mp hd
      exact ⟨d, Cursor.Inside.child (mem_keep.mp hc).1 hd, h⟩
  · exact hvalues _ h
  · exact hvalues _ h

/-- A query strays from the context: the context itself passes its first test, it goes on from there
to a later sibling, and its steps lead on to a place from which it takes something. -/
def Query.Strays (q : Query) (context : Cursor) : Prop :=
  q.first.Passes context.place context ∧
    (∃ k s rest, q.path = (k, s) :: rest ∧ k.isSideways = true) ∧
      ∃ c, Leads context.place q.path context c ∧ q.takes c ≠ []

/-- What a query finds is inside the context, or the query strays and it is beside the context. -/
lemma Query.mem_run_cases (h : p ∈ q.run context) :
    p.Inside context ∨ (p.Beside context ∧ q.Strays context) := by
  by_cases hfurther : q.further = []
  · exact .inl (inside_of_mem_run hfurther h)
  · rw [run_eq hfurther] at h
    obtain ⟨e, he, htakes⟩ := List.mem_flatMap.mp h
    obtain ⟨c, hc, hleads⟩ := (mem_walk fun c hc => .inl (mem_keep.mp hc).1).mp he
    obtain ⟨hinside, hpasses⟩ := mem_keep.mp hc
    obtain ⟨d, hd, hat⟩ := inside_of_mem_takes htakes
    rcases hleads.inside_or_beside hinside with he | ⟨rfl, he, k, s, rest, hpath, hk⟩
    · exact .inl ⟨d, he.trans hd, hat⟩
    · exact .inr ⟨⟨d, he.trans hd, hat⟩, hpasses, ⟨k, s, rest, hpath, hk⟩, e, hleads,
        List.ne_nil_of_mem htakes⟩

/-- A query that strays finds something beside the context. -/
lemma Query.Strays.exists_beside (h : q.Strays context) :
    ∃ p ∈ q.run context, p.Beside context := by
  obtain ⟨hpasses, ⟨k, s, rest, hpath, hk⟩, e, hleads, htakes⟩ := h
  obtain ⟨p, hp⟩ := List.exists_mem_of_ne_nil _ htakes
  have hfurther : q.further ≠ [] := by
    intro hnil
    simp [path, hnil] at hpath
  have hmem : e ∈ walk context.place q.path
      (q.first.keep context.place context.selfAndDescendants) :=
    (mem_walk fun c hc => .inl (mem_keep.mp hc).1).mpr
      ⟨context, mem_keep.mpr ⟨Cursor.inside_self context, hpasses⟩, hleads⟩
  rw [hpath] at hleads
  obtain ⟨d, hd, hat⟩ := inside_of_mem_takes hp
  refine ⟨p, ?_, d, (hleads.beside_of_sideways hk).trans hd, hat⟩
  rw [run_eq hfurther]
  exact List.mem_flatMap.mpr ⟨e, hmem, hp⟩

lemma Placed.At.position (h : p.At c) : p.position = c.place.reverse := by
  cases h <;> rfl

/-- What is inside the context is not beside it. -/
lemma Placed.Inside.not_beside {p p' : Placed} (h : p.Inside context) (h' : p'.Beside context) :
    p.position ≠ p'.position := by
  obtain ⟨c, hc, hat⟩ := h
  obtain ⟨d, hd, hat'⟩ := h'
  rw [hat.position, hat'.position]
  intro heq
  exact hd.not_suffix (List.reverse_inj.mp heq ▸ hc.suffix)

/-! ### Lists of selectors -/

/-- Two found things are the same. -/
def Placed.Same (p p' : Placed) : Prop :=
  p.position = p'.position ∧ p.rank = p'.rank

instance : DecidableRel Placed.Same := fun _ _ => inferInstanceAs (Decidable (_ ∧ _))

/-- What a list of selectors finds from a context, with the places where it is found. -/
def placed (text : String) (context : Cursor) : Except Fault (List Placed) := do
  return thinned Placed.Same
    (((← queries text).flatMap fun q => q.run context).mergeSort Placed.before)

lemma merge_eq (ps : List Placed) :
    merge ps = (thinned Placed.Same (ps.mergeSort Placed.before)).map (·.found) := by
  unfold merge thinned
  refine congrArg (fun keep => (List.foldr keep [] _).map Placed.found) ?_
  funext p rest
  cases rest <;> rfl

lemma select_eq (text : String) (context : Cursor) :
    select text context = (placed text context).map (·.map (·.found)) := by
  unfold select placed
  cases queries text with
  | error fault => rfl
  | ok qs => simp only [merge_eq]; rfl

variable {text : String} {ps : List Placed} {qs : List Query}

lemma mem_queries_of_mem_placed (hqs : queries text = .ok qs) (hps : placed text context = .ok ps)
    (h : p ∈ ps) : ∃ q ∈ qs, p ∈ q.run context := by
  rw [placed, hqs] at hps
  obtain rfl := Except.ok.inj hps
  exact List.mem_flatMap.mp (List.mem_mergeSort.mp ((thinned_sublist _).subset h))

/-- Everything that is found is inside the context or beside it, and it is all inside exactly when
none of the selectors strays. -/
lemma placed_inside_iff (hqs : queries text = .ok qs) (hps : placed text context = .ok ps) :
    (∀ p ∈ ps, p.Inside context ∨ p.Beside context) ∧
      ((∀ p ∈ ps, p.Inside context) ↔ ∀ q ∈ qs, ¬ q.Strays context) := by
  refine ⟨fun p hp => ?_, fun h q hq hstrays => ?_, fun h p hp => ?_⟩
  · obtain ⟨q, -, hrun⟩ := mem_queries_of_mem_placed hqs hps hp
    exact (q.mem_run_cases hrun).imp_right And.left
  · obtain ⟨p, hrun, hbeside⟩ := hstrays.exists_beside
    rw [placed, hqs] at hps
    obtain rfl := Except.ok.inj hps
    have hmem : p ∈ qs.flatMap fun q => q.run context := List.mem_flatMap.mpr ⟨q, hq, hrun⟩
    obtain ⟨p', hp', hsame⟩ := exists_mem_thinned (r := Placed.Same) (fun _ => ⟨rfl, rfl⟩)
      (List.mem_mergeSort.mpr hmem)
    exact (h p' hp').not_beside hbeside hsame.1.symm
  · obtain ⟨q, hq, hrun⟩ := mem_queries_of_mem_placed hqs hps hp
    rcases q.mem_run_cases hrun with hinside | ⟨-, hstrays⟩
    · exact hinside
    · exact absurd hstrays (h q hq)

end MangaShelf.Selector
