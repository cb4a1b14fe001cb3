import Mathlib.Data.List.Pairwise
import Mathlib.Tactic.Lemma
import MangaShelf.Config.Check
import MangaShelf.Proofs.Run

/-!
# Members and fields

A model is read from an object by the names of its fields. So a written model is read back field by
field, under either naming, if no name belongs to two fields; and a member under a name that no field
has is passed over, in the model and in every model inside it: `Form.Adds.read_eq`.
-/

namespace MangaShelf

namespace Json

lemma member?_append (name : String) (ms ms' : List (String × Json)) :
    member? name (ms ++ ms') = (member? name ms).or (member? name ms') := by
  induction ms with
  | nil => rfl
  | cons m ms ih =>
    obtain ⟨k, v⟩ := m
    rw [List.cons_append, member?, member?]
    split
    · rfl
    · exact ih

end Json

namespace Config

/-! ### Names -/

namespace FieldKey

/-- No name of the one field is a name of the other. -/
def Apart (k k' : FieldKey) : Prop :=
  (k.key ≠ k'.key ∧ k.key ≠ k'.name) ∧ k.name ≠ k'.key ∧ k.name ≠ k'.name
  deriving Decidable

/-- The field has the name. -/
def Has (k : FieldKey) (name : String) : Prop :=
  k.key = name ∨ k.name = name
  deriving Decidable

/-- The name that a field is written under. -/
def under (k : FieldKey) : Naming → String
  | .plain => k.name
  | .document => k.key

variable {k k' : FieldKey} {name : String} {naming : Naming}

lemma write_eq (k : FieldKey) (naming : Naming) (v : Json) :
    k.write naming v = (k.under naming, v) := by
  cases naming <;> rfl

lemma has_under (k : FieldKey) (naming : Naming) : k.Has (k.under naming) := by
  cases naming
  · exact .inr rfl
  · exact .inl rfl

lemma Apart.not_has (h : Apart k k') (hk : k.Has name) : ¬ k'.Has name := by
  rcases hk with rfl | rfl
  · intro hk'
    exact hk'.elim h.1.1.symm h.1.2.symm
  · intro hk'
    exact hk'.elim h.2.1.symm h.2.2.symm

/-- Fields with their values, as the members of an object. -/
def writeAll (naming : Naming) (fields : List (FieldKey × Json)) : List (String × Json) :=
  fields.map fun f => f.1.write naming f.2

/-- Under a name of a field stands its value, if it is the name that the field is written under. -/
lemma member?_writeAll {fields : List (FieldKey × Json)} {v : Json}
    (hapart : (fields.map (·.1)).Pairwise Apart) (hmem : (k, v) ∈ fields) (hname : k.Has name) :
    Json.member? name (writeAll naming fields) = if k.under naming = name then some v else none := by
  have hnone {rest : List (FieldKey × Json)} (hrest : ∀ f ∈ rest, ¬ f.1.Has name) :
      Json.member? name (writeAll naming rest) = none := by
    induction rest with
    | nil => rfl
    | cons f rest ih =>
      have hf : f.1.under naming ≠ name := by
        rintro rfl
        exact hrest f List.mem_cons_self (has_under f.1 naming)
      rw [writeAll, List.map_cons, write_eq, Json.member?, if_neg hf]
      exact ih fun g hg => hrest g (List.mem_cons_of_mem f hg)
  induction fields with
  | nil => cases hmem
  | cons f fields ih =>
    obtain ⟨hf, hfields⟩ := List.pairwise_cons.mp hapart
    rw [writeAll, List.map_cons, write_eq, Json.member?]
    rcases List.mem_cons.mp hmem with rfl | hmem
    · split
      · rfl
      · apply hnone
        intro g hg
        exact (hf g.1 (List.mem_map_of_mem hg)).not_has hname
    · have hother : f.1.under naming ≠ name := by
        intro heq
        have hhas : f.1.Has name := heq ▸ has_under f.1 naming
        exact (hf k (List.mem_map_of_mem hmem)).not_has hhas hname
      rw [if_neg hother]
      exact ih hfields hmem

/-- A written field is found under the name that it is written under. -/
lemma find?_writeAll {fields : List (FieldKey × Json)} {v : Json}
    (hapart : (fields.map (·.1)).Pairwise Apart) (hmem : (k, v) ∈ fields) :
    k.find? (writeAll naming fields) = some (k.under naming, v) := by
  rw [find?, member?_writeAll hapart hmem (.inl rfl), member?_writeAll hapart hmem (.inr rfl)]
  cases naming with
  | document => simp [under]
  | plain =>
    by_cases hsame : k.name = k.key
    · simp [under, hsame]
    · simp [under, hsame]

end FieldKey

/-! ### Reading back -/

/-- What is written of a value is checked and taken for the value. -/
def Check.Reads {α : Type} (check : Check α) (write : α → Json) : Prop :=
  ∀ a, check (write a) = .ok a

namespace Check

variable {α : Type} {check : Check α} {write : α → Json}

lemma reads_string : Reads .string Json.string := fun _ => rfl

lemma reads_bool : Reads .bool Json.bool := fun _ => rfl

lemma reads_int : Reads .int Json.int := fun _ => rfl

lemma Reads.items (h : Reads check write) (place : Nat) (as : List α) :
    items check place (as.map write) = .ok as := by
  induction as generalizing place with
  | nil => rfl
  | cons a as ih =>
    rw [List.map_cons, Check.items, h, ih]
    rfl

lemma Reads.list (h : Reads check write) : Reads (.list check) fun as => .array (as.map write) :=
  h.items 0

end Check

namespace FieldKey

variable {α : Type} {k : FieldKey} {naming : Naming} {check : Check α} {write : α → Json}
  {fields : List (FieldKey × Json)} {a : α}

/-- A written field is read back. -/
lemma read_writeAll (hapart : (fields.map (·.1)).Pairwise Apart) (h : check.Reads write)
    (hmem : (k, write a) ∈ fields) (absent : α) :
    k.read absent check (writeAll naming fields) = .ok a := by
  rw [read, find?_writeAll hapart hmem]
  dsimp only
  rw [h a]
  rfl

lemma require_writeAll (hapart : (fields.map (·.1)).Pairwise Apart) (h : check.Reads write)
    (hmem : (k, write a) ∈ fields) : k.require check (writeAll naming fields) = .ok a := by
  rw [require, find?_writeAll hapart hmem]
  dsimp only
  rw [h a]
  rfl

end FieldKey

/-! ### Members that nothing reads -/

/-- How far a document is looked into: a value is taken as a whole, or it is a model with fields. -/
inductive Form where
  | whole
  | model (fields : List (FieldKey × Form))

namespace Form

/-- The form of what stands under a name, if a field has the name. -/
def ofName? (fields : List (FieldKey × Form)) (name : String) : Option Form :=
  (fields.find? fun f => f.1.Has name).map (·.2)

/-- A document has one member more than another, under a name that no field has: in the model itself,
or in one that a field of it holds. -/
inductive Adds : Form → Json → Json → Prop where
  | here {fields : List (FieldKey × Form)} {name : String} (before after : List (String × Json))
    (v : Json) (hname : ofName? fields name = none) :
    Adds (.model fields) (.object (before ++ after)) (.object (before ++ (name, v) :: after))
  | inside {fields : List (FieldKey × Form)} {name : String} {form : Form} {v v' : Json}
    (before after : List (String × Json)) (hname : ofName? fields name = some form)
    (hv : Adds form v v') :
    Adds (.model fields) (.object (before ++ (name, v) :: after))
      (.object (before ++ (name, v') :: after))

/-- A check of values of a form does not look at added members. -/
def Governs {α : Type} (form : Form) (check : Check α) : Prop :=
  ∀ v v', Adds form v v' → check v' = check v

variable {α : Type} {fields : List (FieldKey × Form)} {form : Form} {k : FieldKey}
  {ms ms' : List (String × Json)} {check : Check α}

lemma ofName?_of_mem {name : String} (hapart : (fields.map (·.1)).Pairwise FieldKey.Apart)
    (hmem : (k, form) ∈ fields) (hname : k.Has name) : ofName? fields name = some form := by
  induction fields with
  | nil => cases hmem
  | cons f fields ih =>
    obtain ⟨hf, hfields⟩ := List.pairwise_cons.mp hapart
    rcases List.mem_cons.mp hmem with rfl | hmem
    · simp [ofName?, hname]
    · have hother : ¬ f.1.Has name := by
        intro hhas
        exact (hf k (List.mem_map_of_mem hmem)).not_has hhas hname
      rw [ofName?, List.find?_cons_of_neg (by simpa using hother)]
      exact ih hfields hmem

namespace Adds

/-- Under the name of a field stands what stood there, or that with members added. -/
lemma member?_eq (h : Adds (.model fields) (.object ms) (.object ms')) {name : String}
    (hname : ofName? fields name = some form) :
    Json.member? name ms' = Json.member? name ms ∨
      ∃ v v', Json.member? name ms = some v ∧ Json.member? name ms' = some v' ∧ Adds form v v' := by
  cases h with
  | @here _ added before after v hadded =>
    have hne : added ≠ name := by
      rintro rfl
      rw [hadded] at hname
      cases hname
    left
    rw [Json.member?_append, Json.member?_append, Json.member?, if_neg hne]
  | @inside _ changed form' v v' before after hchanged hv =>
    rw [Json.member?_append, Json.member?_append, Json.member?, Json.member?]
    by_cases hsame : changed = name
    · rw [if_pos hsame, if_pos hsame]
      cases hbefore : Json.member? name before with
      | some found => exact .inl rfl
      | none =>
        rw [hsame, hname] at hchanged
        cases hchanged
        exact .inr ⟨v, v', rfl, rfl, hv⟩
    · rw [if_neg hsame, if_neg hsame]
      exact .inl rfl

/-- The same for a field, wherever it is found. -/
lemma find?_eq (h : Adds (.model fields) (.object ms) (.object ms'))
    (hapart : (fields.map (·.1)).Pairwise FieldKey.Apart) (hmem : (k, form) ∈ fields) :
    k.find? ms' = k.find? ms ∨
      ∃ name v v', k.find? ms = some (name, v) ∧ k.find? ms' = some (name, v') ∧ Adds form v v' := by
  rw [FieldKey.find?, FieldKey.find?]
  rcases h.member?_eq (ofName?_of_mem hapart hmem (.inl rfl)) with hkey | ⟨v, v', hv, hv', hadds⟩
  · rw [hkey]
    cases Json.member? k.key ms with
    | some v => exact .inl rfl
    | none =>
      rcases h.member?_eq (ofName?_of_mem hapart hmem (.inr rfl)) with
        hname | ⟨v, v', hv, hv', hadds⟩
      · rw [hname]
        exact .inl rfl
      · rw [hv, hv']
        exact .inr ⟨k.name, v, v', rfl, rfl, hadds⟩
  · rw [hv, hv']
    exact .inr ⟨k.key, v, v', rfl, rfl, hadds⟩

lemma read_eq (h : Adds (.model fields) (.object ms) (.object ms'))
    (hapart : (fields.map (·.1)).Pairwise FieldKey.Apart) (hcheck : form.Governs check)
    (hmem : (k, form) ∈ fields) (absent : α) : k.read absent check ms' = k.read absent check ms := by
  rw [FieldKey.read, FieldKey.read]
  rcases h.find?_eq hapart hmem with hfind | ⟨name, v, v', hv, hv', hadds⟩
  · rw [hfind]
  · rw [hv, hv']
    dsimp only
    rw [hcheck v v' hadds]

lemma require_eq (h : Adds (.model fields) (.object ms) (.object ms'))
    (hapart : (fields.map (·.1)).Pairwise FieldKey.Apart) (hcheck : form.Governs check)
    (hmem : (k, form) ∈ fields) : k.require check ms' = k.require check ms := by
  rw [FieldKey.require, FieldKey.require]
  rcases h.find?_eq hapart hmem with hfind | ⟨name, v, v', hv, hv', hadds⟩
  · rw [hfind]
  · rw [hv, hv']
    dsimp only
    rw [hcheck v v' hadds]

end Adds

/-! ### Checks and forms -/

/-- Nothing is added to what is taken as a whole. -/
lemma governs_whole (check : Check α) : whole.Governs check := by
  intro v v' h
  cases h

/-- Members are only added to objects, and null is none. -/
lemma Governs.optional (h : form.Governs check) : form.Governs (Check.optional check) := by
  intro v v' hadds
  have hcheck := h v v' hadds
  cases hadds with
  | here | inside => exact congrArg (Config.Checked.map some) hcheck

lemma Governs.model {name : String} {read : List (String × Json) → Checked α}
    (h : ∀ ms ms', Adds (.model fields) (.object ms) (.object ms') → read ms' = read ms) :
    (Form.model fields).Governs (Check.model name read) := by
  intro v v' hadds
  have hadds' := hadds
  cases hadds with
  | here | inside => exact h _ _ hadds'

end Form

end Config

end MangaShelf
