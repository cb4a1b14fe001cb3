import Mathlib.Tactic.Lemma
import MangaShelf.Fetch.Source

/-!
# Outcomes and runs

A computation that ends well is made of parts that end well. For outcomes this takes a sequence of
steps apart; for computations that ask a source it also says which requests each part has made.
What keeps a computation from ending well is put together from what keeps its parts from it.
-/

namespace MangaShelf

/-! ### Outcomes -/

section

variable {ε α β : Type}

/-- Two steps end well if the first does and the second does with its value. -/
lemma bind_eq_ok {x : Except ε α} {f : α → Except ε β} {b : β} :
    (x >>= f) = .ok b ↔ ∃ a, x = .ok a ∧ f a = .ok b := by
  cases x with
  | error e => simp [Bind.bind, Except.bind]
  | ok a => simp [Bind.bind, Except.bind]

lemma pure_eq_ok {a b : α} : (pure a : Except ε α) = .ok b ↔ b = a := by
  simp [pure, Except.pure, eq_comm]

lemma map_eq_ok {x : Except ε α} {f : α → β} {b : β} :
    x.map f = .ok b ↔ ∃ a, x = .ok a ∧ b = f a := by
  cases x <;> simp [Except.map, eq_comm]

lemma toOption_eq_some {x : Except ε α} {a : α} : x.toOption = some a ↔ x = .ok a := by
  cases x <;> simp [Except.toOption]

lemma ne_ok_of_toOption {x : Except ε α} (h : x.toOption = none) (a : α) : x ≠ .ok a := by
  rintro rfl
  cases h

/-- A step done for each item of a list ends well if it does for the first item and for the rest. -/
lemma mapM_cons_eq_ok {f : α → Except ε β} {a : α} {as : List α} {bs : List β} :
    (a :: as).mapM f = .ok bs ↔ ∃ b rest, f a = .ok b ∧ as.mapM f = .ok rest ∧ bs = b :: rest := by
  rw [List.mapM_cons, bind_eq_ok]
  constructor
  · rintro ⟨b, hb, h⟩
    obtain ⟨rest, hrest, h⟩ := bind_eq_ok.mp h
    exact ⟨b, rest, hb, hrest, pure_eq_ok.mp h⟩
  · rintro ⟨b, rest, hb, hrest, rfl⟩
    exact ⟨b, hb, bind_eq_ok.mpr ⟨rest, hrest, rfl⟩⟩

/-- A step done for each item of a list ends well for each of them. -/
lemma exists_eq_ok_of_mapM {f : α → Except ε β} {as : List α} {bs : List β}
    (h : as.mapM f = .ok bs) {a : α} (ha : a ∈ as) : ∃ b, f a = .ok b := by
  induction as generalizing bs with
  | nil => cases ha
  | cons first rest ih =>
    obtain ⟨b, bs, hb, hbs, -⟩ := mapM_cons_eq_ok.mp h
    rcases List.mem_cons.mp ha with rfl | ha
    · exact ⟨b, hb⟩
    · exact ih hbs ha

/-- A step done for each item of a list gives what it gives for each of them. -/
lemma exists_map_of_mapM [Inhabited β] {f : α → Except ε β} {as : List α} {bs : List β}
    (h : as.mapM f = .ok bs) : ∃ g : α → β, (∀ a ∈ as, f a = .ok (g a)) ∧ bs = as.map g := by
  refine ⟨fun a => (f a).toOption.getD default, fun a ha => ?_, ?_⟩
  · obtain ⟨b, hb⟩ := exists_eq_ok_of_mapM h ha
    simp [hb, Except.toOption]
  · induction as generalizing bs with
    | nil => exact pure_eq_ok.mp h
    | cons first rest ih =>
      obtain ⟨b, bs, hb, hbs, rfl⟩ := mapM_cons_eq_ok.mp h
      rw [List.map_cons, ← ih hbs, hb]
      rfl

/-- A step that ends well for each item of a list can be done for all. -/
lemma exists_mapM_eq_ok {f : α → Except ε β} {as : List α} (h : ∀ a ∈ as, ∃ b, f a = .ok b) :
    ∃ bs, as.mapM f = .ok bs := by
  induction as with
  | nil => exact ⟨[], rfl⟩
  | cons first rest ih =>
    obtain ⟨b, hb⟩ := h first List.mem_cons_self
    obtain ⟨bs, hbs⟩ := ih fun a ha => h a (List.mem_cons_of_mem first ha)
    exact ⟨b :: bs, mapM_cons_eq_ok.mpr ⟨b, bs, hb, hbs, rfl⟩⟩

lemma mapM_congr {f g : α → Except ε β} {as : List α} (h : ∀ a ∈ as, f a = g a) :
    as.mapM f = as.mapM g := by
  induction as with
  | nil => rfl
  | cons first rest ih =>
    rw [List.mapM_cons, List.mapM_cons, h first List.mem_cons_self,
      ih fun a ha => h a (List.mem_cons_of_mem first ha)]

end

/-! ### Failing -/

/-- What keeps a computation from ending well: it fails with nothing else, and it does not end well
where there is any of it. -/
structure FailsFor {ε α : Type} (P : ε → Prop) (x : Except ε α) : Prop where
  of_error : ∀ e, x = .error e → P e
  not_ok : ∀ e, P e → ∀ a, x ≠ .ok a

namespace FailsFor

variable {ε α β : Type} {P P' : ε → Prop} {x : Except ε α}

/-- A computation ends well exactly where nothing keeps it from that. -/
lemma exists_ok_iff (h : FailsFor P x) : (∃ a, x = .ok a) ↔ ∀ e, ¬ P e := by
  constructor
  · rintro ⟨a, ha⟩ e he
    exact h.not_ok e he a ha
  · intro hnone
    cases hx : x with
    | ok a => exact ⟨a, rfl⟩
    | error e => exact absurd (h.of_error e hx) (hnone e)

lemma congr (h : FailsFor P x) (hiff : ∀ e, P e ↔ P' e) : FailsFor P' x where
  of_error e he := (hiff e).mp (h.of_error e he)
  not_ok e he := h.not_ok e ((hiff e).mpr he)

/-- What is known to keep it from ending well may be counted in. -/
lemma or {Q : ε → Prop} (h : FailsFor P x) (hnot : ∀ e, Q e → ∀ a, x ≠ .ok a) :
    FailsFor (fun e => P e ∨ Q e) x where
  of_error e he := .inl (h.of_error e he)
  not_ok e he := he.elim (h.not_ok e) (hnot e)

/-- A failure keeps a computation from ending well. -/
lemma error_eq (x : Except ε α) : FailsFor (fun e => x = .error e) x where
  of_error _ he := he
  not_ok e he a ha := by
    rw [he] at ha
    cases ha

lemma ok (a : α) : FailsFor (fun _ : ε => False) (.ok a) where
  of_error e he := by cases he
  not_ok e he := he.elim

lemma map (h : FailsFor P x) (f : α → β) : FailsFor P (x.map f) where
  of_error e he := by
    cases x with
    | ok a => cases he
    | error e' =>
      cases he
      exact h.of_error e rfl
  not_ok e he b hb := by
    obtain ⟨a, ha, -⟩ := map_eq_ok.mp hb
    exact h.not_ok e he a ha

/-- Two steps are kept from ending well by what keeps the first one, and the second one after it. -/
lemma bind {Q : α → ε → Prop} {f : α → Except ε β} (h : FailsFor P x)
    (hf : ∀ a, x = .ok a → FailsFor (Q a) (f a)) :
    FailsFor (fun e => P e ∨ ∃ a, x = .ok a ∧ Q a e) (x >>= f) := by
  constructor
  · intro e he
    cases hx : x with
    | error e' =>
      rw [hx] at he
      cases he
      exact .inl (h.of_error e hx)
    | ok a =>
      rw [hx] at he
      exact .inr ⟨a, rfl, (hf a hx).of_error e he⟩
  · rintro e he b hb
    obtain ⟨a, ha, hb⟩ := bind_eq_ok.mp hb
    rcases he with he | ⟨a', ha', he⟩
    · exact h.not_ok e he a ha
    · obtain rfl := Except.ok.inj (ha.symm.trans ha')
      exact (hf a ha).not_ok e he b hb

/-- When the second step is kept from it whatever the first one gives, the order does not
matter. -/
lemma bind_const {Q : ε → Prop} {f : α → Except ε β} (h : FailsFor P x)
    (hf : ∀ a, x = .ok a → FailsFor Q (f a)) : FailsFor (fun e => P e ∨ Q e) (x >>= f) := by
  constructor
  · intro e he
    exact ((h.bind hf).of_error e he).imp_right fun ⟨a, _, hq⟩ => hq
  · rintro e he b hb
    obtain ⟨a, ha, hb⟩ := bind_eq_ok.mp hb
    rcases he with he | he
    · exact h.not_ok e he a ha
    · exact (hf a ha).not_ok e he b hb

/-- A step done for each item of a list is kept from it by what keeps any item from it. -/
lemma mapM {Q : α → ε → Prop} {f : α → Except ε β} (as : List α)
    (hf : ∀ a ∈ as, FailsFor (Q a) (f a)) :
    FailsFor (fun e => ∃ a ∈ as, Q a e) (as.mapM f) := by
  induction as with
  | nil => exact (ok []).congr (by simp)
  | cons first rest ih =>
    rw [List.mapM_cons]
    have hrest := ih fun a ha => hf a (List.mem_cons_of_mem first ha)
    have hall := (hf first List.mem_cons_self).bind_const fun b _ =>
      hrest.bind_const fun bs _ => ok (b :: bs)
    exact hall.congr (by simp)

lemma foldlM {Q : α → ε → Prop} {f : β → α → Except ε β} {as : List α}
    (hf : ∀ b, ∀ a ∈ as, FailsFor (Q a) (f b a)) (b : β) :
    FailsFor (fun e => ∃ a ∈ as, Q a e) (as.foldlM f b) := by
  induction as generalizing b with
  | nil => exact (ok b).congr (by simp)
  | cons first rest ih =>
    rw [List.foldlM_cons]
    have hall := (hf b first List.mem_cons_self).bind_const fun b' _ =>
      ih (fun b'' a ha => hf b'' a (List.mem_cons_of_mem first ha)) b'
    exact hall.congr (by simp)

end FailsFor

/-! ### Runs -/

namespace Fetching

variable {α β : Type} {source : Source}

@[simp] lemma pure_apply (a : α) : (Pure.pure a : Fetching α) source = ⟨[], .ok a⟩ := rfl

/-- An attempt ends well, whatever becomes of what is attempted. -/
@[simp] lemma attempt_outcome (x : Fetching α) :
    (x.attempt source).outcome = .ok (x source).outcome := rfl

@[simp] lemma attempt_requested (x : Fetching α) :
    (x.attempt source).requested = (x source).requested := rfl

/-- A value that needs no request is handed on. -/
@[simp] lemma lift_ok_bind (a : α) (f : α → Fetching β) : lift (.ok a) >>= f = f a := rfl

@[simp] lemma lift_error_bind (failure : Failure) (f : α → Fetching β) :
    lift (.error failure) >>= f = lift (.error failure) := rfl

/-- What comes after a part that ends well is run with its value, after its requests. -/
lemma bind_apply_of_ok {x : Fetching α} {f : α → Fetching β} {a : α}
    (h : (x source).outcome = .ok a) :
    (x >>= f) source = ⟨(x source).requested ++ (f a source).requested, (f a source).outcome⟩ := by
  show Fetching.bind x f source = _
  simp only [Fetching.bind, h]

/-- Nothing comes after a part that fails. -/
lemma bind_apply_of_error {x : Fetching α} {f : α → Fetching β} {failure : Failure}
    (h : (x source).outcome = .error failure) :
    (x >>= f) source = ⟨(x source).requested, .error failure⟩ := by
  show Fetching.bind x f source = _
  simp only [Fetching.bind, h]

lemma bind_apply_of_run_ok {x : Fetching α} {f : α → Fetching β} {asked : List String} {a : α}
    (h : x source = ⟨asked, .ok a⟩) :
    (x >>= f) source = ⟨asked ++ (f a source).requested, (f a source).outcome⟩ := by
  rw [bind_apply_of_ok (congrArg Run.outcome h), h]

lemma bind_apply_of_run_error {x : Fetching α} {f : α → Fetching β} {asked : List String}
    {failure : Failure} (h : x source = ⟨asked, .error failure⟩) :
    (x >>= f) source = ⟨asked, .error failure⟩ := by
  rw [bind_apply_of_error (congrArg Run.outcome h), h]

@[simp] lemma lift_outcome (x : Except Failure α) : (lift x source).outcome = x := rfl

@[simp] lemma text_outcome (url : String) : (text url source).outcome = source.text url := rfl

/-- The outcome of a run is that of its parts, one after the other. -/
lemma bind_outcome (x : Fetching α) (f : α → Fetching β) :
    ((x >>= f) source).outcome = ((x source).outcome >>= fun a => (f a source).outcome) := by
  cases hx : (x source).outcome with
  | ok a =>
    rw [bind_apply_of_ok hx]
    rfl
  | error failure =>
    rw [bind_apply_of_error hx]
    rfl

/-- A run of two parts ends well if both do. -/
lemma bind_outcome_eq_ok {x : Fetching α} {f : α → Fetching β} {b : β} :
    ((x >>= f) source).outcome = .ok b ↔
      ∃ a, (x source).outcome = .ok a ∧ (f a source).outcome = .ok b := by
  constructor
  · intro h
    cases hx : (x source).outcome with
    | ok a =>
      rw [bind_apply_of_ok hx] at h
      exact ⟨a, rfl, h⟩
    | error failure =>
      rw [bind_apply_of_error hx] at h
      cases h
  · rintro ⟨a, hx, h⟩
    rw [bind_apply_of_ok hx]
    exact h

end Fetching

end MangaShelf
