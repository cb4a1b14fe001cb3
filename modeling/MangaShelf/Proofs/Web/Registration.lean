import MangaShelf.Proofs.Run
import MangaShelf.Proofs.Store.History

/-!
# Requests to register

A request is an accepted registration when its body gives an address. The status of the reply tells
whether it is one and, if it is, whether there is a manifest at the address.
-/

namespace MangaShelf

open Config (Checked FieldKey Manifest)

/-! ### Checks that are passed -/

namespace Config

lemma Checked.bind_eq_ok {α β : Type} {c : Checked α} {f : α → Checked β} {b : β} :
    c.bind f = .ok b ↔ ∃ a, c = .ok a ∧ f a = .ok b := by
  cases c <;> simp [Checked.bind]

lemma Checked.map_eq_ok {α β : Type} {c : Checked α} {f : α → β} {b : β} :
    c.map f = .ok b ↔ ∃ a, c = .ok a ∧ f a = b := by
  cases c <;> simp [Checked.map]

lemma Checked.at_eq_ok {α : Type} {c : Checked α} {step : Step} {a : α} :
    c.at_ step = .ok a ↔ c = .ok a := by
  cases c <;> simp [Checked.at_]

/-- The address of a connection is a text without the blanks around it, and it is not empty. -/
lemma Check.connection_eq_ok {v : Json} {url : String} (h : Check.connection v = .ok url) :
    (∃ text, v = .string text ∧ url = Text.trim text) ∧ url ≠ "" := by
  obtain ⟨text, htext, h⟩ := Checked.bind_eq_ok.mp h
  obtain ⟨address, haddress, rfl⟩ := Checked.map_eq_ok.mp h
  refine ⟨⟨text, ?_, rfl⟩, fun hempty => ?_⟩
  · cases v <;> simp_all [Check.string, Checked.refuse]
  · rw [hempty] at haddress
    simp [webAddress, Url.Reading.ofText, Checked.refuse] at haddress

/-- A field that must be there is one of the members and passes its check. -/
lemma FieldKey.require_eq_ok {α : Type} {key : FieldKey} {check : Check α}
    {members : List (String × Json)} {a : α} (h : key.require check members = .ok a) :
    ∃ name v, key.find? members = some (name, v) ∧ check v = .ok a := by
  unfold FieldKey.require at h
  split at h
  next name v hfound => exact ⟨name, v, hfound, Checked.at_eq_ok.mp h⟩
  next => cases h

end Config

namespace Web

/-- The text that the body of a request gives as the address of a connection. -/
def Request.connectionText? (r : Request) : Option String :=
  match r.payload with
  | .value (.object members) =>
    (Registration.urlKey.find? members).bind fun (_, v) => v.asString?
  | _ => none

/-- A body passes its check if it holds an object whose members do. -/
lemma checkBody_eq_ok {α : Type} {read : List (String × Json) → Checked α} {r : Request} {a : α}
    (h : checkBody read r = .ok a) :
    ∃ members, r.payload = .value (.object members) ∧ read members = .ok a := by
  unfold checkBody at h
  cases hpayload : r.payload with
  | value v =>
    cases v with
    | object members =>
      refine ⟨members, rfl, ?_⟩
      cases hread : read members <;> simp_all [Config.Check.fields, Checked.at_]
    | null | bool _ | int _ | float _ | string _ | array _ =>
      simp [hpayload, Config.Check.fields, Checked.refuse, Checked.at_] at h
  | nothing | otherBytes | malformed _ | unreadable =>
    simp [hpayload, Checked.refuse, Checked.at_] at h

/-- A body that does not pass its check is answered for in one of two ways. -/
lemma status_of_checkBody_eq_error {α : Type} {read : List (String × Json) → Checked α} {r : Request}
    {reply : Reply} (h : checkBody read r = .error reply) :
    reply.status = 422 ∨ reply.status = 400 := by
  unfold checkBody at h
  cases hpayload : r.payload with
  | unreadable =>
    rw [hpayload] at h
    obtain rfl := Except.error.inj h
    exact .inr rfl
  | nothing | value _ | otherBytes | malformed _ =>
    rw [hpayload] at h
    dsimp only at h
    split at h
    · cases h
    · obtain rfl := Except.error.inj h
      exact .inl rfl

variable {setup : Setup} {source : Source} {registry : Registry} {r : Request} {url : String}

/-- A request registers an address if it is a registration with a body that passes its check. -/
lemma Request.registers?_eq_some (h : r.registers? = some url) :
    Route.ofPath? r.path = some .register ∧ r.method = Route.register.method ∧
      checkBody Registration.ofMembers r = .ok ⟨url⟩ := by
  unfold registers? at h
  split at h
  next hroute =>
    refine ⟨hroute.1, hroute.2, ?_⟩
    cases hbody : checkBody Registration.ofMembers r with
    | error reply => simp [hbody] at h
    | ok registration =>
      obtain rfl : registration.url = url := by simpa [hbody] using h
      rfl
  next => cases h

/-- The address that a request registers is the given one without the blanks around it. -/
lemma Request.registers?_trimmed (h : r.registers? = some url) :
    (∃ text, r.connectionText? = some text ∧ url = Text.trim text) ∧ url ≠ "" := by
  obtain ⟨-, -, hbody⟩ := registers?_eq_some h
  obtain ⟨members, hpayload, hmembers⟩ := checkBody_eq_ok hbody
  obtain ⟨address, haddress, hmk⟩ := Checked.map_eq_ok.mp hmembers
  obtain rfl : address = url := congrArg Registration.url hmk
  obtain ⟨name, v, hfound, hcheck⟩ := FieldKey.require_eq_ok haddress
  obtain ⟨⟨text, rfl, htrim⟩, hne⟩ := Config.Check.connection_eq_ok hcheck
  exact ⟨⟨text, by simp [connectionText?, hpayload, hfound, Json.asString?], htrim⟩, hne⟩

end Web

/-! ### What becomes of the manifest -/

/-- No document is refused: a source answers for it, or fails in a way of its own. -/
def Source.RefusesNone (source : Source) : Prop :=
  ∀ url refusal, source.json url ≠ .error (.refused refusal)

/-- The manifest of an address that has been given is missing or it is not fetched at all. -/
lemma Catalog.manifest_eq_error {context : Context} {source : Source} {url : String}
    {failure : Failure} (hurl : url ≠ "")
    (h : (manifest context (some url) source).outcome = .error failure) :
    failure = .refused .manifestUnavailable ∨ source.json url = .error failure := by
  have hgiven : (Extraction.given (some url)).or (Extraction.given context.connection) = some url := by
    simp [Extraction.given, hurl]
  rw [manifest, hgiven] at h
  dsimp only at h
  cases hjson : source.json url with
  | error other =>
    have hload : (loadManifest url source).outcome = .error other := by
      rw [loadManifest, Fetching.bind_apply_of_error hjson]
    rw [Fetching.bind_apply_of_error hload] at h
    exact .inr (congrArg Except.error (Except.error.inj h))
  | ok payload =>
    have hload : (loadManifest url source).outcome =
        .ok (payload.bind fun payload => (Manifest.check payload).toOption) := by
      rw [loadManifest, Fetching.bind_apply_of_ok hjson]
      rfl
    rw [Fetching.bind_apply_of_ok hload] at h
    cases hcheck : payload.bind fun payload => (Manifest.check payload).toOption with
    | none =>
      rw [hcheck] at h
      exact .inl (Except.error.inj h).symm
    | some m =>
      rw [hcheck] at h
      cases h

namespace Web

variable {setup : Setup} {source : Source} {registry : Registry} {r : Request} {url : String}

/-- An accepted registration is answered with the manifest, if there is one. -/
lemma handle_of_registers (hsound : registry.Sound) (h : r.registers? = some url) :
    (handle setup source registry r).2 =
      .ofRun (answerRegistered (setup.context registry) url source) := by
  obtain ⟨hroute, hmethod, hbody⟩ := Request.registers?_eq_some h
  obtain ⟨row, -, -, hrow⟩ := hsound.start_register url
  simp only [handle_eq, hroute, answerAt, hmethod, answer, hbody, hrow, if_true]
  rfl

/-- The status of an accepted registration tells whether there is a manifest. -/
lemma status_of_registers (hsound : registry.Sound) (hsource : source.RefusesNone)
    (h : r.registers? = some url) :
    (handle setup source registry r).2.status =
      if (Catalog.manifest (setup.context registry) (some url) source).outcome.isOk then 200
      else 500 := by
  rw [handle_of_registers hsound h, answerRegistered]
  cases hmanifest : (Catalog.manifest (setup.context registry) (some url) source).outcome with
  | ok m =>
    rw [Fetching.bind_apply_of_ok hmanifest]
    rfl
  | error failure =>
    rw [Fetching.bind_apply_of_error hmanifest]
    show (Reply.ofFailure failure).status = 500
    rcases Catalog.manifest_eq_error (Request.registers?_trimmed h).2 hmanifest with rfl | hjson
    · rfl
    · cases failure with
      | refused refusal => exact absurd hjson (hsource url refusal)
      | reference _ | request _ | selector _ | path _ | pattern _ | charset _ | tooDeep
      | tooManyDigits | notIterable _ => rfl

/-- A registration that is not accepted is answered with one of two statuses. -/
lemma status_of_not_registers (hroute : Route.ofPath? r.path = some .register)
    (hmethod : r.method = Route.register.method) (h : r.registers? = none) :
    (handle setup source registry r).2.status = 422 ∨
      (handle setup source registry r).2.status = 400 := by
  cases hbody : checkBody Registration.ofMembers r with
  | ok registration => simp [Request.registers?, hroute, hmethod, hbody] at h
  | error reply =>
    simp only [handle_eq, hroute, answerAt, hmethod, answer, hbody, if_true]
    exact status_of_checkBody_eq_error hbody

/-- The status tells whether a registration has been accepted. -/
lemma registers?_eq_none_iff (hsound : registry.Sound) (hsource : source.RefusesNone)
    (hroute : Route.ofPath? r.path = some .register) (hmethod : r.method = Route.register.method) :
    r.registers? = none ↔
      (handle setup source registry r).2.status = 422 ∨
        (handle setup source registry r).2.status = 400 := by
  refine ⟨status_of_not_registers hroute hmethod, fun hstatus => ?_⟩
  by_contra hsome
  obtain ⟨url, hurl⟩ := Option.ne_none_iff_exists'.mp hsome
  rw [status_of_registers hsound hsource hurl] at hstatus
  split at hstatus <;> simp at hstatus

end Web

end MangaShelf
