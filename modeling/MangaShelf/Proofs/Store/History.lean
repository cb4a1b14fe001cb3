import Mathlib.Data.List.Induction
import Mathlib.Tactic.Lemma
import MangaShelf.Command.Run
import MangaShelf.Proofs.Record.Distinct
import MangaShelf.Proofs.Store.Registry
import MangaShelf.Proofs.Web.Routing

/-!
# Histories of registrations

Connections can be registered directly, by a request or by a task of the command line. Whatever is
asked of the program in between, what is registered afterwards is the addresses of the accepted
registrations, each where it comes first. Registering an address once more does not make it the
active one again: `active_after` says which one is active instead, and in which histories it is the
one that was registered last.
-/

namespace MangaShelf

namespace Registry

lemma registerAll_append (r : Registry) (urls more : List String) :
    r.registerAll (urls ++ more) = (r.registerAll urls).registerAll more :=
  List.foldl_append

/-- Registering addresses one after the other keeps each of them where it comes first. -/
lemma urls_registerAll (urls : List String) :
    (empty.registerAll urls).urls = RequestField.distinct [] urls := by
  induction urls using List.reverseRecOn with
  | nil => rfl
  | append_singleton urls url ih =>
    rw [registerAll_append, show (empty.registerAll urls).registerAll [url] =
      (empty.registerAll urls).register url from rfl, urls_register, ih, distinct_append_singleton]
    simp [mem_distinct_nil]

lemma active_eq (r : Registry) (default : Option String) :
    r.active default = r.urls.getLast?.or default := by
  unfold active
  cases r.urls.getLast? <;> rfl

end Registry

/-! ### Histories -/

/-- The address that a request registers, if it is an accepted registration. -/
def Web.Request.registers? (r : Request) : Option String :=
  if Route.ofPath? r.path = some .register ∧ r.method = Route.register.method then
    match checkBody Registration.ofMembers r with
    | .ok registration => some registration.url
    | .error _ => none
  else none

/-- The address that a list of arguments registers, if it asks for that. -/
def Command.registers? (args : List String) : Option String :=
  match parse false args with
  | .task (.register url) => some url
  | _ => none

/-- One thing asked of the program. Requests and tasks come with the source that answers what they
ask for. -/
inductive Access where
  | direct (url : String)
  | request (source : Source) (r : Web.Request)
  | command (source : Source) (args : List String)

namespace Access

/-- The address that is registered, if one is. -/
def registers? : Access → Option String
  | .direct url => some url
  | .request _ r => r.registers?
  | .command _ args => Command.registers? args

/-- What is registered afterwards. -/
def step (program : String) (setup : Web.Setup) (registry : Registry) : Access → Registry
  | .direct url => registry.register url
  | .request source r => (Web.handle setup source registry r).1
  | .command source args => (Command.run program setup source registry args).1

/-- The addresses of the accepted registrations of a history, in order. -/
def registrations (history : List Access) : List String :=
  history.filterMap registers?

lemma registrations_append_singleton (history : List Access) (a : Access) :
    registrations (history ++ [a]) = registrations history ++ a.registers?.toList := by
  rw [registrations, List.filterMap_append, ← registrations]
  cases ha : a.registers? <;> simp [ha]

end Access

/-- What is registered after a history that begins with nothing. -/
def Registry.after (program : String) (setup : Web.Setup) (history : List Access) : Registry :=
  history.foldl (Access.step program setup) empty

namespace Web

/-- Whichever reply a session ends with, nothing is lost that has been committed. -/
@[simp] lemma closed_start (registry : Registry) (reply : Reply) :
    closed (.start registry) reply = registry := by
  unfold closed
  split <;> rfl

/-- A request leaves in its session what it is accepted for, committed, and nothing else. -/
lemma answer_session (setup : Setup) (source : Source) (registry : Registry) (r : Request)
    {route : Route} (hroute : Route.ofPath? r.path = some route) (hmethod : r.method = route.method) :
    (answer setup source (.start registry) r route).1 =
      .start (registry.registerAll r.registers?.toList) := by
  unfold Request.registers?
  cases route with
  | register =>
    cases hbody : checkBody Registration.ofMembers r with
    | error reply => simp [answer, hbody, Registry.registerAll]
    | ok registration =>
      have hsession := Registry.start_register_fst registry registration.url
      simp only [answer, hbody, hroute, hmethod]
      -- a lookup that finds several rows leaves the session in the same way
      split <;> simp_all [Registry.registerAll]
  | manga =>
    cases hbody : checkBody MangaQuery.ofMembers r <;>
      simp [answer, hbody, hroute, Registry.registerAll]
  | user | spiders | search | chapterPages | chapter | health =>
    simp [answer, hroute, Registry.registerAll]

/-- A request registers what it is accepted for, and nothing else. -/
lemma handle_registry (setup : Setup) (source : Source) (registry : Registry) (r : Request) :
    (handle setup source registry r).1 = registry.registerAll r.registers?.toList := by
  rw [handle_eq]
  cases hroute : Route.ofPath? r.path with
  | none => simp [Request.registers?, hroute, Registry.registerAll]
  | some route =>
    dsimp only
    rw [answerAt]
    by_cases hmethod : r.method = route.method
    · rw [if_pos hmethod]
      show closed (answer setup source (.start registry) r route).1 _ = _
      rw [answer_session setup source registry r hroute hmethod, closed_start]
    · have hnone : r.registers? = none := by
        rw [Request.registers?, if_neg]
        rintro ⟨h, hr⟩
        rw [hroute] at h
        cases h
        exact hmethod hr
      rw [if_neg hmethod, hnone]
      rfl

end Web

/-- A run of the command line registers the address that it is given for that, and nothing else. -/
lemma Command.run_registry (program : String) (setup : Web.Setup) (source : Source)
    (registry : Registry) (args : List String) :
    (run program setup source registry args).1 = registry.registerAll (registers? args).toList := by
  unfold run registers?
  cases parse false args with
  | task t =>
    cases t with
    | register url =>
      have hsession := Registry.start_register_fst registry url
      simp only [runTask]
      split <;> simp_all [Registry.registerAll, Session.start]
    | spiders | search _ _ | manga _ _ _ | chapter _ _ _ => rfl
  | nothing | help _ | misuse => rfl

lemma Access.step_eq (program : String) (setup : Web.Setup) (registry : Registry) (a : Access) :
    a.step program setup registry = registry.registerAll a.registers?.toList := by
  cases a with
  | direct url => rfl
  | request source r => exact Web.handle_registry setup source registry r
  | command source args => exact Command.run_registry program setup source registry args

/-- After any history the registered addresses are those of its registrations, each where it comes
first. -/
lemma Registry.urls_after (program : String) (setup : Web.Setup) (history : List Access) :
    (after program setup history).urls =
      RequestField.distinct [] (Access.registrations history) := by
  rw [← urls_registerAll]
  congr 1
  induction history using List.reverseRecOn with
  | nil => rfl
  | append_singleton history a ih =>
    rw [after, List.foldl_append, ← after, List.foldl_cons, List.foldl_nil, ih, Access.step_eq,
      Access.registrations_append_singleton, registerAll_append]

/-- After any history the active connection is the registered address whose first registration came
last, or else the one of the settings. It is the address that was registered last exactly when no
other address was registered for the first time after the first registration of that one. -/
theorem Registry.active_after (program : String) (setup : Web.Setup) (history : List Access) :
    (after program setup history).active setup.manifestUrl =
        (RequestField.distinct [] (Access.registrations history)).getLast?.or setup.manifestUrl ∧
      ((after program setup history).active setup.manifestUrl =
          (Access.registrations history).getLast?.or setup.manifestUrl ↔
        ∀ last ∈ (Access.registrations history).getLast?, ∀ url ∈ Access.registrations history,
          (Access.registrations history).idxOf url ≤
            (Access.registrations history).idxOf last) := by
  rw [active_eq, urls_after]
  refine ⟨rfl, ?_⟩
  generalize Access.registrations history = urls
  cases hlast : urls.getLast? with
  | none =>
    obtain rfl := List.getLast?_eq_none_iff.mp hlast
    simp [RequestField.distinct]
  | some last =>
    have hmem : last ∈ urls := List.mem_of_getLast? hlast
    have hiff : (RequestField.distinct [] urls).getLast? = some last ↔ _ := getLast?_distinct_nil
    cases hfirst : (RequestField.distinct [] urls).getLast? with
    | none =>
      have hnone := List.getLast?_eq_none_iff.mp hfirst
      have := mem_distinct_nil.mpr hmem
      simp [hnone] at this
    | some url =>
      rw [hfirst] at hiff
      simpa [hmem] using hiff

/-- An address that is registered once more, with another one registered in between, is not active
again. -/
theorem Registry.active_after_registered_again :
    (Access.registrations
        [.direct "http://a.test", .direct "http://b.test", .direct "http://a.test"]).getLast? =
      some "http://a.test" ∧
    (after "cli.py" ⟨none, 5000000, Script.addresses⟩
        [.direct "http://a.test", .direct "http://b.test", .direct "http://a.test"]).active none =
      some "http://b.test" := by
  decide

end MangaShelf
