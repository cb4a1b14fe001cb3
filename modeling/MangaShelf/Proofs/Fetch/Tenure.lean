import MangaShelf.Proofs.Fetch.Course

/-!
# The clients of a fetcher

A fetcher holds the client that it was given, or it opens clients of its own and closes them again.
Here the clients are told apart and one that has been closed sends nothing any more. Without that
detail a fetcher is what it is in `Client.runAll`. A client that was given stays; of its own a
fetcher holds one after the calls that need one, and each fetch is answered as if it were the first
call: `run_as_new`.
-/

namespace MangaShelf.Fetch

/-- A client: one that was given, or the one with this number among those that a fetcher opened. -/
inductive Handle where
  | given (follows : Bool)
  | opened (number : Nat)
  deriving DecidableEq

/-- The client follows redirections. -/
def Handle.follows : Handle → Bool
  | given follows => follows
  | opened _ => true

/-- What came of a call of a fetcher. -/
structure Reply where
  sent : List String
  outcome : Except Failure Value

/-- A fetcher: the client that it holds, how many it has opened and those that it has closed. -/
structure Fetcher where
  owns : Bool
  held : Option Handle
  count : Nat
  shut : List Handle

/-- The call needs a client. -/
def Call.opens : Call → Bool
  | .exit => false
  | .close => false
  | _ => true

lemma Call.opens_iff (call : Call) :
    call.opens ↔ call = .enter ∨ ∃ kind url, call = Kind.call kind url := by
  cases call with
  | enter => simp [opens]
  | exit => simpa [opens] using fun kind url => by cases kind <;> simp [Kind.call]
  | close => simpa [opens] using fun kind url => by cases kind <;> simp [Kind.call]
  | text url => exact ⟨fun _ => .inr ⟨.text, url, rfl⟩, fun _ => rfl⟩
  | json url => exact ⟨fun _ => .inr ⟨.json, url, rfl⟩, fun _ => rfl⟩
  | bytes url => exact ⟨fun _ => .inr ⟨.bytes, url, rfl⟩, fun _ => rfl⟩

namespace Fetcher

/-! ### Calls -/

/-- A fetcher owns its client if it is given none. -/
def new (client : Option Handle) : Fetcher :=
  ⟨client.isNone, client, 0, []⟩

/-- Open a client if there is none. -/
def opened (f : Fetcher) : Fetcher :=
  match f.held with
  | some _ => f
  | none => { f with held := some (.opened f.count), count := f.count + 1 }

/-- Close the client if there is one and it is the fetcher's own. -/
def closed (f : Fetcher) : Fetcher :=
  match f.held with
  | some h => if f.owns then { f with held := none, shut := h :: f.shut } else f
  | none => f

/-- Ask for an address. This takes a client that has not been closed. -/
def send? (network : Network) (f : Fetcher) (url : String) : Option Visit :=
  match f.held with
  | some h => if h ∈ f.shut then none else some (request network h.follows url)
  | none => none

/-- Fetch what an address has, with a client that is opened if need be. -/
def fetch (network : Network) (f : Fetcher) (kind : Kind) (url : String) :
    Fetcher × Option Reply :=
  (f.opened, (f.opened.send? network url).map fun v =>
    ⟨v.sent, v.payload (kind.take network.charsets)⟩)

/-- Run a call; there is no reply if nothing could be sent. -/
def run (network : Network) (f : Fetcher) : Call → Fetcher × Option Reply
  | .enter => (f.opened, some ⟨[], .ok .entered⟩)
  | .exit => (f.closed, some ⟨[], .ok .nothing⟩)
  | .close => (f.closed, some ⟨[], .ok .nothing⟩)
  | .text url => f.fetch network .text url
  | .json url => f.fetch network .json url
  | .bytes url => f.fetch network .bytes url

/-- Run some calls one after the other. -/
def runAll (network : Network) : Fetcher → List Call → List (Fetcher × Option Reply)
  | _, [] => []
  | f, call :: rest => f.run network call :: runAll network (f.run network call).1 rest

/-- A fetcher that was given a client or none, after some calls. -/
def after (network : Network) (client : Option Handle) (calls : List Call) : Fetcher :=
  calls.foldl (fun f call => (f.run network call).1) (new client)

section

variable {network : Network} {f : Fetcher}

lemma opened_of_held {h : Handle} (hheld : f.held = some h) : f.opened = f := by
  rw [opened, hheld]

lemma opened_of_bare (hbare : f.held = none) :
    f.opened = { f with held := some (.opened f.count), count := f.count + 1 } := by
  rw [opened, hbare]

lemma closed_of_held {h : Handle} (howns : f.owns = true) (hheld : f.held = some h) :
    f.closed = { f with held := none, shut := h :: f.shut } := by
  rw [closed, hheld]
  exact if_pos howns

lemma closed_of_bare (hbare : f.held = none) : f.closed = f := by
  rw [closed, hbare]

lemma isSome_held_opened : f.opened.held.isSome := by
  cases hheld : f.held with
  | none => rw [opened_of_bare hheld]; rfl
  | some h => rw [opened_of_held hheld, hheld]; rfl

lemma send?_of_held {h : Handle} (hheld : f.held = some h) (hopen : h ∉ f.shut) (url : String) :
    f.send? network url = some (request network h.follows url) := by
  rw [send?, hheld]
  exact if_neg hopen

lemma run_fst (call : Call) :
    (f.run network call).1 = if call.opens then f.opened else f.closed := by
  cases call <;> rfl

lemma run_kind (kind : Kind) (url : String) :
    f.run network (kind.call url) = f.fetch network kind url := by
  cases kind <;> rfl

lemma after_concat (client : Option Handle) (calls : List Call) (call : Call) :
    after network client (calls ++ [call]) = ((after network client calls).run network call).1 := by
  simp [after]

end

/-! ### A client that was given -/

section

variable (network : Network) (h : Handle)

/-- No call changes anything. -/
lemma run_given (call : Call) : ((new (some h)).run network call).1 = new (some h) := by
  rw [run_fst]
  split <;> rfl

lemma after_given (calls : List Call) : after network (some h) calls = new (some h) := by
  induction calls using List.reverseRecOn with
  | nil => rfl
  | append_singleton calls call ih => rw [after_concat, ih, run_given]

lemma send?_given (url : String) :
    (new (some h)).opened.send? network url = some (request network h.follows url) := by
  rw [opened_of_held rfl]
  exact send?_of_held rfl List.not_mem_nil url

end

/-! ### Clients of its own -/

/-- A fetcher whose clients are its own: it has opened the one that it holds and those that it has
closed, and the one that it holds is none of these. -/
structure Sound (f : Fetcher) : Prop where
  owns : f.owns = true
  numbered : ∀ h, f.held = some h → ∃ n < f.count, h = .opened n
  shut : ∀ n, .opened n ∈ f.shut → n < f.count
  usable : ∀ h, f.held = some h → h ∉ f.shut

lemma sound_new : Sound (new none) where
  owns := rfl
  numbered := nofun
  shut := nofun
  usable := nofun

section

variable {f : Fetcher} (hf : Sound f)

include hf

/-- A new client is none of those that have been closed: its number is the next one. -/
lemma Sound.opened : Sound f.opened := by
  cases hheld : f.held with
  | some h => rwa [opened_of_held hheld]
  | none =>
    rw [opened_of_bare hheld]
    constructor
    · exact hf.owns
    · rintro h ⟨⟩
      exact ⟨f.count, Nat.lt_succ_self _, rfl⟩
    · exact fun n hn => Nat.lt_succ_of_lt (hf.shut n hn)
    · rintro h ⟨⟩ hshut
      exact Nat.lt_irrefl _ (hf.shut _ hshut)

lemma Sound.closed : Sound f.closed := by
  cases hheld : f.held with
  | none => rwa [closed_of_bare hheld]
  | some h =>
    rw [closed_of_held hf.owns hheld]
    refine ⟨hf.owns, nofun, fun n hn => ?_, nofun⟩
    -- the client that is closed now was opened by the fetcher, as those before it
    obtain rfl | hn := List.mem_cons.mp hn
    · obtain ⟨m, hm, ⟨⟩⟩ := hf.numbered _ hheld
      exact hm
    · exact hf.shut n hn

lemma Sound.run (network : Network) (call : Call) : Sound (f.run network call).1 := by
  rw [run_fst]
  split
  · exact hf.opened
  · exact hf.closed

lemma Sound.held_closed : f.closed.held = none := by
  cases hheld : f.held with
  | none => rw [closed_of_bare hheld, hheld]
  | some h => rw [closed_of_held hf.owns hheld]

/-- The client that a fetch is sent with follows redirections, whichever it is. -/
lemma Sound.send? (network : Network) (url : String) :
    f.opened.send? network url = some (request network true url) := by
  obtain ⟨h, hheld⟩ := Option.isSome_iff_exists.mp (isSome_held_opened (f := f))
  obtain ⟨n, -, rfl⟩ := hf.opened.numbered h hheld
  exact send?_of_held hheld (hf.opened.usable _ hheld) url

end

lemma sound_after (network : Network) (calls : List Call) : Sound (after network none calls) := by
  induction calls using List.reverseRecOn with
  | nil => exact sound_new
  | append_singleton calls call ih =>
    rw [after_concat]
    exact ih.run network call

/-! ### Fetches -/

/-- A fetch is answered alike after whatever calls. -/
lemma reply_after (network : Network) (client : Option Handle) (calls : List Call) (kind : Kind)
    (url : String) :
    ∃ reply, ((after network client calls).run network (kind.call url)).2 = some reply ∧
      ((new client).run network (kind.call url)).2 = some reply := by
  rw [run_kind, run_kind]
  cases client with
  | none =>
    rw [fetch, fetch, (sound_after network calls).send?, sound_new.send?]
    exact ⟨_, rfl, rfl⟩
  | some h =>
    rw [after_given, fetch, send?_given]
    exact ⟨_, rfl, rfl⟩

/-! ### Without the detail -/

/-- A fetcher as the calls of `Client` see it. A client that it opens follows redirections. -/
def view (f : Fetcher) : Client :=
  if f.owns then .own f.held.isSome else .given (f.held.all Handle.follows)

/-- The report of a call that has a reply. -/
def report? (r : Fetcher × Option Reply) : Option Report :=
  r.2.map fun reply => ⟨r.1.view, reply.sent, reply.outcome⟩

/-- A fetch gets through, by a client that follows redirections as the view says. -/
def Ready (network : Network) (f : Fetcher) : Prop :=
  ∀ url, f.opened.send? network url = some (request network f.view.follows url)

lemma view_opened (f : Fetcher) : f.opened.view = f.view.opened := by
  obtain ⟨owns, held, count, shut⟩ := f
  cases held <;> cases owns <;> rfl

lemma view_closed (f : Fetcher) : f.closed.view = f.view.closed := by
  obtain ⟨owns, held, count, shut⟩ := f
  cases held <;> cases owns <;> rfl

variable {network : Network} {f : Fetcher}

lemma Sound.ready (hf : Sound f) : Ready network f := by
  intro url
  rw [hf.send?, view, if_pos hf.owns]
  rfl

lemma report?_run (hready : Ready network f) (call : Call) :
    report? (f.run network call) = some (f.view.run network call) := by
  have hfetch (kind : Kind) (url : String) :
      report? (f.fetch network kind url) = some (f.view.run network (kind.call url)) := by
    rw [fetch, hready url, report?, run_call, view_opened]
    rfl
  cases call with
  | enter => rw [run, report?, view_opened]; rfl
  | exit => rw [run, report?, view_closed]; rfl
  | close => rw [run, report?, view_closed]; rfl
  | text url => exact hfetch .text url
  | json url => exact hfetch .json url
  | bytes url => exact hfetch .bytes url

/-- What holds of a fetcher after each call and has it ready makes its calls those of its view. -/
lemma report?_runAll {P : Fetcher → Prop} (hstep : ∀ f call, P f → P (f.run network call).1)
    (hready : ∀ f, P f → Ready network f) (calls : List Call) (hf : P f) :
    (f.runAll network calls).map report? = (f.view.runAll network calls).map some := by
  induction calls generalizing f with
  | nil => rfl
  | cons call rest ih =>
    have hrun : report? (f.run network call) = some (f.view.run network call) :=
      report?_run (hready f hf) call
    have hview : (f.run network call).1.view = (f.view.run network call).client := by
      obtain ⟨reply, -, hreply⟩ := Option.map_eq_some_iff.mp hrun
      rw [← hreply]
    rw [runAll, Client.runAll, List.map_cons, List.map_cons, hrun, ih (hstep f call hf), hview]

/-- A client that was given is held after every call. One of the fetcher's own is held after entering
and after a fetch, whatever came of it, and after no other call; while it is held it is not replaced.
Each fetch has the reply that it has on a new fetcher. Without the detail these are the calls of
`Client.own` and `Client.given`. -/
theorem run_as_new (network : Network) (before : List Call) (call : Call) :
    (∀ h, (after network (some h) (before ++ [call])).held = some h) ∧
    ((after network none (before ++ [call])).held.isSome ↔
      call = .enter ∨ ∃ kind url, call = Kind.call kind url) ∧
    (∀ h h', (after network none before).held = some h →
      (after network none (before ++ [call])).held = some h' → h' = h) ∧
    (∀ client kind url, call = Kind.call kind url → ∃ reply,
      ((after network client before).run network call).2 = some reply ∧
        ((new client).run network call).2 = some reply) ∧
    ((new none).runAll network (before ++ [call])).map report? =
      ((Client.own false).runAll network (before ++ [call])).map some ∧
    ∀ follows, ((new (some (.given follows))).runAll network (before ++ [call])).map report? =
      ((Client.given follows).runAll network (before ++ [call])).map some := by
  have hbefore : Sound (after network none before) := sound_after network before
  refine ⟨fun h => ?_, ?_, fun h h' hheld hheld' => ?_, fun client kind url hcall => ?_, ?_,
    fun follows => ?_⟩
  · rw [after_given]
    rfl
  · -- the outcome of a fetch plays no part: the client is opened before anything is sent
    rw [after_concat, run_fst, ← Call.opens_iff]
    cases call.opens with
    | true => simpa using isSome_held_opened
    | false => simp [hbefore.held_closed]
  · rw [after_concat, run_fst] at hheld'
    split at hheld'
    · rw [opened_of_held hheld, hheld] at hheld'
      exact (Option.some.inj hheld').symm
    · rw [hbefore.held_closed] at hheld'
      cases hheld'
  · subst hcall
    exact reply_after network client before kind url
  · exact report?_runAll (fun f call hf => hf.run network call) (fun f hf => hf.ready) _ sound_new
  · refine report?_runAll (P := (· = new (some (.given follows)))) ?_ ?_ _ rfl
    · rintro f call rfl
      exact run_given network _ call
    · rintro f rfl url
      exact send?_given network _ url

/-- A fetcher with clients of its own fails to read an address, is closed twice and entered again;
its second client then fetches what the first one would have. -/
theorem run_as_new_of_closed_twice :
    let network : Network :=
      ⟨fun _ => .response ⟨200, [], [104, 105]⟩, fun _ => none, fun _ => none⟩
    let before : List Call := [.text "http://s.test:abc/", .close, .exit, .enter]
    let call : Call := .bytes "http://s.test/a"
    (after network none before).held = some (.opened 1) ∧
      (after network none (before ++ [call])).held = some (.opened 1) ∧
      ((after network none before).run network call).2 =
        some ⟨["http://s.test/a"], .ok (.bytes [104, 105])⟩ := by
  intro network before call
  obtain ⟨-, hheld, hsame, hreply, -⟩ := run_as_new network before call
  have hbefore : (after network none before).held = some (.opened 1) := rfl
  obtain ⟨h, hafter⟩ := Option.isSome_iff_exists.mp (hheld.mpr (.inr ⟨.bytes, _, rfl⟩))
  obtain ⟨reply, hrun, hnew⟩ := hreply none .bytes _ rfl
  refine ⟨hbefore, ?_, ?_⟩
  · rw [hafter, hsame _ h hbefore hafter]
  · rw [hrun, ← hnew]
    rfl

end Fetcher

end MangaShelf.Fetch
