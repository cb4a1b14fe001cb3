import Mathlib.Data.List.Chain
import MangaShelf.Fetch.Session
import MangaShelf.Proofs.Run

/-!
# The course of a fetch

A fetch asks for an address and for those that it is sent on to, one after the other. What it gives
depends on the last of them alone: the payload of a success or nothing. It fails where an address
cannot be read or the success is spoiled: `run_fetch`.
-/

namespace MangaShelf.Fetch

open Url (RequestUrl)

variable (network : Network)

/-! ### Answers -/

/-- The server of an address sends on to another one. -/
def SendsOn (u target : RequestUrl) : Prop :=
  ∃ r location, network.servers u.toText = .response r ∧ r.location? = some location ∧
    redirection network.domains u location = .ok (some target)

/-- The server of an address sends on to one that cannot be put together. -/
def Misleads (u : RequestUrl) (failure : Failure) : Prop :=
  ∃ r location, network.servers u.toText = .response r ∧ r.location? = some location ∧
    redirection network.domains u location = .error failure

/-- The server of an address answers with a success. -/
def Succeeds (u : RequestUrl) (r : Response) : Prop :=
  network.servers u.toText = .response r ∧ r.isSuccess

/-- A response that sends on is no success. -/
lemma isSuccess_of_location {r : Response} {location : String} (h : r.location? = some location) :
    r.isSuccess = false := by
  have hstatus : r.status ∈ [301, 302, 303, 307, 308] := by
    unfold Response.location? at h
    split at h
    next hstatus => simpa using hstatus
    next => cases h
  simp only [List.mem_cons, List.not_mem_nil, or_false] at hstatus
  simp only [Response.isSuccess, Bool.and_eq_false_imp, decide_eq_true_eq, decide_eq_false_iff_not]
  omega

lemma accepted_eq_some {r r' : Response} :
    accepted r = some r' ↔ r = r' ∧ r'.isSuccess := by
  unfold accepted
  constructor
  · intro h
    split at h
    next hsuccess =>
      cases h
      exact ⟨rfl, hsuccess⟩
    next => cases h
  · rintro ⟨rfl, hsuccess⟩
    rw [if_pos hsuccess]

lemma accepted_of_location {r : Response} {location : String} (h : r.location? = some location) :
    accepted r = none := by
  rw [accepted, isSuccess_of_location h]
  rfl

/-- What an address gives if no further one is asked for. -/
def settled (u : RequestUrl) : Except Failure (Option Response) :=
  match network.servers u.toText with
  | .broken => .ok none
  | .response r =>
    match r.location? with
    | none => .ok (accepted r)
    | some location =>
      match redirection network.domains u location with
      | .error failure => .error failure
      | .ok _ => .ok none

lemma settled_eq_error {u : RequestUrl} {failure : Failure} :
    settled network u = .error failure ↔ Misleads network u failure := by
  unfold settled Misleads
  cases hanswer : network.servers u.toText with
  | broken => simp
  | response r =>
    cases hlocation : r.location? with
    | none => simp [hlocation]
    | some location =>
      cases hredirection : redirection network.domains u location <;>
        simp [hlocation, hredirection]

lemma settled_eq_some {u : RequestUrl} {r : Response} :
    settled network u = .ok (some r) ↔ Succeeds network u r := by
  unfold settled Succeeds
  cases hanswer : network.servers u.toText with
  | broken => simp
  | response r' =>
    cases hlocation : r'.location? with
    | none => simp [hlocation, accepted_eq_some]
    | some location =>
      have hfailed := isSuccess_of_location hlocation
      dsimp only
      rw [hlocation]
      constructor
      · intro h
        cases hredirection : redirection network.domains u location <;> simp [hredirection] at h
      · rintro ⟨heq, hsuccess⟩
        cases heq
        rw [hfailed] at hsuccess
        cases hsuccess

/-- What an address that sends on gives by itself: no success. -/
lemma settled_of_sendsOn {u target : RequestUrl} (h : SendsOn network u target) :
    settled network u = .ok none := by
  obtain ⟨r, location, hanswer, hlocation, hredirection⟩ := h
  simp [settled, hanswer, hlocation, hredirection]

lemma turn_of_sendsOn {u target : RequestUrl} (h : SendsOn network u target) :
    ∃ r, turn network u = .onward r target ∧ accepted r = none := by
  obtain ⟨r, location, hanswer, hlocation, hredirection⟩ := h
  refine ⟨r, ?_, accepted_of_location hlocation⟩
  simp [turn, hanswer, hlocation, hredirection]

lemma turn_of_not_sendsOn {u : RequestUrl} (h : ∀ target, ¬ SendsOn network u target) :
    turn network u = .over (settled network u) := by
  unfold turn settled
  cases hanswer : network.servers u.toText with
  | broken => rfl
  | response r =>
    cases hlocation : r.location? with
    | none => simp [hlocation]
    | some location =>
      cases hredirection : redirection network.domains u location with
      | error failure => simp [hlocation, hredirection]
      | ok target? =>
        cases target? with
        | none => simp [hlocation, hredirection]
        | some target => exact absurd ⟨r, location, hanswer, hlocation, hredirection⟩ (h target)

/-- Neither a success nor an address to fail at. -/
lemma settled_eq_ok_none {u : RequestUrl} :
    settled network u = .ok none ↔
      (∀ r, ¬ Succeeds network u r) ∧ ∀ failure, ¬ Misleads network u failure := by
  simp only [← settled_eq_some, ← settled_eq_error]
  constructor
  · intro h
    simp [h]
  · rintro ⟨hsome, herror⟩
    cases hsettled : settled network u with
    | error failure => exact absurd hsettled (herror failure)
    | ok r? =>
      cases r? with
      | none => rfl
      | some r => exact absurd hsettled (hsome r)

/-! ### Courses -/

/-- The addresses that are asked for, from `u` on: each sends on to the next one, at most `left`
times, and the last one to none that is still followed. -/
structure Course (follows : Bool) (left : Nat) (u : RequestUrl) (path : List RequestUrl)
    (last : RequestUrl) : Prop where
  first : path.head? = some u
  ends : path.getLast? = some last
  linked : List.IsChain (SendsOn network) path
  short : path.length ≤ (if follows then left else 0) + 1
  complete : path.length = (if follows then left else 0) + 1 ∨
    ∀ target, ¬ SendsOn network last target

/-- An address that does not send on ends a visit. -/
lemma visit_of_not_sendsOn (follows : Bool) (left : Nat) {u : RequestUrl}
    (h : ∀ target, ¬ SendsOn network u target) :
    visit network follows left u = ⟨[u.toText], settled network u⟩ := by
  have hturn : turn network u = .over (settled network u) := turn_of_not_sendsOn network h
  cases left <;> simp only [visit, hturn]

section

variable {u target : RequestUrl} (h : SendsOn network u target)

include h

/-- One that does is followed as long as it may be. -/
lemma visit_of_sendsOn (left : Nat) :
    visit network true (left + 1) u =
      ⟨u.toText :: (visit network true left target).sent,
        (visit network true left target).outcome⟩ := by
  obtain ⟨r, hturn, -⟩ := turn_of_sendsOn network h
  simp only [visit, hturn, if_true]

lemma visit_of_sendsOn_last (follows : Bool) :
    visit network follows 0 u = ⟨[u.toText], settled network u⟩ := by
  obtain ⟨r, hturn, hnot⟩ := turn_of_sendsOn network h
  rw [settled_of_sendsOn network h]
  simp only [visit, hturn, hnot, ite_self]

lemma visit_of_sendsOn_unfollowed (left : Nat) :
    visit network false left u = ⟨[u.toText], settled network u⟩ := by
  obtain ⟨r, hturn, hnot⟩ := turn_of_sendsOn network h
  rw [settled_of_sendsOn network h]
  cases left <;> simp [visit, hturn, hnot]

end

lemma course_alone {follows : Bool} {left : Nat} {u : RequestUrl}
    (h : (if follows then left else 0) = 0 ∨ ∀ target, ¬ SendsOn network u target) :
    Course network follows left u [u] u where
  first := rfl
  ends := rfl
  linked := List.isChain_singleton u
  short := by simp
  complete := h.imp (fun hzero => by rw [hzero]; rfl) id

/-- One more address before a course. -/
lemma Course.cons {left : Nat} {u target last : RequestUrl} {path : List RequestUrl}
    (h : SendsOn network u target) (hcourse : Course network true left target path last) :
    Course network true (left + 1) u (u :: path) last := by
  obtain ⟨rest, rfl⟩ := List.head?_eq_some_iff.mp hcourse.first
  constructor
  · rfl
  · rw [List.getLast?_cons_cons, hcourse.ends]
  · exact List.isChain_cons_cons.mpr ⟨h, hcourse.linked⟩
  · simpa using hcourse.short
  · simpa using hcourse.complete

/-- A visit takes its course, and what comes of it is what the last address gives. -/
lemma exists_course_of_visit (follows : Bool) (left : Nat) (u : RequestUrl) :
    ∃ path last, Course network follows left u path last ∧
      visit network follows left u = ⟨path.map RequestUrl.toText, settled network last⟩ := by
  induction left generalizing u with
  | zero =>
    refine ⟨[u], u, course_alone network (.inl (by simp)), ?_⟩
    by_cases hon : ∃ target, SendsOn network u target
    · obtain ⟨target, hon⟩ := hon
      exact visit_of_sendsOn_last network hon follows
    · exact visit_of_not_sendsOn network follows 0 (not_exists.mp hon)
  | succ left ih =>
    by_cases hon : ∃ target, SendsOn network u target
    · obtain ⟨target, hon⟩ := hon
      cases follows with
      | true =>
        obtain ⟨path, last, hcourse, hvisit⟩ := ih target
        refine ⟨u :: path, last, hcourse.cons network hon, ?_⟩
        rw [visit_of_sendsOn network hon, hvisit]
        rfl
      | false =>
        exact ⟨[u], u, course_alone network (.inl rfl), visit_of_sendsOn_unfollowed network hon _⟩
    · have hnone := not_exists.mp hon
      exact ⟨[u], u, course_alone network (.inr hnone), visit_of_not_sendsOn network _ _ hnone⟩

/-! ### Payloads -/

/-- What a fetch takes from a success. -/
inductive Kind where
  | text
  | json
  | bytes

namespace Kind

/-- The call that fetches an address. -/
def call : Kind → String → Call
  | .text, url => .text url
  | .json, url => .json url
  | .bytes, url => .bytes url

/-- The payload of a response, as a fetch takes it. -/
def take (others : Text.OtherCharsets) : Kind → Response → Except Failure Value
  | .text, r => do return .json (.string (← r.text others))
  | .json, r => do
    match ← r.json with
    | none => return .nothing
    | some j => return .json j
  | .bytes, r => .ok (.bytes r.body)

end Kind

/-- The body as the text that JSON is read from. -/
def Response.jsonText? (r : Response) : Option String :=
  (Text.Charset.ofJsonBytes r.body).read? r.body

/-- The payload of a response: nothing if JSON is asked for and the body is none. -/
inductive Payload (others : Text.OtherCharsets) (r : Response) : Kind → Value → Prop where
  | text {s : String} : r.text others = .ok s → Payload others r .text (.json (.string s))
  | json {s : String} {v : Json} :
    r.jsonText? = some s → Json.parse s = .ok v → Payload others r .json (.json v)
  | unreadable : r.jsonText? = none → Payload others r .json .nothing
  | malformed {s : String} {e : Json.ReadError} :
    r.jsonText? = some s → Json.parse s = .error e → e ≠ .tooDeep → Payload others r .json .nothing
  | bytes : Payload others r .bytes (.bytes r.body)

/-- A response without a payload: its character set reads no text, or its JSON is nested too
deep. -/
inductive Spoiled (others : Text.OtherCharsets) (r : Response) : Kind → Failure → Prop where
  | charset {fault : Text.CharsetFault} :
    r.text others = .error (.charset fault) → Spoiled others r .text (.charset fault)
  | tooDeep {s : String} :
    r.jsonText? = some s → Json.parse s = .error .tooDeep → Spoiled others r .json .tooDeep

variable {others : Text.OtherCharsets} {r : Response} {kind : Kind} {value : Value}
  {failure : Failure}

lemma text_eq_error (h : r.text others = .error failure) : ∃ fault, failure = .charset fault := by
  unfold Response.text at h
  split at h
  next => cases h
  next =>
    split at h
    next => cases h
    next =>
      split at h
      next => cases h
      next fault _ =>
        cases h
        exact ⟨fault, rfl⟩

lemma json_of_unreadable (h : r.jsonText? = none) : r.json = .ok none := by
  rw [Response.jsonText?] at h
  rw [Response.json, h]

/-- A readable body is what its text is as JSON. -/
lemma json_of_readable {s : String} (h : r.jsonText? = some s) :
    r.json = match Json.parse s with
      | .ok v => .ok (some v)
      | .error .tooDeep => .error .tooDeep
      | .error _ => .ok none := by
  have hread : (Text.Charset.ofJsonBytes r.body).read? r.body = some s := h
  cases hparse : Json.parse s with
  | ok v => simp [Response.json, hread, hparse]
  | error e => cases e <;> simp [Response.json, hread, hparse]

lemma take_of_payload (h : Payload others r kind value) : kind.take others r = .ok value := by
  cases h with
  | text htext =>
    rw [Kind.take, htext]
    rfl
  | json hread hparse =>
    rw [Kind.take, json_of_readable hread, hparse]
    rfl
  | unreadable hread =>
    rw [Kind.take, json_of_unreadable hread]
    rfl
  | @malformed s e hread hparse hdeep =>
    rw [Kind.take, json_of_readable hread, hparse]
    cases e with
    | tooDeep => exact absurd rfl hdeep
    | malformed rest => rfl
    | tooManyDigits => rfl
  | bytes => rfl

lemma take_of_spoiled (h : Spoiled others r kind failure) : kind.take others r = .error failure := by
  cases h with
  | charset htext =>
    rw [Kind.take, htext]
    rfl
  | tooDeep hread hparse =>
    rw [Kind.take, json_of_readable hread, hparse]
    rfl

variable (others r kind) in
/-- There is no third kind of response. -/
lemma payload_or_spoiled :
    (∃ value, Payload others r kind value) ∨ ∃ failure, Spoiled others r kind failure := by
  cases kind with
  | text =>
    cases htext : r.text others with
    | ok s => exact .inl ⟨_, .text htext⟩
    | error failure =>
      obtain ⟨fault, rfl⟩ := text_eq_error htext
      exact .inr ⟨_, .charset htext⟩
  | bytes => exact .inl ⟨_, .bytes⟩
  | json =>
    cases hread : r.jsonText? with
    | none => exact .inl ⟨_, .unreadable hread⟩
    | some s =>
      cases hparse : Json.parse s with
      | ok v => exact .inl ⟨_, .json hread hparse⟩
      | error e =>
        by_cases hdeep : e = .tooDeep
        · subst hdeep
          exact .inr ⟨_, .tooDeep hread hparse⟩
        · exact .inl ⟨_, .malformed hread hparse hdeep⟩

lemma take_eq_ok : kind.take others r = .ok value ↔ Payload others r kind value := by
  refine ⟨fun h => ?_, take_of_payload⟩
  obtain ⟨v, hpayload⟩ | ⟨failure, hspoiled⟩ := payload_or_spoiled others r kind
  · rw [take_of_payload hpayload] at h
    cases h
    exact hpayload
  · rw [take_of_spoiled hspoiled] at h
    cases h

lemma take_eq_error : kind.take others r = .error failure ↔ Spoiled others r kind failure := by
  refine ⟨fun h => ?_, take_of_spoiled⟩
  obtain ⟨v, hpayload⟩ | ⟨failure, hspoiled⟩ := payload_or_spoiled others r kind
  · rw [take_of_payload hpayload] at h
    cases h
  · rw [take_of_spoiled hspoiled] at h
    cases h
    exact hspoiled

/-! ### Fetches -/

section

variable (c : Client) (kind) (url : String)

lemma run_call :
    c.run network (kind.call url) =
      ⟨c.opened, (request network c.follows url).sent,
        (request network c.follows url).payload (kind.take network.charsets)⟩ := by
  cases kind <;> rfl

variable {url}

lemma run_of_unreadable {fault : Url.RequestFault}
    (h : RequestUrl.ofText network.domains url = .error fault) :
    c.run network (kind.call url) = ⟨c.opened, [], .error (.request fault)⟩ := by
  rw [run_call, request, h]
  rfl

end

lemma payload_eq_ok {v : Visit} :
    v.payload (kind.take others) = .ok value ↔
      (∃ r, v.outcome = .ok (some r) ∧ Payload others r kind value) ∨
        v.outcome = .ok none ∧ value = .nothing := by
  unfold Visit.payload
  split
  next failure h => simp [h]
  next h => simp [h, eq_comm]
  next r h => simp [h, take_eq_ok]

lemma payload_eq_error {v : Visit} :
    v.payload (kind.take others) = .error failure ↔
      v.outcome = .error failure ∨
        ∃ r, v.outcome = .ok (some r) ∧ Spoiled others r kind failure := by
  unfold Visit.payload
  split
  next failure h => simp [h]
  next h => simp [h]
  next r h => simp [h, take_eq_error]

variable (c : Client) (kind) (url : String) in
/-- Whatever the servers answer, and however other domains and character sets are read: a fetch of an
address that can be read takes its course. It gives the payload if the last server answers with a
success and nothing if it does not; it fails exactly where that server sends on to an address that
cannot be put together and where the success is spoiled. An address that cannot be read fails at
once. -/
theorem run_fetch :
    (∀ fault, RequestUrl.ofText network.domains url = .error fault →
      c.run network (kind.call url) = ⟨c.opened, [], .error (.request fault)⟩) ∧
    ∀ u, RequestUrl.ofText network.domains url = .ok u →
      ∃ path last, Course network c.follows maxRedirections u path last ∧
        (c.run network (kind.call url)).client = c.opened ∧
        (c.run network (kind.call url)).sent = path.map RequestUrl.toText ∧
        (∀ value, (c.run network (kind.call url)).outcome = .ok value ↔
          (∃ r, Succeeds network last r ∧ Payload network.charsets r kind value) ∨
            value = .nothing ∧ (∀ r, ¬ Succeeds network last r) ∧
              ∀ failure, ¬ Misleads network last failure) ∧
        ∀ failure, (c.run network (kind.call url)).outcome = .error failure ↔
          Misleads network last failure ∨
            ∃ r, Succeeds network last r ∧ Spoiled network.charsets r kind failure := by
  refine ⟨fun fault h => run_of_unreadable network kind c h, fun u h => ?_⟩
  obtain ⟨path, last, hcourse, hvisit⟩ :=
    exists_course_of_visit network c.follows maxRedirections u
  have hrequest : request network c.follows url =
      ⟨path.map RequestUrl.toText, settled network last⟩ := by
    rw [request, h]
    exact hvisit
  refine ⟨path, last, hcourse, ?_⟩
  rw [run_call, hrequest]
  refine ⟨rfl, rfl, fun value => ?_, fun failure => ?_⟩
  · rw [payload_eq_ok, settled_eq_ok_none]
    simp only [settled_eq_some, and_comm]
  · rw [payload_eq_error, settled_eq_error]
    simp only [settled_eq_some]

/-- A network that gives no answers. -/
def brokenNetwork : Network :=
  ⟨fun _ => .broken, fun _ => none, fun _ => none⟩

/-- A port that is no number is a failure, not nothing. -/
theorem run_fetch_of_bad_port :
    ((Client.given false).run brokenNetwork (.text "http://s.test:abc/")).outcome =
      .error (.request (.badPort "abc")) := by
  have hfault : RequestUrl.ofText brokenNetwork.domains "http://s.test:abc/" =
      .error (.badPort "abc") := by
    decide +kernel
  rw [show Call.text "http://s.test:abc/" = Kind.text.call "http://s.test:abc/" from rfl,
    run_of_unreadable brokenNetwork .text (.given false) hfault]

end MangaShelf.Fetch
