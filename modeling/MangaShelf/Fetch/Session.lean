import MangaShelf.Fetch.Response
import MangaShelf.Fetch.Source
import MangaShelf.Url.Request

/-!
# Fetching over a connection

Requests to the servers of sites. A fetcher with a client of its own opens it when it is needed,
follows redirections and closes it when asked to; a client that was given to it stays as it is, and
may follow redirections or not.
-/

namespace MangaShelf.Fetch

open Url (RequestUrl)

/-- What a server does with a request. -/
inductive Answer where
  | response (r : Response)
  /-- The request fails on its way. -/
  | broken

/-- The servers of all sites: their answer to the request for an address. -/
abbrev Servers := String → Answer

/-- What a client works with. Nothing is known of it here: the tables behind domain names and
character sets may be any. -/
structure Network where
  servers : Servers
  domains : Url.Domains
  charsets : Text.OtherCharsets

/-- The addresses that were asked for, in order, and what came of it. -/
structure Visit where
  sent : List String
  outcome : Except Failure (Option Response)

/-- Where a redirection leads; nothing for an address that cannot be read. -/
def redirection (domains : Url.Domains) (current : RequestUrl) (location : String) :
    Except Failure (Option RequestUrl) :=
  match RequestUrl.ofChars domains location.toList with
  | .error _ => .ok none
  | .ok target => do
    let target ←
      if !target.scheme.isEmpty && target.host.isEmpty then
        if !current.host.isEmpty && !target.path.isEmpty && target.path.head? != some '/' then
          throw (.request .pathWithoutSlash)
        else pure { target with host := current.host }
      else pure target
    let target ←
      if target.isComplete then pure target
      else
        match Url.resolve current.toText target.toText with
        | .error fault => throw (.reference fault)
        | .ok joined =>
          match RequestUrl.ofChars domains joined.toList with
          | .error fault => throw (.request fault)
          | .ok u => pure u
    let bare := target.fragment.getD []
    return some (if bare.isEmpty && !(current.fragment.getD []).isEmpty then
      { target with fragment := current.fragment } else target)

/-- The most redirections that are followed one after the other. -/
def maxRedirections : Nat := 20

/-- A final response counts if it is a success. -/
def accepted (r : Response) : Option Response :=
  if r.isSuccess then some r else none

/-- What a request comes to. -/
inductive Turn where
  /-- It ends there. -/
  | over (outcome : Except Failure (Option Response))
  /-- The response sends on. -/
  | onward (r : Response) (target : RequestUrl)

/-- Ask for one address. -/
def turn (network : Network) (u : RequestUrl) : Turn :=
  match network.servers u.toText with
  | .broken => .over (.ok none)
  | .response r =>
    match r.location? with
    | none => .over (.ok (accepted r))
    | some location =>
      match redirection network.domains u location with
      | .error failure => .over (.error failure)
      | .ok none => .over (.ok none)
      | .ok (some target) => .onward r target

/-- Ask for an address and follow redirections, at most `left` more. -/
def visit (network : Network) (follows : Bool) : Nat → RequestUrl → Visit
  | 0, u =>
    match turn network u with
    | .over outcome => ⟨[u.toText], outcome⟩
    | .onward r _ => ⟨[u.toText], .ok (if follows then none else accepted r)⟩
  | left + 1, u =>
    match turn network u with
    | .over outcome => ⟨[u.toText], outcome⟩
    | .onward r target =>
      if follows then
        let rest := visit network follows left target
        ⟨u.toText :: rest.sent, rest.outcome⟩
      else ⟨[u.toText], .ok (accepted r)⟩

/-- Ask for the address that a text spells. -/
def request (network : Network) (follows : Bool) (url : String) : Visit :=
  match RequestUrl.ofText network.domains url with
  | .error fault => ⟨[], .error (.request fault)⟩
  | .ok u => visit network follows maxRedirections u

/-- The client of a fetcher. -/
inductive Client where
  /-- A client that was given to the fetcher, set up by whoever made it. -/
  | given (follows : Bool)
  | own (isOpen : Bool)
  deriving DecidableEq, Repr

namespace Client

/-- The client follows redirections. -/
def follows : Client → Bool
  | .given follows => follows
  | .own _ => true

/-- Open the client if it is the fetcher's own. -/
def opened : Client → Client
  | .given follows => .given follows
  | .own _ => .own true

/-- Close the client if it is the fetcher's own. -/
def closed : Client → Client
  | .given follows => .given follows
  | .own _ => .own false

end Client

/-- What a fetcher can be asked to do. -/
inductive Call where
  | enter
  | exit
  | close
  | text (url : String)
  | json (url : String)
  | bytes (url : String)
  deriving DecidableEq, Repr

/-- What a call gives back. -/
inductive Value where
  | nothing
  | entered
  | json (v : Json)
  | bytes (bs : List UInt8)

/-- What came of a call. -/
structure Report where
  client : Client
  sent : List String
  outcome : Except Failure Value

/-- The payload of a visit. -/
def Visit.payload (v : Visit) (take : Response → Except Failure Value) : Except Failure Value :=
  match v.outcome with
  | .error failure => .error failure
  | .ok none => .ok .nothing
  | .ok (some r) => take r

/-- Run a call of a fetcher. -/
def Client.run (network : Network) (c : Client) : Call → Report
  | .enter => ⟨c.opened, [], .ok .entered⟩
  | .exit => ⟨c.closed, [], .ok .nothing⟩
  | .close => ⟨c.closed, [], .ok .nothing⟩
  | .text url =>
    let v := request network c.follows url
    ⟨c.opened, v.sent, v.payload fun r => do return .json (.string (← r.text network.charsets))⟩
  | .json url =>
    let v := request network c.follows url
    ⟨c.opened, v.sent, v.payload fun r => do
      match ← r.json with
      | none => return .nothing
      | some j => return .json j⟩
  | .bytes url =>
    let v := request network c.follows url
    ⟨c.opened, v.sent, v.payload fun r => .ok (.bytes r.body)⟩

/-- Run some calls one after the other. -/
def Client.runAll (network : Network) : Client → List Call → List Report
  | _, [] => []
  | c, call :: rest =>
    let report := c.run network call
    report :: runAll network report.client rest

/-- The servers as a source, asked by a fetcher with a client of its own. -/
def Network.source (network : Network) : Source where
  text url := do
    match ← (request network true url).outcome with
    | none => return none
    | some r => return some (← r.text network.charsets)
  json url := do
    match ← (request network true url).outcome with
    | none => return none
    | some r => r.json
  bytes url := do return (← (request network true url).outcome).map Response.body

end MangaShelf.Fetch
