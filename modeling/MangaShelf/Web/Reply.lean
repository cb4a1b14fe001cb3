import MangaShelf.Catalog.Stream
import MangaShelf.Config.Issue

/-!
# Replies

What the application answers: a value, a stream of events, or a plain text.
-/

namespace MangaShelf.Web

open Config (Issue)

/-- The body of a reply. -/
inductive Content where
  | json (v : Json)
  | events (es : List String)
  | plain (s : String)

/-- The type of a body. -/
def Content.type : Content → String
  | .json _ => "application/json"
  | .events _ => "text/event-stream; charset=utf-8"
  | .plain _ => "text/plain; charset=utf-8"

/-- A reply to a request. -/
structure Reply where
  status : Nat
  content : Content

namespace Reply

/-- A successful reply. -/
def ok (v : Json) : Reply :=
  ⟨200, .json v⟩

/-- A reply that says in a word what is wrong. -/
def detail (status : Nat) (text : String) : Reply :=
  ⟨status, .json (.object [("detail", .string text)])⟩

/-- A reply that lists what is wrong with a request. -/
def invalid (issues : List Issue) : Reply :=
  ⟨422, .json (.object [("detail", .array (issues.map Issue.toJson))])⟩

/-- The reply when something went wrong that has no explanation. -/
def crash : Reply :=
  ⟨500, .plain "Internal Server Error"⟩

/-- A reply to a request that failed: refusals are explained, all else is not. -/
def ofFailure : Failure → Reply
  | .refused refusal =>
    ⟨refusal.status, .json (.object [("error", .string refusal.message)])⟩
  | _ => crash

/-- The reply says that the request has succeeded. -/
def isSuccess (r : Reply) : Bool :=
  r.status < 400

/-- The reply of a computation. -/
def ofRun (run : Run Reply) : Reply :=
  match run.outcome with
  | .ok reply => reply
  | .error failure => ofFailure failure

/-- The events of a stream up to the point where it was cut off. -/
def ofStream (s : Catalog.Stream) : Reply :=
  ⟨200, .events s.events⟩

end Reply

mutual

/-- A value with null for each number that is not finite. -/
def finite : Json → Json
  | .float x => if x.isNaN || x.isInf then .null else .float x
  | .array vs => .array (finiteItems vs)
  | .object ms => .object (finiteMembers ms)
  | v => v

/-- Values with null for each number that is not finite. -/
def finiteItems : List Json → List Json
  | [] => []
  | v :: vs => finite v :: finiteItems vs

/-- Members with null for each number that is not finite. -/
def finiteMembers : List (String × Json) → List (String × Json)
  | [] => []
  | (k, v) :: rest => (k, finite v) :: finiteMembers rest

end

end MangaShelf.Web
