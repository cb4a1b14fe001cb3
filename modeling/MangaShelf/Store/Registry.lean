import MangaShelf.Json.Value

/-!
# Registered connections

The manifest addresses that have been registered, as the rows of a table. Nothing in the table
itself keeps an address from having several rows: that each has one is the work of
`Session.register`, which looks an address up before it adds a row.
-/

namespace MangaShelf

/-- A row: an address and the number that it was given. -/
structure Connection where
  id : Nat
  url : String
  deriving DecidableEq, Repr

/-- The registered addresses, in the order in which they were added. -/
structure Registry where
  rows : List Connection
  deriving DecidableEq, Repr

namespace Registry

/-- Nothing is registered. -/
def empty : Registry :=
  ⟨[]⟩

/-- The addresses in order. -/
def urls (r : Registry) : List String :=
  r.rows.map (·.url)

/-- There are several rows where one at most is expected. -/
inductive Fault where
  | severalRows
  deriving DecidableEq, Repr

/-- The only row of an address, if it has a row. -/
def lookup (r : Registry) (url : String) : Except Fault (Option Connection) :=
  match r.rows.filter (·.url = url) with
  | [] => .ok none
  | [row] => .ok (some row)
  | _ => .error .severalRows

/-- The number of the next row, above those of all rows. -/
def nextId (r : Registry) : Nat :=
  r.rows.foldl (fun n row => max n row.id) 0 + 1

/-- The next row, for an address. -/
def nextRow (r : Registry) (url : String) : Connection :=
  ⟨r.nextId, url⟩

/-- Add a row for an address. -/
def insert (r : Registry) (url : String) : Registry :=
  ⟨r.rows ++ [r.nextRow url]⟩

end Registry

/-- A session on the table. What is changed in it is seen there at once, but it is stored by a
commit only. -/
structure Session where
  stored : Registry
  seen : Registry
  deriving DecidableEq, Repr

namespace Session

/-- A session in which nothing has been changed. -/
def start (r : Registry) : Session :=
  ⟨r, r⟩

/-- Store what has been changed. -/
def commit (s : Session) : Session :=
  ⟨s.seen, s.seen⟩

/-- Forget what has been changed and not stored. -/
def rollback (s : Session) : Session :=
  ⟨s.stored, s.stored⟩

/-- Register an address and give its row: the one that it has already, or else a new one, which is
stored before anything else happens in the session. -/
def register (s : Session) (url : String) : Session × Except Registry.Fault Connection :=
  match s.seen.lookup url with
  | .error fault => (s, .error fault)
  | .ok (some row) => (s, .ok row)
  | .ok none => ({ s with seen := s.seen.insert url }.commit, .ok (s.seen.nextRow url))

end Session

namespace Registry

/-- Register an address in a session of its own. -/
def register (r : Registry) (url : String) : Registry :=
  ((Session.start r).register url).1.stored

/-- Register some addresses one after the other. -/
def registerAll (r : Registry) (urls : List String) : Registry :=
  urls.foldl register r

/-- The addresses that a list holds. -/
def ofJson : Json → Registry
  | .array items => empty.registerAll (items.filterMap Json.asString?)
  | _ => empty

/-- The addresses as a list. -/
def toJson (r : Registry) : Json :=
  .array (r.urls.map .string)

/-- The address that was added last, or else the default. -/
def active (r : Registry) (default : Option String) : Option String :=
  match r.urls.getLast? with
  | some url => some url
  | none => default

end Registry

end MangaShelf
