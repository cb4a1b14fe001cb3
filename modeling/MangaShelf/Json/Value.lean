/-!
# JSON values

Dynamic values: documents, embedded data and everything that is sent out. Objects keep their
members in the order in which the keys first came.
-/

namespace MangaShelf

/-- A JSON value; whole numbers and floating-point numbers are kept apart. -/
inductive Json where
  | null
  | bool (b : Bool)
  | int (n : Int)
  | float (x : Float)
  | string (s : String)
  | array (items : List Json)
  | object (members : List (String × Json))
  deriving Inhabited

namespace Json

/-- The value of the first member called `key`. -/
def member? (key : String) : List (String × Json) → Option Json
  | [] => none
  | (k, v) :: rest => if k = key then some v else member? key rest

/-- Set the member `key`: in place when it is there, at the end when it is new. -/
def setMember (key : String) (value : Json) : List (String × Json) → List (String × Json)
  | [] => [(key, value)]
  | (k, v) :: rest =>
    if k = key then (key, value) :: rest else (k, v) :: setMember key value rest

/-- The member `key` of an object; nothing for any other value. -/
def get? (v : Json) (key : String) : Option Json :=
  match v with
  | .object members => member? key members
  | _ => none

/-- The text of a string value. -/
def asString? : Json → Option String
  | .string s => some s
  | _ => none

/-- The number of a whole number. -/
def asInt? : Json → Option Int
  | .int n => some n
  | _ => none

/-- Null, as an absent value. -/
def isNull : Json → Bool
  | .null => true
  | _ => false

/-- A text, or null for none. -/
def ofString? : Option String → Json
  | none => .null
  | some s => .string s

end Json

end MangaShelf
