import MangaShelf.Config.Rules
import MangaShelf.Extraction.Subject
import MangaShelf.Json.Reader
import MangaShelf.JsonPath.Select
import MangaShelf.Text.Blank

/-!
# Reading a value from a subject

Four ways to take a value, tried in turn: embedded JSON, the text, an attribute, the markup. The
first one that applies decides, even if it finds nothing.
-/

namespace MangaShelf.Extraction

open Config (FieldRule)

/-- The items of a list that are not null. -/
def dropNulls (vs : List Json) : List Json :=
  vs.filter (!·.isNull)

/-- The text, if there is one with a character in it. -/
def given (s : Option String) : Option String :=
  s.filter (· ≠ "")

/-- What a path selects in a value. A path that selects one list means its items. -/
def selected (path : String) (v : Json) : Except Failure (List Json) :=
  match JsonPath.select path v with
  | .ok [.array vs] => .ok (dropNulls vs)
  | .ok vs => .ok (dropNulls vs)
  | .error fault => .error (.path fault)

/-- The value of a text as JSON, if it is JSON. -/
def embedded (text : String) : Except Failure (Option Json) :=
  match Json.parse (Text.trim text) with
  | .ok v => .ok (some v)
  | .error .tooDeep => .error .tooDeep
  | .error _ => .ok none

/-- Take the embedded JSON or what a path selects in it; passed over when there is nothing. -/
def fromJson (s : Subject) (rule : FieldRule) : Except Failure (Option Json) := do
  if !rule.parsesJson then return none
  match s.text? with
  | none => return none
  | some text =>
    if Text.trim text = "" then return none
    match ← embedded text with
    | none => return none
    | some v =>
      match given rule.jsonPath with
      | none => return if v.isNull then none else some v
      | some path =>
        let found ← selected path v
        return if found.isEmpty then none else some (.array found)

/-- Take the text. -/
def fromText (s : Subject) (rule : FieldRule) : Option Json :=
  if rule.text then s.text?.map fun text => .string (Text.trim text) else none

/-- Take an attribute of an element; one that is not there decides for nothing. -/
def fromAttribute (s : Subject) (rule : FieldRule) : Option Json :=
  match given rule.attr with
  | some name => if s.isElement then some (.ofString? (s.attribute? name)) else none
  | none => none

/-- Take the markup of an element; anything else stands for itself. -/
def fromMarkup (s : Subject) : Json :=
  match s with
  | .element _ => .ofString? (s.markup?.map Text.trim)
  | .text text => .string text
  | .value v => v

/-- The value that a rule takes from a subject, null for none. -/
def read (s : Subject) (rule : FieldRule) : Except Failure Json := do
  match ← fromJson s rule with
  | some v => return v
  | none => return ((fromText s rule).orElse fun _ => fromAttribute s rule).getD (fromMarkup s)

end MangaShelf.Extraction
