import MangaShelf.Failure
import MangaShelf.Json.Reader
import MangaShelf.Text.Blank
import MangaShelf.Text.Charset

/-!
# Responses

What comes back for a request, and how its body is read as text or as JSON.
-/

namespace MangaShelf.Fetch

/-- A response to a request. -/
structure Response where
  status : Nat
  headers : List (String × String)
  body : List UInt8
  deriving DecidableEq, Repr

namespace Response

/-- The value of a header; its name may be in any case. -/
def header? (r : Response) (name : String) : Option String :=
  (r.headers.find? fun (k, _) => Text.lowerAscii k = name).map (·.2)

/-- The request has succeeded. -/
def isSuccess (r : Response) : Bool :=
  200 ≤ r.status && r.status < 300

/-- Where a response sends to. -/
def location? (r : Response) : Option String :=
  if [301, 302, 303, 307, 308].contains r.status then r.header? "location" else none

/-- The value of a parameter without quotes around it. -/
def unquoted (cs : List Char) : List Char :=
  match cs with
  | '"' :: rest => if rest.getLast? = some '"' then rest.dropLast else cs
  | _ => cs

/-- The name that a content type gives to its character set. -/
def charsetName? (contentType : String) : Option String :=
  (Text.pieces (· == ';') contentType.toList).findSome? fun parameter =>
    match Text.cutAt '=' parameter with
    | (name, some value) =>
      if Text.lowerAscii (Text.trim (String.ofList name)) = "charset" then
        some (String.ofList (unquoted (Text.trimBoth Text.isBlank value)))
      else none
    | _ => none

/-- The body as text. Without a character set it is read as UTF-8; without bytes it is empty. -/
def text (others : Text.OtherCharsets) (r : Response) : Except Failure String :=
  if r.body.isEmpty then .ok ""
  else
    match (r.header? "content-type").bind charsetName? with
    | none => .ok (Text.Charset.utf8.readLenient r.body)
    | some name =>
      match Text.readNamed others name r.body with
      | .ok s => .ok s
      | .error fault => .error (.charset fault)

/-- The body as JSON, if it is JSON. -/
def json (r : Response) : Except Failure (Option Json) :=
  match (Text.Charset.ofJsonBytes r.body).read? r.body with
  | none => .ok none
  | some s =>
    match Json.parse s with
    | .ok v => .ok (some v)
    | .error .tooDeep => .error .tooDeep
    | .error _ => .ok none

end Response

end MangaShelf.Fetch
