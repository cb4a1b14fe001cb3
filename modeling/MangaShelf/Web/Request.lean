import MangaShelf.Config.Check
import MangaShelf.Fetch.Response
import MangaShelf.Web.Messages

/-!
# Requests

Requests to the application: which route they are for, and what their query and body say.
-/

namespace MangaShelf.Web

open Config

/-- A request. -/
structure Request where
  method : String
  path : String
  /-- The parameters of the query, in order. -/
  query : List (String × String)
  contentType : Option String
  body : List UInt8

/-- What the application can be asked for. -/
inductive Route where
  | register
  | user
  | spiders
  | search
  | manga
  | chapterPages
  | chapter
  | health
  deriving DecidableEq, Repr

namespace Route

/-- All routes. -/
def all : List Route :=
  [.register, .user, .spiders, .search, .manga, .chapterPages, .chapter, .health]

/-- The path of a route. -/
def path : Route → String
  | .register => "/api/register"
  | .user => "/api/user"
  | .spiders => "/api/spiders"
  | .search => "/api/search"
  | .manga => "/api/manga"
  | .chapterPages => "/api/chapter/pages"
  | .chapter => "/api/chapter"
  | .health => "/health"

/-- The method of a route. -/
def method : Route → String
  | .register => "POST"
  | .spiders => "POST"
  | .manga => "POST"
  | _ => "GET"

/-- The route with exactly this path. -/
def at? (path : List Char) : Option Route :=
  all.find? fun r => r.path.toList == path

/-- A path without the slashes at its end. -/
def bare (path : List Char) : List Char :=
  (path.reverse.dropWhile (· == '/')).reverse

/-- The route to which a path is redirected: with slashes at its end it is no path of a route. -/
def redirect? (path : List Char) : Option Route :=
  if (at? path).isNone then at? (bare path) else none

/-- The route that a path leads to in the end. -/
def ofPath? (path : String) : Option Route :=
  (at? path.toList).or (redirect? path.toList)

end Route

namespace Request

/-- The parameter of a name; the last one of several counts. -/
def parameter? (r : Request) (name : String) : Option String :=
  r.query.reverse.lookup name

/-- The body is announced as JSON. -/
def announcesJson (r : Request) : Bool :=
  match r.contentType with
  | none => false
  | some type =>
    let bare := (Text.cutAt ';' type.toList).1
    match Text.splitAt (Text.lowerAscii (Text.trim (String.ofList bare))) '/' with
    | ["application", kind] => kind == "json" || "+json".toList.isSuffixOf kind.toList
    | _ => false

/-- What a body holds. -/
inductive Payload where
  | nothing
  | value (v : Json)
  /-- A body that is not announced as JSON. -/
  | otherBytes
  /-- Malformed JSON, with the position of the fault. -/
  | malformed (position : Nat)
  | unreadable

/-- What the body of a request holds. -/
def payload (r : Request) : Payload :=
  if r.body.isEmpty then .nothing
  else if !r.announcesJson then .otherBytes
  else
    match (Text.Charset.ofJsonBytes r.body).read? r.body with
    | none => .unreadable
    | some s =>
      match Json.parse s with
      | .ok .null => .nothing
      | .ok v => .value v
      | .error (.malformed rest) => .malformed (s.length - rest)
      | .error _ => .unreadable

/-- A parameter that must be there and have a character. -/
def requiredText (r : Request) (name : String) : Checked String :=
  ((match r.parameter? name with
    | none => Checked.refuse .missing
    | some s => Check.nonEmpty (.string s)).at_ (.key name)).at_ (.key "query")

/-- A parameter that is a number and not negative, if it is there. -/
def optionalCount (r : Request) (name : String) : Checked (Option Int) :=
  ((match r.parameter? name with
    | none => Checked.ok none
    | some s => (Check.int (.string s)).bind fun n =>
      if n < 0 then Checked.refuse (.tooSmall 0) else .ok (some n)).at_ (.key name)).at_ (.key "query")

/-- What a request for a chapter says. -/
structure ChapterQuery where
  spiderId : String
  mangaId : String
  number : Option Int
  url : Option String
  deriving DecidableEq, Repr

/-- The chapter that a request asks for. -/
def chapterQuery (r : Request) : Checked ChapterQuery :=
  ChapterQuery.mk <$> r.requiredText "spiderId"
    <*> r.requiredText "manga"
    <*> r.optionalCount "chapter"
    <*> Checked.ok (r.parameter? "chapterUrl")

end Request

end MangaShelf.Web
