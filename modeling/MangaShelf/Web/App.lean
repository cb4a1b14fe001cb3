import MangaShelf.Store.Registry
import MangaShelf.Web.Reply
import MangaShelf.Web.Request

/-!
# The application

How each request is answered. Each has a session of its own on what is stored. Only a registration
changes something there, and it commits the change before the manifest is asked for.
-/

namespace MangaShelf.Web

open Config

/-- How the application is set up. -/
structure Setup where
  /-- The manifest to use while nothing is registered. -/
  manifestUrl : Option String
  maxImageBytes : Int
  readArray : Script.ArrayReader

/-- What answers depend on while some connections are registered. -/
def Setup.context (setup : Setup) (registry : Registry) : Catalog.Context :=
  ⟨registry.active setup.manifestUrl, setup.readArray, setup.maxImageBytes⟩

/-- A spider in the answer to a registration. -/
def manifestEntry (c : Crawler) : Json :=
  .object [("id", .string c.id), ("name", .string c.name), ("link", .string c.link)]

/-- A spider in the list of spiders. -/
def spiderEntry (c : Crawler) : Json :=
  .object [("spider_name", .string c.name), ("spider_link", .string c.link)]

/-- Answer with the manifest of a connection that has just been registered. -/
def answerRegistered (context : Catalog.Context) (url : String) : Fetching Reply := do
  let m ← Catalog.manifest context (some url)
  return .ok (.object [("success", .bool true), ("manifest", .array (m.crawlers.map manifestEntry))])

/-- Answer with the active connection. -/
def answerUser (context : Catalog.Context) : Reply :=
  match Extraction.given context.connection with
  | none => .detail 404 "No connection URL found"
  | some url => .ok (.object [("success", .bool true), ("connectionUrl", .string url)])

/-- Answer with the spiders of the active manifest. -/
def answerSpiders (context : Catalog.Context) : Fetching Reply := do
  let m ← Catalog.manifest context none
  return .ok (.object [("spiders", .array (m.crawlers.map spiderEntry))])

/-- The fields in a list with commas. -/
def fieldsOf (s : String) : List RequestField :=
  RequestField.parse (Text.splitAt s ',')

/-- Answer a search. -/
def answerSearch (context : Catalog.Context) (r : Request) : Fetching Reply := do
  let m ← Catalog.manifest context none
  let fields := fieldsOf ((r.parameter? "fields").getD "")
  return .ofStream (← Catalog.searchStream m ((r.parameter? "query").getD "") fields none)

/-- Answer with the record of a manga. -/
def answerManga (context : Catalog.Context) (q : MangaQuery) : Fetching Reply := do
  let spiderId := ("spiderId", Json.string q.spiderId)
  match ← Catalog.manga context q.spiderId q.mangaId (q.fields.getD []) with
  | none => return .ok (.object [spiderId, ("error", .string "No results found")])
  | some record =>
    return .ok (.object [spiderId, ("results", .array [finite record.toJson])])

/-- The resolution of a chapter that is asked for, or the reply that says that none is. -/
def resolveQuery (context : Catalog.Context) (r : Request)
    (answer : Resolution → Fetching Reply) : Fetching Reply :=
  match r.chapterQuery with
  | .invalid issues => return .invalid issues
  | .ok q =>
    if q.number.isNone && (Extraction.given q.url).isNone then
      return .detail 422 "Either chapter or chapterUrl is required"
    else do
      answer (← Catalog.chapter context q.spiderId q.mangaId ⟨q.number, q.url⟩)

/-- A resolution as the answer that lists its pages, if it passes as one. -/
def pagesReply (r : Resolution) : Reply :=
  match PageList.check r.toJson with
  | .ok pages => .ok pages.toJson
  | .invalid _ => .crash

/-- Answer with the pages of a chapter. -/
def answerPages (context : Catalog.Context) (r : Request) : Fetching Reply :=
  resolveQuery context r fun resolution => return pagesReply resolution

/-- Answer with the images of a chapter. -/
def answerChapter (context : Catalog.Context) (r : Request) : Fetching Reply :=
  resolveQuery context r fun resolution => do
    return .ofStream (← Catalog.chapterStream context resolution none)

/-- A body that is checked, or the reply that says what is wrong with it. -/
def checkBody {α : Type} (read : List (String × Json) → Checked α) (r : Request) :
    Except Reply α :=
  let result : Except Reply (Checked α) :=
    match r.payload with
    | .nothing => .ok (.refuse .missing)
    | .value v => .ok (Check.fields .notFields read v)
    | .otherBytes => .ok (.refuse .notFields)
    | .malformed position => .ok ((Checked.refuse .malformedJson).at_ (.index position))
    | .unreadable => .error (.detail 400 "There was an error parsing the body")
  match result with
  | .error reply => .error reply
  | .ok checked =>
    match checked.at_ (.key "body") with
    | .ok a => .ok a
    | .invalid issues => .error (.invalid issues)

/-- Answer a request on a route. The connections are those that the session sees when the request
comes in, also for a registration. -/
def answer (setup : Setup) (source : Source) (session : Session) (r : Request) :
    Route → Session × Reply
  | .register =>
    match checkBody Registration.ofMembers r with
    | .error reply => (session, reply)
    | .ok registration =>
      match session.register registration.url with
      | (session', .error _) => (session', .crash)
      | (session', .ok _) =>
        (session', .ofRun (answerRegistered (setup.context session.seen) registration.url source))
  | .user => (session, answerUser (setup.context session.seen))
  | .spiders => (session, .ofRun (answerSpiders (setup.context session.seen) source))
  | .search => (session, .ofRun (answerSearch (setup.context session.seen) r source))
  | .manga =>
    match checkBody MangaQuery.ofMembers r with
    | .error reply => (session, reply)
    | .ok q => (session, .ofRun (answerManga (setup.context session.seen) q source))
  | .chapterPages => (session, .ofRun (answerPages (setup.context session.seen) r source))
  | .chapter => (session, .ofRun (answerChapter (setup.context session.seen) r source))
  | .health =>
    (session, .ok (.object [("status", .string "healthy"),
      ("service", .string "manga-aggregator")]))

/-- What is stored when a session ends with a reply. Only a success is committed. -/
def closed (session : Session) (reply : Reply) : Registry :=
  if reply.isSuccess then session.commit.stored else session.rollback.stored

/-- Answer a request at a route; the connections that are registered afterwards come with the
reply. -/
def answerAt (setup : Setup) (source : Source) (registry : Registry) (r : Request) (route : Route) :
    Registry × Reply :=
  if r.method = route.method then
    let (session, reply) := answer setup source (.start registry) r route
    (closed session reply, reply)
  else (registry, .detail 405 "Method Not Allowed")

/-- What the application says to a request. -/
inductive Response where
  /-- A reply, with the connections that are registered afterwards. -/
  | reply (result : Registry × Reply)
  /-- The request is to be sent again, to a route. -/
  | redirect (route : Route)

/-- Take a request. -/
def serve (setup : Setup) (source : Source) (registry : Registry) (r : Request) : Response :=
  match Route.at? r.path.toList with
  | some route => .reply (answerAt setup source registry r route)
  | none =>
    match Route.redirect? r.path.toList with
    | some route => .redirect route
    | none => .reply (registry, .detail 404 "Not Found")

/-- Answer a request of a client that follows a redirection with the same request. -/
def handle (setup : Setup) (source : Source) (registry : Registry) (r : Request) :
    Registry × Reply :=
  match serve setup source registry r with
  | .reply result => result
  | .redirect route => answerAt setup source registry r route

/-- Answer some requests one after the other. -/
def handleAll (setup : Setup) (source : Source) : Registry → List Request → List Reply
  | _, [] => []
  | registry, r :: rest =>
    let (registry, reply) := handle setup source registry r
    reply :: handleAll setup source registry rest

end MangaShelf.Web
