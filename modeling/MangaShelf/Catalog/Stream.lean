import MangaShelf.Catalog.Aggregate
import MangaShelf.Json.Writer
import MangaShelf.Media.DataUri
import MangaShelf.Spider.Search

/-!
# Streams of events

Searches and chapters are answered as streams: one event for each spider or page, and a last one
that says that all is done. A stream ends early, without that last event, when nobody listens.
-/

namespace MangaShelf.Catalog

open Config (Crawler Manifest)

/-- An event with a value. -/
def event (payload : Json) : String :=
  "data: " ++ payload.render ++ "\n\n"

/-- An event with a value that may be one that cannot be written. -/
def send (payload : Json) : Fetching String :=
  if payload.isWritable then return event payload
  else Fetching.fail (.ofUnwritable payload)

/-- The last event of a stream. -/
def doneEvent : String :=
  "event: done\ndata: done\n\n"

/-- The events of a stream, and the failure that has cut it off, if one has. -/
structure Stream where
  events : List String
  failure : Option Failure

/-- How often the listener is still there when it is asked; `none` for one that never leaves. -/
abbrev Patience := Option Nat

/-- The events of some parts, one part after the other. Before each part the listener is asked. -/
def streamOf {α : Type} (part : α → Fetching (List String)) :
    Patience → List α → Fetching Stream
  | _, [] => return ⟨[doneEvent], none⟩
  | some 0, _ :: _ => return ⟨[], none⟩
  | patience, a :: as => do
    match ← (part a).attempt with
    | .error failure => return ⟨[], some failure⟩
    | .ok events =>
      let rest ← streamOf part (patience.map (· - 1)) as
      return ⟨events ++ rest.events, rest.failure⟩

/-- The results of one spider as a value. -/
def batch (crawler : Crawler) (records : List Record) (warning : Option String) : Json :=
  .object ([("spiderId", .string crawler.id), ("displayName", .string crawler.name),
    ("results", .array (records.map Record.toJson))] ++
    match warning with
    | none => []
    | some w => [("warning", .string w)])

/-- What one spider finds. A spider that fails contributes a warning. -/
def searchOne (query : String) (fields : List RequestField) (crawler : Crawler) :
    Fetching Json := do
  match ← loadSpider crawler.link with
  | none => return batch crawler [] (some "Could not load spider config")
  | some spider =>
    match ← (spider.search query fields).attempt with
    | .error _ => return batch crawler [] (some "Spider failed")
    | .ok found => return batch crawler found.records (found.warning.map SearchWarning.message)

/-- A search of all spiders of a manifest. -/
def searchStream (m : Manifest) (query : String) (fields : List RequestField)
    (patience : Patience) : Fetching Stream :=
  streamOf (fun crawler => do return [← send (← searchOne query fields crawler)]) patience m.crawlers

/-- The event of a page: its image with what a reader shows around it. All of it can be written. -/
def pageEvent (r : Resolution) (p : Page) (bytes : List UInt8) : String :=
  event (.object [("page", .int p.number), ("image", .string (Media.dataUri p.url bytes)),
    ("maxChapter", match r.chapterCount with
      | none => .null
      | some n => .int n),
    ("mangaTitle", .string r.mangaTitle), ("chapterTitle", .string r.chapterTitle)])

/-- The events of one page; none for an image that is missing, empty or too large. -/
def readOne (context : Context) (r : Resolution) (p : Page) : Fetching (List String) := do
  match ← Fetching.bytes p.url with
  | none => return []
  | some bytes =>
    if bytes.isEmpty || context.maxImageBytes < bytes.length then return []
    else return [pageEvent r p bytes]

/-- The images of a chapter. -/
def chapterStream (context : Context) (r : Resolution) (patience : Patience) : Fetching Stream :=
  streamOf (readOne context r) patience r.pages

end MangaShelf.Catalog
