import MangaShelf.Catalog.Loading
import MangaShelf.Chapter.Resolution
import MangaShelf.Spider.Details

/-!
# Asking the spiders of a manifest

From the active connection to a manifest, from there to the document of a spider, and on to what the
spider is asked for. The first stage that fails refuses the request.
-/

namespace MangaShelf.Catalog

open Config (Manifest Spider)

/-- What the answers depend on, apart from what is fetched. -/
structure Context where
  /-- The active connection. -/
  connection : Option String
  readArray : Script.ArrayReader
  /-- The largest image that is handed on, in bytes. -/
  maxImageBytes : Int

/-- Refuse a request. -/
def refuse {α : Type} (refusal : Refusal) : Fetching α :=
  Fetching.fail (.refused refusal)

/-- The manifest of a connection, or of the active one. -/
def manifest (context : Context) (connection : Option String) : Fetching Manifest :=
  match (Extraction.given connection).or (Extraction.given context.connection) with
  | none => refuse .notRegistered
  | some url => do
    match ← loadManifest url with
    | none => refuse .manifestUnavailable
    | some m => return m

/-- The spider of an id. -/
def spider (context : Context) (id : String) : Fetching Spider := do
  let m ← manifest context none
  match m.find? id with
  | none => refuse (.spiderNotFound id)
  | some crawler =>
    match ← loadSpider crawler.link with
    | none => refuse (.spiderUnavailable id)
    | some s => return s

/-- The record of a manga, if there is one. -/
def manga (context : Context) (spiderId id : String) (fields : List RequestField) :
    Fetching (Option Record) := do
  (← spider context spiderId).details id fields

/-- The resolution of a chapter. -/
def chapter (context : Context) (spiderId id : String) (wanted : Chapter.Wanted) :
    Fetching Resolution := do
  Chapter.resolve context.readArray (← spider context spiderId) (some id) wanted

end MangaShelf.Catalog
