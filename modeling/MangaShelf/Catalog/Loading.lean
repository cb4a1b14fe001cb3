import MangaShelf.Config.Manifest
import MangaShelf.Config.Rules
import MangaShelf.Fetch.Source

/-!
# Loading documents

Manifests and spider documents as they are fetched and checked.
-/

namespace MangaShelf.Catalog

open Config (Manifest Spider)

/-- The manifest at an address, if it can be fetched and is valid. -/
def loadManifest (url : String) : Fetching (Option Manifest) := do
  return (← Fetching.json url).bind fun payload => (Manifest.check payload).toOption

/-- A spider document may stand inside another object. -/
def unwrap (payload : Json) : Json :=
  (payload.get? "spider").getD payload

/-- The spider at an address, if its document can be fetched and is valid. -/
def loadSpider (url : String) : Fetching (Option Spider) := do
  return (← Fetching.json url).bind fun payload => (Spider.check (unwrap payload)).toOption

end MangaShelf.Catalog
