import MangaShelf.Config.Address
import MangaShelf.Config.Check

/-!
# Manifests

The list of spiders that a connection offers, each with the address of its document.
-/

namespace MangaShelf.Config

/-- One spider of a manifest. -/
structure Crawler where
  id : String
  name : String
  link : String
  deriving DecidableEq, Repr

namespace Crawler

/-- An entry from a document. -/
def check : Check Crawler :=
  .model "CrawlerEntry" fun ms =>
    Crawler.mk <$> (FieldKey.same "id").require .string ms
      <*> (FieldKey.same "name").require .string ms
      <*> (FieldKey.same "link").require .address ms

/-- A written entry. -/
def toJson (c : Crawler) : Json :=
  .object [("id", .string c.id), ("name", .string c.name), ("link", .string c.link)]

end Crawler

/-- The spiders of a connection, in order. -/
structure Manifest where
  crawlers : List Crawler
  deriving DecidableEq, Repr

namespace Manifest

/-- A manifest from a document. -/
def check : Check Manifest :=
  .model "Manifest" fun ms =>
    Manifest.mk <$> (FieldKey.same "crawlers").read [] (.list Crawler.check) ms

/-- A written manifest. -/
def toJson (m : Manifest) : Json :=
  .object [("crawlers", .array (m.crawlers.map Crawler.toJson))]

/-- The first entry with an id. -/
def find? (m : Manifest) (id : String) : Option Crawler :=
  m.crawlers.find? (·.id = id)

end Manifest

end MangaShelf.Config
