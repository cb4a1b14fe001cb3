import MangaShelf.Fetch.Source
import MangaShelf.Text.Base64

/-!
# Snapshots

Pages, documents and images that have been kept, each under its address. A snapshot answers in the
place of the sites themselves; what it does not hold counts as a request that failed.
-/

namespace MangaShelf

/-- What has been kept of some sites. -/
structure Snapshot where
  /-- The texts of pages. -/
  pages : List (String × Json)
  documents : List (String × Json)
  /-- The bytes of images, in Base64. -/
  images : List (String × Json)

namespace Snapshot

/-- The members of an object; none for any other value. -/
def entries : Option Json → List (String × Json)
  | some (.object members) => members
  | _ => []

/-- The snapshot that an object describes, with an object by address for each kind of entry. -/
def ofJson (v : Json) : Snapshot :=
  ⟨entries (v.get? "pages"), entries (v.get? "documents"), entries (v.get? "images")⟩

/-- The bytes that a value holds in Base64. -/
def bytesOf? (v : Json) : Option (List UInt8) :=
  v.asString?.bind fun s => Text.base64Decode s.toList

/-- The snapshot as a source. -/
def source (s : Snapshot) : Source where
  text url := .ok ((Json.member? url s.pages).bind Json.asString?)
  json url := .ok ((Json.member? url s.documents).filter fun v => !v.isNull)
  bytes url := .ok ((Json.member? url s.images).bind bytesOf?)

end Snapshot

end MangaShelf
