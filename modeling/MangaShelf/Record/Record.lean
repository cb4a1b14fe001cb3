import MangaShelf.Failure
import MangaShelf.Json.Value

/-!
# Records

What is known about one manga: a value for each field that was found, in the order in which the
fields were set.
-/

namespace MangaShelf

/-- A field of a record. -/
inductive RecordKey where
  | id
  | name
  | description
  | genres
  | image
  | chapters
  /-- How many chapters there are. -/
  | chapterCount
  deriving DecidableEq, Repr

namespace RecordKey

/-- All fields. -/
def all : List RecordKey :=
  [.id, .name, .description, .genres, .image, .chapters, .chapterCount]

/-- The word for a field. -/
def word : RecordKey → String
  | .id => "manga_id"
  | .name => "manga_name"
  | .description => "manga_description"
  | .genres => "genres"
  | .image => "manga_image"
  | .chapters => "manga_chapters"
  | .chapterCount => "max_chapters"

/-- The field that a word names. -/
def ofWord? (s : String) : Option RecordKey :=
  all.find? fun k => k.word = s

end RecordKey

/-- A record of a manga. -/
structure Record where
  entries : List (RecordKey × Json)

namespace Record

/-- The record that says nothing. -/
def empty : Record :=
  ⟨[]⟩

/-- The value of a field. -/
def get? (r : Record) (key : RecordKey) : Option Json :=
  r.entries.lookup key

/-- Entries with one of them set: in place when it is there, at the end when it is new. -/
def setEntry (key : RecordKey) (value : Json) : List (RecordKey × Json) → List (RecordKey × Json)
  | [] => [(key, value)]
  | (k, v) :: rest =>
    if k = key then (key, value) :: rest else (k, v) :: setEntry key value rest

/-- Set a field. -/
def set (r : Record) (key : RecordKey) (value : Json) : Record :=
  ⟨setEntry key value r.entries⟩

/-- A record as a value. -/
def toJson (r : Record) : Json :=
  .object (r.entries.map fun (k, v) => (k.word, v))

end Record

end MangaShelf
