import MangaShelf.Text.Blank

/-!
# Requested fields

The fields that a request may ask for, and how their names are read.
-/

namespace MangaShelf

/-- A field that a request may ask for. -/
inductive RequestField where
  | id
  | name
  | description
  | genres
  | image
  | chapters
  | pageNumber
  | pageImage
  deriving DecidableEq, Repr

namespace RequestField

/-- All fields. -/
def all : List RequestField :=
  [.id, .name, .description, .genres, .image, .chapters, .pageNumber, .pageImage]

/-- The word for a field. -/
def word : RequestField → String
  | .id => "manga_id"
  | .name => "manga_name"
  | .description => "manga_description"
  | .genres => "genres"
  | .image => "manga_image"
  | .chapters => "manga_chapters"
  | .pageNumber => "page_num"
  | .pageImage => "page_image"

/-- The field that a word names. -/
def ofWord? (s : String) : Option RequestField :=
  all.find? fun f => f.word = s

/-- The fields of a page of a chapter. -/
def isOfPage : RequestField → Bool
  | .pageNumber => true
  | .pageImage => true
  | _ => false

/-- Each item once, where it comes first. -/
def distinct {α : Type} [DecidableEq α] : List α → List α → List α
  | _, [] => []
  | seen, x :: xs => if x ∈ seen then distinct seen xs else x :: distinct (x :: seen) xs

/-- The fields that some words name: blanks around a word do not count, unknown words are passed
over, and each field is taken once. -/
def parse (words : List String) : List RequestField :=
  distinct [] (words.filterMap fun w => ofWord? (Text.trim w))

end RequestField

end MangaShelf
