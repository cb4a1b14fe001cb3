import MangaShelf.Json.Display
import MangaShelf.Json.Limits
import MangaShelf.Record.Record
import MangaShelf.Record.RequestField
import MangaShelf.Text.Blank

/-!
# Cleaning up records

Every record is cleaned before it is handed on: links to images are resolved against their page, and
genres become distinct labels.
-/

namespace MangaShelf.Record

/-- Resolve the link to the image against the page it was found on. -/
def resolveImage (base : String) (r : Record) : Except Failure Record :=
  match r.get? .image with
  | some (.string url) =>
    match Url.absolute url base with
    | .ok resolved => .ok (r.set .image (.string resolved))
    | .error fault => .error (.reference fault)
  | _ => .ok r

/-- The labels in a value: the items of a list, the characters of a text, the keys of an object. -/
def labels : Json → Except Failure (List String)
  | .array vs => if Json.anyOverlong vs then .error .tooManyDigits else .ok (vs.map Json.display)
  | .string s => .ok (s.toList.map Char.toString)
  | .object ms => .ok (ms.map (·.1))
  | v => .error (.notIterable v.kind)

/-- Labels without blanks around them; empty ones are dropped, and each is taken once. -/
def tidy (names : List String) : List String :=
  RequestField.distinct [] ((names.map Text.trim).filter (· ≠ ""))

/-- Tidy the genres. -/
def tidyGenres (r : Record) : Except Failure Record :=
  match r.get? .genres with
  | none => .ok r
  | some v => do return r.set .genres (.array ((tidy (← labels v)).map .string))

/-- Clean up a record from the page at the address `base`. -/
def clean (base : String) (r : Record) : Except Failure Record := do
  tidyGenres (← resolveImage base r)

end MangaShelf.Record
