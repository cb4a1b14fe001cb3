import MangaShelf.Extraction.Extract

/-!
# Chapter lists

The chapters that a profile page links to, in order and numbered from one.
-/

namespace MangaShelf

open Config (Arranger FieldRule)
open Extraction (Subject)

/-- A chapter of a manga. -/
structure Chapter where
  number : Nat
  title : String
  url : String
  deriving DecidableEq, Repr

namespace Chapter

/-- A chapter as a value. -/
def toJson (c : Chapter) : Json :=
  .object [("number", .int c.number), ("title", .string c.title), ("url", .string c.url)]

/-- The rule that takes the link of one candidate: its embedded JSON or an attribute. -/
def linkRule (rule : FieldRule) : FieldRule :=
  { rule with
    selector := none
    text := false
    multiple := false
    attr := some ((Extraction.given rule.attr).getD "href") }

/-- The links of a value taken from a candidate, with their titles; those of a list have none. -/
def linksOf (s : Subject) : Json → List (String × String)
  | .array vs => vs.filterMap fun v =>
    match v with
    | .string url => if url = "" then none else some ("", url)
    | _ => none
  | .string url => if url = "" then [] else [(Text.trim (s.text?.getD ""), url)]
  | _ => []

/-- The links that a rule finds, with their titles. -/
def links (page : Subject) (rule : FieldRule) : Except Failure (List (String × String)) := do
  let subjects ← page.candidates rule.selector
  return (← subjects.mapM fun s => do
    return linksOf s (← Extraction.read s (linkRule rule))).flatten

/-- An address on a page, or the failure to resolve it. -/
def absolute (url base : String) : Except Failure String :=
  match Url.absolute url base with
  | .ok s => .ok s
  | .error fault => .error (.reference fault)

/-- Chapters from links, numbered from `first`. -/
def numbered (base : String) : Nat → List (String × String) → Except Failure (List Chapter)
  | _, [] => .ok []
  | first, (title, url) :: rest => do
    let url ← absolute (Text.trim url) base
    return ⟨first, title, url⟩ :: (← numbered base (first + 1) rest)

/-- The chapters that a rule finds on the page at the address `base`. Without a selector there are
none. -/
def collect (page : Subject) (rule : Option FieldRule) (base : String) :
    Except Failure (List Chapter) :=
  match rule with
  | none => .ok []
  | some rule =>
    if rule.selector.getD "" = "" then .ok []
    else do numbered base 1 (Arranger.arrange rule.arranger (← links page rule))

end Chapter

end MangaShelf
