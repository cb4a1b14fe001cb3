import MangaShelf.Extraction.Extract
import MangaShelf.Script.ArrayLiteral

/-!
# Pages of a chapter

The page images of a chapter: from a list in a script of the page, or else from the first selector
that finds any.
-/

namespace MangaShelf

open Config (FieldRule PageRule)
open Extraction (Subject)

/-- A page of a chapter. -/
structure Page where
  number : Nat
  url : String
  deriving DecidableEq, Repr

namespace Page

/-- A page as a value. -/
def toJson (p : Page) : Json :=
  .object [("page", .int p.number), ("url", .string p.url)]

/-- Pages numbered from one. -/
def numbered (urls : List String) : List Page :=
  urls.zipIdx.map fun (url, i) => ⟨i + 1, url⟩

/-- The rule for the images that a selector finds. -/
def imageRule (rule : Option PageRule) (selector : String) : FieldRule where
  selector := some selector
  attr := some ((Extraction.given (rule.bind (·.attr))).getD "src")
  text := false
  multiple := true
  parsesJson := (rule.map (·.parsesJson)).getD false
  jsonPath := rule.bind (·.jsonPath)
  arranger := rule.bind (·.arranger)

/-- The addresses among some values. -/
def webTexts (vs : List Json) : List String :=
  (vs.filterMap fun v => v.asString?.map Text.trim).filter Script.isWebLike

/-- The addresses that the first successful selector finds. -/
def firstFound (page : Subject) (rule : Option PageRule) :
    List String → Except Failure (List String)
  | [] => .ok []
  | selector :: rest => do
    match ← Extraction.extract page (imageRule rule selector) with
    | .array vs =>
      let urls := webTexts vs
      if urls.isEmpty then firstFound page rule rest else return urls
    | _ => firstFound page rule rest

/-- The selectors that are tried for a page. -/
def selectors (rule : Option PageRule) : List String :=
  match rule with
  | none => ["img"]
  | some r => r.candidates

/-- The page images of a chapter page. -/
def collect (read : Script.ArrayReader) (page : Subject) (rule : Option PageRule) :
    Except Failure (List Page) := do
  let fromScripts ←
    match rule.bind (·.arrayVar) with
    | some arrayRule => Script.allAddresses read page arrayRule
    | none => pure []
  if fromScripts.isEmpty then
    return numbered (← firstFound page rule (selectors rule))
  else return numbered fromScripts

end Page

end MangaShelf
