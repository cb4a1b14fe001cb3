import MangaShelf.Failure
import MangaShelf.Json.Value
import MangaShelf.Markup.Writer
import MangaShelf.Selector.Match

/-!
# Subjects

What a rule is applied to: a place in a page, a text or attribute value found there, or a bare
value that cannot be searched.
-/

namespace MangaShelf.Extraction

/-- What a rule is applied to. -/
inductive Subject where
  | element (c : Markup.Cursor)
  | text (s : String)
  | value (v : Json)

namespace Subject

/-- A found thing. -/
def ofFound : Selector.Found → Subject
  | .element c => .element c
  | .text s => .text s

/-- The root of a page. -/
def ofPage (page : Markup.Node) : Subject :=
  .element (.ofRoot page)

/-- The subject is an element. -/
def isElement : Subject → Bool
  | .element _ => true
  | _ => false

/-- The text inside a subject; bare values other than texts have none. -/
def text? : Subject → Option String
  | .element c => some c.node.textContent
  | .text s => some s
  | .value v => v.asString?

/-- The markup inside an element. -/
def markup? : Subject → Option String
  | .element c => c.node.innerMarkup?
  | _ => none

/-- The value of an attribute of an element. -/
def attribute? : Subject → String → Option String
  | .element c, name => c.attribute? name
  | _, _ => none

/-- The subjects that a selector finds from this one: itself without a selector, nothing for a
selector that cannot be used. -/
def candidates (s : Subject) (selector : Option String) : Except Failure (List Subject) :=
  match selector with
  | none => .ok [s]
  | some "" => .ok [s]
  | some query =>
    let found : Except Selector.Fault (List Subject) :=
      match s with
      | .element c => (Selector.select query c).map (·.map ofFound)
      | .text _ => (Selector.queries query).map fun _ => []
      | .value _ => .ok []
    match found with
    | .ok subjects => .ok subjects
    | .error .rejected => .ok []
    | .error fault => .error (.selector fault)

end Subject

end MangaShelf.Extraction
