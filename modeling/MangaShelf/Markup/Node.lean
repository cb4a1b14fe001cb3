/-!
# Page trees

A page as a tree of elements, texts and comments, and the plain text that a node holds.
-/

namespace MangaShelf.Markup

/-- An attribute; one written without a value has none. -/
structure Attribute where
  name : String
  value : Option String
  deriving DecidableEq, Repr, Inhabited

/-- A node of a page. -/
inductive Node where
  | element (name : String) (attributes : List Attribute) (children : List Node)
  | text (s : String)
  /-- Text of an element that holds plain characters, such as a script: nothing in it was read as a
  tag or a reference. -/
  | verbatim (s : String)
  | comment (s : String)
  deriving Inhabited, Repr

namespace Node

/-- The name of an element. -/
def name? : Node → Option String
  | .element name _ _ => some name
  | _ => none

/-- The attributes of an element; none for any other node. -/
def attributes : Node → List Attribute
  | .element _ attributes _ => attributes
  | _ => []

/-- The children of an element; none for any other node. -/
def children : Node → List Node
  | .element _ _ children => children
  | _ => []

/-- The node is an element. -/
def isElement : Node → Bool
  | .element .. => true
  | _ => false

/-- The text that a text node holds. -/
def ownText? : Node → Option String
  | .text s => some s
  | .verbatim s => some s
  | _ => none

mutual

/-- The characters of all texts inside a node, in document order. -/
def textChars : Node → List Char
  | .element _ _ children => textCharsList children
  | .text s => s.toList
  | .verbatim s => s.toList
  | .comment _ => []

/-- The characters of all texts inside some nodes. -/
def textCharsList : List Node → List Char
  | [] => []
  | n :: ns => textChars n ++ textCharsList ns

end

/-- The text inside a node. -/
def textContent (n : Node) : String :=
  String.ofList n.textChars

end Node

/-- The attributes whose mere presence says everything. -/
def isFlag (name : String) : Bool :=
  ["checked", "compact", "declare", "defer", "disabled", "ismap", "multiple", "nohref", "noresize",
    "noshade", "nowrap", "readonly", "selected"].contains name

/-- The value that an attribute has; a flag without a value has its own name. -/
def Attribute.effectiveValue (a : Attribute) : String :=
  match a.value with
  | some v => v
  | none => if isFlag a.name then a.name else ""

/-- The value of the attribute with a given name. -/
def attributeValue? (attributes : List Attribute) (name : String) : Option String :=
  (attributes.find? (·.name = name)).map Attribute.effectiveValue

end MangaShelf.Markup
