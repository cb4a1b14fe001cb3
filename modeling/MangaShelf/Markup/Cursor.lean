import MangaShelf.Markup.Node

/-!
# Places in a page

A node together with its place: the siblings on both sides and the enclosing elements. From a place
one can go to the children, to the siblings and to everything inside.
-/

namespace MangaShelf.Markup

/-- An enclosing element, seen from one of its children. -/
structure Enclosure where
  name : String
  attributes : List Attribute
  deriving Repr, Inhabited

/-- A node in its place. -/
structure Cursor where
  node : Node
  /-- The siblings before the node, the nearest first. -/
  before : List Node
  /-- The siblings after the node, the nearest first. -/
  after : List Node
  /-- The enclosing elements, the innermost first. -/
  up : List Enclosure
  /-- The positions among siblings from the root down to the node, the last one first. -/
  place : List Nat
  deriving Inhabited

namespace Cursor

/-- The root of a page. -/
def ofRoot (n : Node) : Cursor :=
  ⟨n, [], [], [], []⟩

/-- The places of some siblings; the nodes `before` stand before them, `index` of them. -/
def siblings (up : List Enclosure) (place : List Nat) :
    Nat → List Node → List Node → List Cursor
  | _, _, [] => []
  | index, before, n :: after =>
    ⟨n, before, after, up, index :: place⟩ :: siblings up place (index + 1) (n :: before) after

/-- The places of the children. -/
def children (c : Cursor) : List Cursor :=
  match c.node with
  | .element name attributes nodes =>
    siblings (⟨name, attributes⟩ :: c.up) c.place 0 [] nodes
  | _ => []

/-- The place is that of an element. -/
def isElement (c : Cursor) : Bool :=
  c.node.isElement

/-- The attributes of the element. -/
def attributes (c : Cursor) : List Attribute :=
  c.node.attributes

/-- The name of the element. -/
def name? (c : Cursor) : Option String :=
  c.node.name?

/-- The value of an attribute of the element. -/
def attribute? (c : Cursor) (name : String) : Option String :=
  attributeValue? c.attributes name

/-- The siblings after this place in their places, in document order. -/
def following (c : Cursor) : List Cursor :=
  match c.place with
  | [] => []
  | index :: outer => siblings c.up outer (index + 1) (c.node :: c.before) c.after

mutual

/-- A node in its place and all nodes inside it, in document order. -/
def within (before after : List Node) (up : List Enclosure) (place : List Nat) :
    Node → List Cursor
  | .element name attributes nodes =>
    ⟨.element name attributes nodes, before, after, up, place⟩ ::
      withinList (⟨name, attributes⟩ :: up) place 0 [] nodes
  | n => [⟨n, before, after, up, place⟩]

/-- Some siblings in their places with all nodes inside them; the nodes `before` stand before them,
`index` of them. -/
def withinList (up : List Enclosure) (place : List Nat) (index : Nat) (before : List Node) :
    List Node → List Cursor
  | [] => []
  | n :: after =>
    within before after up (index :: place) n ++
      withinList up place (index + 1) (n :: before) after

end

/-- The place itself and all places inside it, in document order. -/
def selfAndDescendants (c : Cursor) : List Cursor :=
  within c.before c.after c.up c.place c.node

/-- The position in the page, from the root down. -/
def position (c : Cursor) : List Nat :=
  c.place.reverse

end Cursor

end MangaShelf.Markup
