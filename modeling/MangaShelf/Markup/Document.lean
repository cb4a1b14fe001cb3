import MangaShelf.Markup.Token
import MangaShelf.Markup.Vocabulary
import MangaShelf.Text.Blank

/-!
# Documents

A page read into a tree. Any text is a page: tags that are missing are supplied, tags that are out
of place are passed over, and what is still open at the end is closed.
-/

namespace MangaShelf.Markup

/-- An element that is still open; its children so far have the last one first. -/
structure OpenElement where
  name : String
  attributes : List Attribute
  children : List Node

/-- The page as far as it is read. -/
structure Builder where
  /-- The open elements, the innermost one first. -/
  stack : List OpenElement
  /-- The first element at the top that is complete. -/
  root : Option Node
  /-- End tags that belong to start tags which were passed over. -/
  pendingEnds : Nat
  headSeen : Bool
  bodySeen : Bool

namespace Builder

/-- Nothing is read. -/
def start : Builder :=
  ⟨[], none, 0, false, false⟩

/-- The name of the innermost open element. -/
def current (b : Builder) : Option String :=
  b.stack.head?.map (·.name)

/-- An element of the name is open. -/
def isOpen (b : Builder) (name : String) : Bool :=
  b.stack.any (·.name = name)

/-- Add a node to the innermost open element. -/
def addNode (b : Builder) (n : Node) : Builder :=
  match b.stack with
  | [] => b
  | e :: es => { b with stack := { e with children := n :: e.children } :: es }

/-- Add text to the innermost open element, to the text that stands last in it if there is one. -/
def addText (b : Builder) (s : List Char) : Builder :=
  match b.stack with
  | [] => b
  | e :: es =>
    let children :=
      match e.children with
      | .text t :: ns => .text (t ++ String.ofList s) :: ns
      | ns => .text (String.ofList s) :: ns
    { b with stack := { e with children } :: es }

/-- Open an element. -/
def push (b : Builder) (name : String) (attributes : List Attribute) : Builder :=
  { b with
    stack := ⟨name, attributes, []⟩ :: b.stack
    headSeen := b.headSeen || name == "head"
    bodySeen := b.bodySeen || name == "body" }

/-- Close the innermost open element. -/
def pop (b : Builder) : Builder :=
  match b.stack with
  | [] => b
  | e :: es =>
    let n : Node := .element e.name e.attributes e.children.reverse
    match es with
    | [] => { b with stack := [], root := b.root <|> some n }
    | outer :: more =>
      { b with stack := { outer with children := n :: outer.children } :: more }

/-- Close the innermost elements, `count` of them. -/
def popMany (b : Builder) : Nat → Builder
  | 0 => b
  | count + 1 => popMany b.pop count

/-- Close the open elements that cannot hold an element of the given name. -/
def closeFor (b : Builder) (name : String) : Builder :=
  b.popMany (b.stack.takeWhile fun e => (closedBy e.name).contains name).length

/-- Open the elements that an element of the given name stands in without being told. -/
def imply (b : Builder) (name : String) : Builder :=
  if name = "html" then b
  else
    let b := if b.stack.isEmpty then b.push "html" [] else b
    if name = "body" ∨ name = "head" then b
    else if b.stack.length ≤ 1 ∧ belongsToHead name then
      if b.headSeen || b.bodySeen then b else b.push "head" []
    else if belongsToFrames name then b
    else if b.bodySeen || b.isOpen "body" || b.isOpen "head" then b
    else b.push "body" []

/-- A run of characters between pieces of markup. -/
def characters (b : Builder) (s : List Char) : Builder :=
  let outside :=
    match b.current with
    | none => true
    | some name => name = "html" || name = "head"
  if s.isEmpty then b
  else if outside then
    let blank := s.takeWhile isSpace
    let rest := s.dropWhile isSpace
    let b := if blank.isEmpty then b else b.addText blank
    if rest.isEmpty then b
    else
      let b := if b.current = some "head" then b.closeFor "p" else b
      (b.imply "p").addText rest
  else b.addText s

/-- The start tag repeats an element of which a page has only one. -/
def isRepeated (b : Builder) (name : String) : Bool :=
  (name == "html" && !b.stack.isEmpty) || (name == "head" && b.stack.length != 1) ||
    (name == "body" && b.isOpen "body")

/-- What surrounds an element of the given name is closed and opened. -/
def prepare (b : Builder) (name : String) : Builder :=
  (b.closeFor name).imply name

/-- A complete start tag; `b` is prepared for it. -/
def startTag (b : Builder) (tag : Tag) : Builder :=
  if b.isRepeated tag.name then { b with pendingEnds := b.pendingEnds + 1 }
  else
    let b := b.push tag.name tag.attributes
    if tag.selfClosing || isVoid tag.name then b.pop else b

/-- How many open elements the end tag closes, if any: all up to the one that it names, unless an
element of a higher rank stands before that. -/
def closing (name : String) : Nat → List OpenElement → Nat
  | _, [] => 0
  | count, e :: es =>
    if e.name = name then count + 1
    else if rank name < rank e.name then 0
    else closing name (count + 1) es

/-- An end tag. -/
def endTag (b : Builder) (name : String) : Builder :=
  if 0 < b.pendingEnds ∧ (name = "html" ∨ name = "body" ∨ name = "head") then
    { b with pendingEnds := b.pendingEnds - 1 }
  else b.popMany (closing name 0 b.stack)

/-- Characters that hold no markup, added in one piece. -/
def addContent (b : Builder) (mode : ContentMode) (s : List Char) : Builder :=
  if s.isEmpty then b
  else
    match mode with
    | .escapable => b.characters (decodeText false s)
    | _ => b.addNode (.verbatim (String.ofList s))

/-- The content of the element just opened, if it holds plain characters. -/
def content (b : Builder) (mode : ContentMode) (name : String) (cs : List Char) :
    Builder × List Char :=
  match mode with
  | .markup => (b, cs)
  | .rest => (b.addContent mode cs, [])
  | .script =>
    let (s, rest) := splitScript .open [] cs
    (b.addContent mode s, rest)
  | _ =>
    let (s, rest) := splitPlain name.toList [] cs
    (b.addContent mode s, rest)

/-- A start tag from its name on. -/
def readStart (b : Builder) (cs : List Char) : Builder × List Char :=
  let (name, rest) := readTagName cs
  let b := b.prepare name
  match readTagRest name rest with
  | none => (b, [])
  | some (tag, after) =>
    let opened := !b.isRepeated name && !tag.selfClosing && !isVoid name
    let b := b.startTag tag
    if opened then b.content (contentMode name) name after else (b, after)

/-- An end tag from its name on. -/
def readEnd (b : Builder) (cs : List Char) : Builder × List Char :=
  let (name, rest) := readTagName cs
  match readTagRest name rest with
  | none => (b, [])
  | some (_, after) => (b.endTag name, after)

/-- A declaration after `<!`: a comment, a document type, or anything else as a comment. -/
def readDeclaration (b : Builder) (cs : List Char) : Builder × List Char :=
  match cs with
  | '-' :: '-' :: rest =>
    let (s, after) := readComment rest
    (b.addNode (.comment (String.ofList s)), after)
  | _ =>
    let (s, after) := untilBracket cs
    if (cs.take 7).map Char.toLower == "doctype".toList then (b, after)
    else (b.addNode (.comment (String.ofList s)), after)

/-- One piece of the page. -/
def step (b : Builder) (cs : List Char) : Builder × List Char :=
  match cs with
  | '<' :: '!' :: rest => b.readDeclaration rest
  | '<' :: '/' :: '>' :: rest => (b, rest)
  | '<' :: '/' :: c :: rest =>
    if c.isAlpha then b.readEnd (c :: rest)
    else
      let (s, after) := untilBracket (c :: rest)
      (b.addNode (.comment (String.ofList s)), after)
  | '<' :: c :: rest =>
    if c = '?' then
      let (s, after) := untilBracket (c :: rest)
      (b.addNode (.comment (String.ofList s)), after)
    else if c.isAlpha then b.readStart (c :: rest)
    else
      let (s, after) := splitText ['<'] (c :: rest)
      (b.characters (decodeText false s), after)
  | c :: rest =>
    let (s, after) := splitText [c] rest
    (b.characters (decodeText false s), after)
  | [] => (b, [])

/-- All pieces of the page; the fuel is the number of characters. -/
def run : Nat → Builder → List Char → Builder
  | 0, b, _ => b
  | _ + 1, b, [] => b
  | fuel + 1, b, c :: cs =>
    let (b, rest) := b.step (c :: cs)
    run fuel b rest

/-- The page with all elements closed. -/
def finish (b : Builder) : Node :=
  ((b.popMany b.stack.length).root).getD (.element "html" [] [])

end Builder

/-- The page that a text stands for; its root is an element. -/
def document (s : String) : Node :=
  let cs := normalNewlines ((Text.trimBoth Text.isBlank s.toList).filter (· != '\x00'))
  let cs := if cs.head? = some '\uFEFF' then cs.drop 1 else cs
  (Builder.run (cs.length + 1) .start cs).finish

end MangaShelf.Markup
