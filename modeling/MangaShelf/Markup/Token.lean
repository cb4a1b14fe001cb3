import MangaShelf.Markup.Node
import MangaShelf.Markup.Reference
import MangaShelf.Text.Search

/-!
# Tokens of a page

The pieces that the characters of a page fall into: runs of text, tags, comments and the content of
elements that hold plain characters. Each reader returns its piece and the characters after it.
-/

namespace MangaShelf.Markup

/-- The blanks of a page. -/
def isSpace (c : Char) : Bool :=
  c == ' ' || c == '\t' || c == '\n' || c == '\x0c' || c == '\r'

/-- A tag from its name on. -/
structure Tag where
  name : String
  attributes : List Attribute
  /-- It ends in a slash, and so its element is empty. -/
  selfClosing : Bool

/-- Line ends of every kind become line feeds. -/
def normalNewlines : List Char → List Char
  | [] => []
  | '\r' :: '\n' :: cs => '\n' :: normalNewlines cs
  | '\r' :: cs => '\n' :: normalNewlines cs
  | c :: cs => c :: normalNewlines cs

/-- A `<` opens a piece of markup when these characters follow it. -/
def opensMarkup : List Char → Bool
  | [] => false
  | '/' :: rest => !rest.isEmpty
  | c :: _ => c.isAlpha || c == '!' || c == '?'

/-- The text up to the next piece of markup; `done` has the last character first. -/
def splitText (done : List Char) : List Char → List Char × List Char
  | [] => (done.reverse, [])
  | c :: cs =>
    if c = '<' ∧ opensMarkup cs then (done.reverse, c :: cs) else splitText (c :: done) cs

/-- The characters before the next `>`, and those after it; all when there is none. -/
def untilBracket (cs : List Char) : List Char × List Char :=
  match Text.cutAt '>' cs with
  | (inside, some rest) => (inside, rest)
  | (inside, none) => (inside, [])

/-- The content of a comment after its two dashes; `done` has the last character first. -/
def commentTail (done : List Char) : List Char → List Char × List Char
  | [] => (done.reverse, [])
  | '-' :: '-' :: '>' :: rest => (done.reverse, rest)
  | '-' :: '-' :: '!' :: '>' :: rest => (done.reverse, rest)
  | c :: cs => commentTail (c :: done) cs

/-- A comment after its two dashes; it may end at once. -/
def readComment (cs : List Char) : List Char × List Char :=
  match cs with
  | '>' :: rest => ([], rest)
  | '-' :: '>' :: rest => ([], rest)
  | _ => commentTail [] cs

/-- The characters of a tag's name. -/
def inTagName (c : Char) : Bool :=
  !isSpace c && c != '/' && c != '>'

/-- The characters of an attribute's name after the first one. -/
def inAttributeName (c : Char) : Bool :=
  inTagName c && c != '='

/-- The value after an attribute's name, if there is one; `none` when the page ends inside it. -/
def readValue (cs : List Char) : Option (Option (List Char) × List Char) :=
  match cs.dropWhile isSpace with
  | '=' :: rest =>
    match rest.dropWhile isSpace with
    | '"' :: more =>
      match Text.cutAt '"' more with
      | (value, some after) => some (some value, after)
      | (_, none) => none
    | '\'' :: more =>
      match Text.cutAt '\'' more with
      | (value, some after) => some (some value, after)
      | (_, none) => none
    | more =>
      let inValue (c : Char) : Bool := !isSpace c && c != '>'
      some (some (more.takeWhile inValue), more.dropWhile inValue)
  | rest => some (none, rest)

/-- An attribute added to those before it, unless its name is taken. -/
def addAttribute (done : List Attribute) (a : Attribute) : List Attribute :=
  if done.any (·.name = a.name) then done else a :: done

/-- The attributes of a tag and its end; `none` when the page ends inside the tag. The fuel is the
number of characters. -/
def readAttributes : Nat → List Attribute → List Char →
    Option (List Attribute × Bool × List Char)
  | 0, _, _ => none
  | fuel + 1, done, cs =>
    match cs.dropWhile isSpace with
    | [] => none
    | '>' :: rest => some (done.reverse, false, rest)
    | '/' :: '>' :: rest => some (done.reverse, true, rest)
    | '/' :: rest => readAttributes fuel done rest
    | c :: rest =>
      let name := Text.lowerAscii (String.ofList (c :: rest.takeWhile inAttributeName))
      match readValue (rest.dropWhile inAttributeName) with
      | none => none
      | some (value, after) =>
        let value := value.map fun v => String.ofList (decodeText true v)
        readAttributes fuel (addAttribute done ⟨name, value⟩) after

/-- The name at the front of a tag, and what follows it. -/
def readTagName (cs : List Char) : String × List Char :=
  (Text.lowerAscii (String.ofList (cs.takeWhile inTagName)), cs.dropWhile inTagName)

/-- The rest of a tag after its name; `none` when the page ends inside it. -/
def readTagRest (name : String) (cs : List Char) : Option (Tag × List Char) :=
  (readAttributes (cs.length + 1) [] cs).map fun (attributes, selfClosing, rest) =>
    (⟨name, attributes, selfClosing⟩, rest)

/-- The characters begin with the end tag of the named element. -/
def atEndTag (name : List Char) (cs : List Char) : Bool :=
  match cs with
  | '<' :: '/' :: rest =>
    (rest.take name.length).map Char.toLower == name &&
      match rest.drop name.length with
      | [] => false
      | c :: _ => !inTagName c
  | _ => false

/-- The characters before the end tag of the named element. -/
def splitPlain (name : List Char) (done : List Char) : List Char → List Char × List Char
  | [] => (done.reverse, [])
  | c :: cs =>
    if atEndTag name (c :: cs) then (done.reverse, c :: cs) else splitPlain name (c :: done) cs

/-- How far a script is hidden: not at all, inside a comment, or inside a script tag in one. -/
inductive Hiding where
  | open
  | comment
  | nested
  deriving DecidableEq, Repr

/-- The characters begin with a script tag of their own. -/
def atScriptTag (cs : List Char) : Bool :=
  match cs with
  | '<' :: rest =>
    (rest.take 6).map Char.toLower == "script".toList &&
      match rest.drop 6 with
      | [] => false
      | c :: _ => !inTagName c
  | _ => false

/-- How the hiding changes before the given characters. -/
def Hiding.next (h : Hiding) (cs : List Char) : Hiding :=
  match h with
  | .open => if "<!--".toList.isPrefixOf cs then .comment else .open
  | .comment =>
    if "-->".toList.isPrefixOf cs then .open
    else if atScriptTag cs then .nested
    else .comment
  | .nested =>
    if "-->".toList.isPrefixOf cs then .open
    else if atEndTag "script".toList cs then .comment
    else .nested

/-- The characters of a script before its end tag. -/
def splitScript (h : Hiding) (done : List Char) : List Char → List Char × List Char
  | [] => (done.reverse, [])
  | c :: cs =>
    if h ≠ .nested ∧ atEndTag "script".toList (c :: cs) then (done.reverse, c :: cs)
    else splitScript (h.next (c :: cs)) (c :: done) cs

end MangaShelf.Markup
