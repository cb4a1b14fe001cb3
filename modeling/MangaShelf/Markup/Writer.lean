import MangaShelf.Markup.Node
import MangaShelf.Markup.Vocabulary
import MangaShelf.Text.Percent
import MangaShelf.Text.Search

/-!
# Written pages

Nodes as markup. Texts and attribute values are escaped, addresses in attributes are
percent-encoded, flags are written without a value, and control characters are left out.
-/

namespace MangaShelf.Markup

/-- A character as it stands in written text; control characters other than blanks vanish. -/
def escapeTextChar (c : Char) : List Char :=
  if c = '&' then "&amp;".toList
  else if c = '<' then "&lt;".toList
  else if c = '>' then "&gt;".toList
  else if c.toNat < 32 ∧ c ≠ '\t' ∧ c ≠ '\n' ∧ c ≠ '\r' then []
  else [c]

/-- A written text. -/
def escapeText (cs : List Char) : List Char :=
  cs.flatMap escapeTextChar

/-- The characters up to and including the first `mark`, and those after it. -/
def throughMark (mark : List Char) (done : List Char) :
    List Char → Option (List Char × List Char)
  | [] => none
  | c :: cs =>
    if mark.isPrefixOf (c :: cs) then
      some (done.reverse ++ mark, (c :: cs).drop mark.length)
    else throughMark mark (c :: done) cs

/-- An attribute value as it is written: inserted comments and script expressions in braces stay
as they are. The number counts the characters of such a part that are still to be copied. -/
def escapeValue : Nat → List Char → List Char
  | _, [] => []
  | keep + 1, c :: cs => c :: escapeValue keep cs
  | 0, c :: cs =>
    if c = '<' ∧ ['!', '-', '-'].isPrefixOf cs then
      match throughMark ['-', '-', '>'] [] (c :: cs) with
      | some (part, _) => c :: escapeValue (part.length - 1) cs
      | none => escapeTextChar c ++ escapeValue 0 cs
    else if c = '&' ∧ cs.head? = some '{' then
      match throughMark ['}'] [] cs with
      | some (part, _) => c :: escapeValue part.length cs
      | none => escapeTextChar c ++ escapeValue 0 cs
    else escapeTextChar c ++ escapeValue 0 cs

/-- A character that an address in an attribute keeps. -/
def keptInAddress (c : Char) : Bool :=
  Text.isUnreservedMark c || "\"#$%&+,/:;<=>?@[\\]^\x60\x7b|\x7d".toList.contains c

/-- The attribute holds an address. -/
def holdsAddress (element name : String) : Bool :=
  name = "href" || name = "action" || name = "src" || (name = "name" && element = "a")

/-- A value in quotes: single ones when that avoids escaping a double one. -/
def quoteValue (cs : List Char) : List Char :=
  if cs.contains '"' then
    if cs.contains '\'' then
      '"' :: cs.flatMap (fun c => if c = '"' then "&quot;".toList else [c]) ++ ['"']
    else '\'' :: cs ++ ['\'']
  else '"' :: cs ++ ['"']

/-- The blanks that are cut off before an address. -/
def isAddressBlank (c : Char) : Bool :=
  c == ' ' || c == '\t' || c == '\n' || c == '\r'

/-- An attribute in a start tag. -/
def writeAttribute (element : String) (a : Attribute) : List Char :=
  ' ' :: a.name.toList ++
    match a.value with
    | none => []
    | some value =>
      if isFlag a.name then []
      else
        let escaped := escapeValue 0 value.toList
        '=' :: quoteValue
          (if holdsAddress element a.name then
            Text.percentEncode keptInAddress (escaped.dropWhile isAddressBlank)
          else escaped)

/-- The start tag of an element. -/
def startTag (name : String) (attributes : List Attribute) : List Char :=
  '<' :: name.toList ++ attributes.flatMap (writeAttribute name) ++ ['>']

/-- The end tag of an element. -/
def endTag (name : String) : List Char :=
  '<' :: '/' :: name.toList ++ ['>']

/-- The element is written with an end tag; an empty list item has none. -/
def hasEndTag (name : String) (children : List Node) : Bool :=
  !isVoid name && !(name == "li" && children.isEmpty)

mutual

/-- A node as markup. -/
def Node.write (parent : String) : Node → List Char
  | .element name attributes children =>
    startTag name attributes ++
      (if isVoid name then [] else Node.writeList name children) ++
      (if hasEndTag name children then endTag name else [])
  | .text s | .verbatim s => if isVerbatim parent then s.toList else escapeText s.toList
  | .comment s => "<!--".toList ++ s.toList ++ "-->".toList

/-- Some nodes inside the named element as markup. -/
def Node.writeList (parent : String) : List Node → List Char
  | [] => []
  | n :: ns => Node.write parent n ++ Node.writeList parent ns

end

/-- How a tag begins that only repeats the content type of the page. -/
def contentTypeTag : List Char :=
  "<meta http-equiv=\"Content-Type\"".toList

/-- Leave out the tags that repeat the content type; the number counts the characters of such a
tag that are still to be passed over. -/
def dropContentType : Nat → List Char → List Char
  | _, [] => []
  | skip + 1, _ :: cs => dropContentType skip cs
  | 0, c :: cs =>
    if contentTypeTag.isPrefixOf (c :: cs) then
      match throughMark ['>'] [] ((c :: cs).drop contentTypeTag.length) with
      | some (part, _) => dropContentType (contentTypeTag.length + part.length - 1) cs
      | none => c :: dropContentType 0 cs
    else c :: dropContentType 0 cs

/-- An element as markup of its own. -/
def Node.outerMarkup (n : Node) : String :=
  String.ofList (dropContentType 0 (n.write ""))

/-- The texts before the first child that is no text, and what follows them. -/
def splitLead : List Node → List Char × List Node
  | .text s :: ns =>
    let (lead, rest) := splitLead ns
    (s.toList ++ lead, rest)
  | .verbatim s :: ns =>
    let (lead, rest) := splitLead ns
    (s.toList ++ lead, rest)
  | ns => ([], ns)

/-- A leading text with the special characters escaped, and all others as they are. -/
def escapeLead (cs : List Char) : List Char :=
  cs.flatMap fun c =>
    if c = '&' then "&amp;".toList
    else if c = '<' then "&lt;".toList
    else if c = '>' then "&gt;".toList
    else [c]

/-- Children in groups: each one that is no text with the texts after it. -/
def tailGroups : List Node → List (List Node)
  | [] => []
  | n :: ns =>
    match tailGroups ns with
    | [] => [[n]]
    | group :: groups =>
      match group with
      | .text _ :: _ => (n :: group) :: groups
      | .verbatim _ :: _ => (n :: group) :: groups
      | _ => [n] :: group :: groups

/-- The markup between the tags of an element; nothing for other nodes. -/
def Node.innerMarkup? : Node → Option String
  | .element name _ children =>
    let (lead, rest) := splitLead children
    some (String.ofList ((if isVerbatim name then lead else escapeLead lead) ++
      (tailGroups rest).flatMap fun group => dropContentType 0 (Node.writeList name group)))
  | _ => none

end MangaShelf.Markup
