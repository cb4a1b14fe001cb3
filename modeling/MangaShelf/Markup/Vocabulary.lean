/-!
# Vocabulary of elements

What the names of elements mean while a page is read: which elements hold nothing, which hold plain
text, which end where another one begins, and which an end tag may close.
-/

namespace MangaShelf.Markup

/-- Elements that hold nothing and have no end tag. -/
def isVoid (name : String) : Bool :=
  ["area", "base", "basefont", "br", "col", "frame", "hr", "img", "input", "isindex", "link",
    "meta", "param"].contains name

/-- How the characters inside an element are read. -/
inductive ContentMode where
  /-- Tags, comments and references. -/
  | markup
  /-- References, up to the end tag. -/
  | escapable
  /-- Nothing but characters, up to the end tag. -/
  | plain
  /-- A script: characters up to an end tag outside a hidden part. -/
  | script
  /-- Characters up to the end of the page. -/
  | rest
  deriving DecidableEq, Repr

/-- How the content of an element is read. -/
def contentMode (name : String) : ContentMode :=
  if name = "script" then .script
  else if ["style", "iframe", "noembed", "noframes", "xmp"].contains name then .plain
  else if name = "title" ∨ name = "textarea" then .escapable
  else if name = "plaintext" then .rest
  else .markup

/-- The headings. -/
def headings : List String := ["h1", "h2", "h3", "h4", "h5", "h6"]

/-- The elements of which any ends an open paragraph. -/
def closingParagraph : List String :=
  ["address", "blockquote", "body", "caption", "center", "col", "colgroup", "dd", "dir", "div",
    "dl", "dt", "frameset", "head", "hr", "li", "listing", "menu", "ol", "p", "pre", "table",
    "tbody", "td", "tfoot", "th", "title", "tr", "ul", "xmp"] ++ headings

/-- The elements of which any ends the head. -/
def closingHead : List String :=
  ["a", "abbr", "acronym", "address", "b", "bdo", "big", "blockquote", "body", "br", "center",
    "cite", "code", "dd", "dfn", "dir", "div", "dl", "dt", "em", "fieldset", "font", "form",
    "frameset", "hr", "i", "iframe", "img", "kbd", "li", "listing", "map", "menu", "ol", "p",
    "pre", "q", "s", "samp", "small", "span", "strike", "strong", "sub", "sup", "table", "tt",
    "u", "ul", "var", "xmp"] ++ headings

/-- The elements whose start ends an open element of the given name. -/
def closedBy (name : String) : List String :=
  if name = "p" then closingParagraph
  else if name = "head" then closingHead
  else if headings.contains name then ["fieldset", "form", "li", "p", "table"]
  else if name = "a" then ["a", "fieldset", "table", "td", "th"]
  else if name = "address" then ["dd", "dl", "dt", "form", "li", "ul"]
  else if name = "b" ∨ name = "i" then ["center", "p", "td", "th"]
  else if ["big", "s", "small", "strike", "tt"].contains name then ["p"]
  else if name = "u" then ["p", "td", "th"]
  else if name = "font" then ["center", "td", "th"]
  else if name = "span" then ["td", "th"]
  else if name = "caption" ∨ name = "col" then
    ["col", "colgroup", "tbody", "tfoot", "thead", "tr"]
  else if name = "colgroup" then ["colgroup", "tbody", "tfoot", "thead", "tr"]
  else if name = "dd" then ["dt"]
  else if name = "dt" then ["dd", "dl"]
  else if name = "dl" then ["form", "li"]
  else if name = "dir" ∨ name = "menu" then ["dd", "dl", "dt", "form", "ul"]
  else if name = "form" ∨ name = "hr" ∨ name = "ol" then ["form"]
  else if name = "legend" then ["fieldset"]
  else if name = "li" then ["li"]
  else if name = "link" ∨ name = "style" ∨ name = "title" then ["body", "frameset"]
  else if name = "listing" ∨ name = "pre" ∨ name = "xmp" then
    ["dd", "dl", "dt", "fieldset", "form", "li", "table", "ul"]
  else if name = "option" then ["optgroup", "option"]
  else if name = "script" then ["noscript"]
  else if name = "tbody" then ["tbody", "tfoot"]
  else if name = "td" ∨ name = "th" then ["tbody", "td", "tfoot", "th", "tr"]
  else if name = "tfoot" then ["tbody"]
  else if name = "thead" then ["tbody", "tfoot"]
  else if name = "tr" then ["tbody", "tfoot", "tr"]
  else if name = "ul" then ["address", "form", "menu", "ol", "pre"]
  else []

/-- An end tag closes no element of a higher rank than its own. -/
def rank (name : String) : Nat :=
  if name = "div" then 150
  else if name = "td" ∨ name = "th" then 160
  else if name = "tr" then 170
  else if name = "thead" ∨ name = "tbody" ∨ name = "tfoot" then 180
  else if name = "table" then 190
  else if name = "head" ∨ name = "body" then 200
  else if name = "html" then 220
  else 100

/-- The elements that belong into the head when they stand before any other content. -/
def belongsToHead (name : String) : Bool :=
  ["script", "style", "meta", "link", "title", "base"].contains name

/-- The elements of a page made of frames, which has no body. -/
def belongsToFrames (name : String) : Bool :=
  name = "noframes" || name = "frame" || name = "frameset"

/-- The elements whose text is written as it is. -/
def isVerbatim (name : String) : Bool :=
  name = "script" || name = "style"

end MangaShelf.Markup
