import MangaShelf.Json.Reader
import MangaShelf.Text.Integer

/-!
# Tokens of paths

Names, numbers, marks and named operators of the path language. Blanks and line feeds stand between
tokens; a quoted text is a name.
-/

namespace MangaShelf.JsonPath

/-- A token. -/
inductive Token where
  | name (s : String) (quoted : Bool)
  | number (n : Int)
  /-- A number of more digits than are read. -/
  | overlong (digits : Nat)
  | float (x : Float)
  | bool (b : Bool)
  | operator (s : String)
  | comparison (s : String)
  /-- A slash or backslash before a key to sort by, a comma before it included. -/
  | direction (descending : Bool)
  | descend
  | mark (c : Char)

/-- The token is the given mark. -/
def Token.isMark (t : Token) (c : Char) : Bool :=
  match t with
  | .mark d => d == c
  | _ => false

/-- A first character of a name. -/
def beginsName (c : Char) : Bool :=
  c.isAlpha || c == '_'

/-- A further character of a name. -/
def inName (c : Char) : Bool :=
  c.isAlphanum || c == '_' || c == '@' || c == '-'

/-- The characters of a quoted text and what follows its quote; `done` has the last one first. -/
def quotedTail (quote : Char) (done : List Char) : List Char → Option (List Char × List Char)
  | [] => none
  | '\\' :: c :: cs =>
    if c = '\n' then none else quotedTail quote (c :: done) cs
  | c :: cs =>
    if c = quote then some (done.reverse, cs)
    else if c = '\\' then none
    else quotedTail quote (c :: done) cs

/-- Blanks inside the mark of a sort direction. -/
def isWhite (c : Char) : Bool :=
  c == ' ' || (9 ≤ c.toNat && c.toNat ≤ 13)

/-- A sort direction at the front. -/
def direction? (cs : List Char) : Option (Bool × List Char) :=
  let cs :=
    match cs with
    | ',' :: rest => rest
    | _ => cs
  match cs.dropWhile isWhite with
  | '/' :: rest => some (false, rest)
  | '\\' :: rest => some (true, rest)
  | _ => none

/-- A name at the front; it may begin with an at sign. -/
def name? (cs : List Char) : Option (List Char × List Char) :=
  match cs with
  | '@' :: c :: rest =>
    if beginsName c then some ('@' :: c :: rest.takeWhile inName, rest.dropWhile inName) else none
  | c :: rest =>
    if beginsName c then some (c :: rest.takeWhile inName, rest.dropWhile inName) else none
  | [] => none

/-- The number that some decimal digits of any script spell. -/
def digitsValue (ds : List Char) : Nat :=
  ds.foldl (fun n c => 10 * n + (Text.decimalValue? c).getD 0) 0

/-- The digits after a point, if there are any, and what follows them. -/
def fraction? (cs : List Char) : Option (List Char × List Char) :=
  match cs with
  | '.' :: more =>
    let digits := more.takeWhile Text.isDecimal
    if digits.isEmpty then none else some (digits, more.dropWhile Text.isDecimal)
  | _ => none

/-- A number at the front. -/
def number? (cs : List Char) : Option (Token × List Char) :=
  let (negative, ds) :=
    match cs with
    | '-' :: rest => (true, rest)
    | _ => (false, cs)
  let whole := ds.takeWhile Text.isDecimal
  let rest := ds.dropWhile Text.isDecimal
  if whole.isEmpty then none
  else
    match fraction? rest with
    | some (fraction, more) =>
      some (.float (Json.floatOfDecimal negative (digitsValue (whole ++ fraction))
        (-(fraction.length : Int))), more)
    | none =>
      if Text.maxIntegerDigits < whole.length then some (.overlong whole.length, rest)
      else
        let n : Int := digitsValue whole
        some (.number (if negative then -n else n), rest)

/-- A comparison at the front. -/
def comparison? (cs : List Char) : Option (String × List Char) :=
  match cs with
  | '=' :: '~' :: rest => some ("=~", rest)
  | '=' :: '=' :: rest => some ("==", rest)
  | '=' :: rest => some ("==", rest)
  | '<' :: '=' :: rest => some ("<=", rest)
  | '>' :: '=' :: rest => some (">=", rest)
  | '!' :: '=' :: rest => some ("!=", rest)
  | '<' :: rest => some ("<", rest)
  | '>' :: rest => some (">", rest)
  | _ => none

/-- The marks that are tokens of their own. -/
def marks : List Char :=
  ['*', '.', '[', ']', '(', ')', '$', ',', ':', '|', '&', '~', '?', '@', '+', '/', '-']

/-- One token and what follows it. -/
def token? (cs : List Char) : Option (Token × List Char) :=
  match cs with
  | 't' :: 'r' :: 'u' :: 'e' :: rest => some (.bool true, rest)
  | 'f' :: 'a' :: 'l' :: 's' :: 'e' :: rest => some (.bool false, rest)
  | _ =>
  match direction? cs with
  | some (descending, rest) => some (.direction descending, rest)
  | none =>
  match name? cs with
  | some (s, rest) => some (.name (String.ofList s) false, rest)
  | none =>
  match number? cs with
  | some found => some found
  | none =>
  match comparison? cs with
  | some (s, rest) => some (.comparison s, rest)
  | none =>
  match cs with
  | [] => none
  | '.' :: '.' :: rest => some (.descend, rest)
  | c :: rest =>
    if c = '\'' ∨ c = '"' then
      (quotedTail c [] rest).map fun (s, more) => (.name (String.ofList s) true, more)
    else if c = '\x60' then
      (quotedTail c [] rest).map fun (s, more) => (.operator (String.ofList s), more)
    else if marks.contains c then some (.mark c, rest)
    else none

/-- The tokens of a path; the fuel is the number of characters. -/
def tokens? : Nat → List Char → Option (List Token)
  | 0, _ => some []
  | fuel + 1, cs =>
    match cs.dropWhile fun c => c == ' ' || c == '\t' || c == '\n' with
    | [] => some []
    | c :: rest => do
      let (t, more) ← token? (c :: rest)
      return t :: (← tokens? fuel more)

end MangaShelf.JsonPath
