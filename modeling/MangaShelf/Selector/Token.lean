import MangaShelf.Json.Reader
import MangaShelf.Text.Search

/-!
# Tokens of selectors

Names, hashes, quoted strings, numbers, blanks and single marks. A backslash escapes a character,
alone or by its hexadecimal code.
-/

namespace MangaShelf.Selector

/-- A token. -/
inductive Token where
  | space
  | ident (s : String)
  | hash (s : String)
  | string (s : String)
  | number (s : String)
  | mark (c : Char)
  | eof
  deriving DecidableEq, Repr, Inhabited

/-- The blanks of selectors. -/
def isSpace (c : Char) : Bool :=
  c == ' ' || c == '\t' || c == '\r' || c == '\n' || c == '\x0c'

/-- The line ends that no string may hold unescaped. -/
def isLineEnd (c : Char) : Bool :=
  c == '\n' || c == '\r' || c == '\x0c'

/-- A hexadecimal digit. -/
def isHex (c : Char) : Bool :=
  (Json.hexValue? c).isSome

/-- One blank that may end an escape by code; a carriage return and line feed count as one. -/
def dropCodeEnd : List Char → List Char
  | '\r' :: '\n' :: cs => cs
  | c :: cs => if isSpace c then cs else c :: cs
  | [] => []

/-- The first `limit` characters as long as they are hexadecimal digits, and the rest. -/
def takeHex : Nat → List Char → List Char × List Char
  | 0, cs => ([], cs)
  | _ + 1, [] => ([], [])
  | limit + 1, c :: cs =>
    if isHex c then
      let (ds, rest) := takeHex limit cs
      (c :: ds, rest)
    else ([], c :: cs)

/-- The characters after an escape whose backslash is passed; `none` when it escapes nothing. -/
def afterEscape? (cs : List Char) : Option (List Char) :=
  match cs with
  | [] => none
  | c :: rest =>
    if isHex c then some (dropCodeEnd (takeHex 6 cs).2)
    else if isLineEnd c then none
    else some rest

/-- A character of a name after the first one. -/
def inName (c : Char) : Bool :=
  c.isAlphanum || c == '_' || c == '-' || 127 < c.toNat

/-- A first character of a name. -/
def beginsName (c : Char) : Bool :=
  c.isAlpha || c == '_' || 127 < c.toNat

/-- What follows the characters of a name; the fuel is the number of characters. -/
def afterName : Nat → List Char → List Char
  | 0, cs => cs
  | _ + 1, [] => []
  | fuel + 1, c :: cs =>
    if inName c then afterName fuel cs
    else if c = '\\' then
      match afterEscape? cs with
      | some rest => afterName fuel rest
      | none => c :: cs
    else c :: cs

/-- What follows a name that may begin here. -/
def afterIdent? (cs : List Char) : Option (List Char) :=
  let body :=
    match cs with
    | '-' :: rest => rest
    | _ => cs
  match body with
  | [] => none
  | c :: rest =>
    if beginsName c then some (afterName rest.length rest)
    else if c = '\\' then
      (afterEscape? rest).map fun more => afterName more.length more
    else none

/-- What follows a number that may begin here. -/
def afterNumber? (cs : List Char) : Option (List Char) :=
  let body :=
    match cs with
    | '+' :: rest => rest
    | '-' :: rest => rest
    | _ => cs
  let rest := body.dropWhile Json.isDigit
  match Json.fractionDigits rest with
  | some (_, more) => some more
  | none => if rest.length < body.length then some rest else none

/-- What follows the content of a string up to its quote; the fuel is the number of characters. -/
def afterString (quote : Char) : Nat → List Char → List Char
  | 0, cs => cs
  | _ + 1, [] => []
  | fuel + 1, c :: cs =>
    if c = quote ∨ isLineEnd c then c :: cs
    else if c = '\\' then
      match cs with
      | '\r' :: '\n' :: rest => afterString quote fuel rest
      | d :: rest =>
        if isLineEnd d then afterString quote fuel rest
        else
          match afterEscape? cs with
          | some rest => afterString quote fuel rest
          | none => c :: cs
      | [] => c :: cs
    else afterString quote fuel cs

/-- Escapes by code become their characters; the fuel is the number of characters. -/
def decodeCodes : Nat → List Char → List Char
  | 0, cs => cs
  | _ + 1, [] => []
  | fuel + 1, c :: cs =>
    if c = '\\' ∧ (cs.head?.map isHex).getD false then
      let (digits, rest) := takeHex 6 cs
      let code := digits.foldl (fun n d => 16 * n + (Json.hexValue? d).getD 0) 0
      (if 0x10FFFF < code then '\uFFFD' else Char.ofNat code) ::
        decodeCodes fuel (dropCodeEnd rest)
    else c :: decodeCodes fuel cs

/-- Other escapes become the character that they escape. -/
def decodeSimple : List Char → List Char
  | [] => []
  | '\\' :: c :: cs => if c = '\n' then '\\' :: c :: decodeSimple cs else c :: decodeSimple cs
  | c :: cs => c :: decodeSimple cs

/-- Escaped line ends vanish. -/
def dropLineEnds : List Char → List Char
  | [] => []
  | '\\' :: '\r' :: '\n' :: cs => dropLineEnds cs
  | '\\' :: c :: cs => if isLineEnd c then dropLineEnds cs else '\\' :: c :: dropLineEnds cs
  | c :: cs => c :: dropLineEnds cs

/-- The text that a name stands for. -/
def decodeName (cs : List Char) : String :=
  String.ofList (decodeSimple (decodeCodes cs.length cs))

/-- The characters before `rest` in `cs`. -/
def upTo (cs rest : List Char) : List Char :=
  cs.take (cs.length - rest.length)

/-- What follows a comment after its opening. -/
def afterComment : List Char → List Char
  | [] => []
  | '*' :: '/' :: cs => cs
  | _ :: cs => afterComment cs

/-- The tokens of a selector, with the end as the last one; `none` for a broken string. The fuel is
the number of characters. -/
def tokens? : Nat → List Char → Option (List Token)
  | 0, _ => some [.eof]
  | _ + 1, [] => some [.eof]
  | fuel + 1, c :: cs =>
    if isSpace c then (tokens? fuel (cs.dropWhile isSpace)).map (.space :: ·)
    else
      match afterIdent? (c :: cs) with
      | some rest => (tokens? fuel rest).map (.ident (decodeName (upTo (c :: cs) rest)) :: ·)
      | none =>
        let hashRest := afterName cs.length cs
        if c = '#' ∧ hashRest.length < cs.length then
          (tokens? fuel hashRest).map (.hash (decodeName (upTo cs hashRest)) :: ·)
        else if c = '"' ∨ c = '\'' then
          match afterString c cs.length cs with
          | [] => none
          | d :: rest =>
            if d = c then
              (tokens? fuel rest).map
                (.string (decodeName (dropLineEnds (upTo cs (d :: rest)))) :: ·)
            else none
        else
          match afterNumber? (c :: cs) with
          | some rest =>
            (tokens? fuel rest).map (.number (String.ofList (upTo (c :: cs) rest)) :: ·)
          | none =>
            if c = '/' ∧ cs.head? = some '*' then tokens? fuel (afterComment (cs.drop 1))
            else (tokens? fuel cs).map (.mark c :: ·)

end MangaShelf.Selector
