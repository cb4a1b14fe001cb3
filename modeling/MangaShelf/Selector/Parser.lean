import MangaShelf.Selector.Syntax

/-!
# Reading selectors

A reader by descent over tokens. Reading past the end of the tokens is a fault of its own.
-/

namespace MangaShelf.Selector

/-- The tokens that are left, and how many have been read. -/
structure Input where
  rest : List Token
  used : Nat
  /-- The first token was a blank. -/
  blankStart : Bool

/-- A reader: what it reads, and the input after it. -/
abbrev Reader := StateT Input (Except Fault)

/-- The next token without reading it. -/
def peek : Reader Token := do
  match (← get).rest with
  | [] => throw .cutShort
  | t :: _ => return t

/-- Read the next token. -/
def next : Reader Token := do
  let input ← get
  match input.rest with
  | [] => throw .cutShort
  | t :: rest =>
    set { input with
      rest
      used := input.used + 1
      blankStart := if input.used = 0 then t == Token.space else input.blankStart }
    return t

/-- Pass over a blank. -/
def skipSpace : Reader Unit := do
  if (← peek) = Token.space then discard next

/-- Read a name. -/
def nextIdent : Reader String := do
  match ← next with
  | .ident s => return s
  | _ => throw .rejected

/-- Read a name, or a star for any. -/
def nextIdentOrStar : Reader (Option String) := do
  match ← next with
  | .ident s => return some s
  | .mark '*' => return none
  | _ => throw .rejected

/-- The arguments of a function up to its closing bracket; the fuel is the number of tokens. -/
def arguments : Nat → List Token → Reader (List Token)
  | 0, _ => throw .rejected
  | fuel + 1, done => do
    skipSpace
    match ← next with
    | .mark ')' => return done.reverse
    | .mark '+' => arguments fuel (.mark '+' :: done)
    | .mark '-' => arguments fuel (.mark '-' :: done)
    | .ident s => arguments fuel (.ident s :: done)
    | .string s => arguments fuel (.string s :: done)
    | .number s => arguments fuel (.number s :: done)
    | _ => throw .rejected

/-- The test that a mark before an equals sign stands for. -/
def testOfMark? (c : Char) : Option AttributeTest :=
  if c = '^' then some .beginsWith
  else if c = '$' then some .endsWith
  else if c = '*' then some .contains
  else if c = '~' then some .hasWord
  else if c = '|' then some .dashMatch
  else if c = '!' then some .differs
  else none

/-- The value of an attribute test up to the closing bracket. -/
def attributeValue (space : Option String) (name : String) (test : AttributeTest) :
    Reader Part := do
  skipSpace
  let value ←
    match ← next with
    | .ident s => pure s
    | .string s => pure s
    | _ => throw .rejected
  skipSpace
  if (← next) = Token.mark ']' then return .hasAttribute space name test value else throw .rejected

/-- The test of an attribute after its name. -/
def attributeTest (space : Option String) (name : String) : Reader Part := do
  skipSpace
  match ← next with
  | .mark c =>
    if c = ']' then return .hasAttribute space name .exists ""
    else if c = '=' then attributeValue space name .equals
    else
      match testOfMark? c with
      | none => throw .rejected
      | some test =>
        if (← peek) = Token.mark '=' then
          discard next
          attributeValue space name test
        else throw .rejected
  | _ => throw .rejected

/-- An attribute condition after its opening bracket. -/
def attributePart : Reader Part := do
  skipSpace
  let first ← nextIdentOrStar
  let bar := (← peek) = Token.mark '|'
  match first with
  | none =>
    if bar then
      discard next
      if (← peek) = Token.mark '=' then throw .rejected
      attributeTest none (← nextIdent)
    else throw .rejected
  | some name =>
    if bar then
      discard next
      if (← peek) = Token.mark '=' then
        discard next
        attributeValue none name .dashMatch
      else attributeTest (some name) (← nextIdent)
    else attributeTest none name

/-- The text of the argument of a relation up to its closing bracket; the fuel is the number of
tokens. -/
def relationText : Nat → List Char → Token → Reader (List Char)
  | 0, _, _ => throw .rejected
  | fuel + 1, done, t =>
    match t with
    | .mark ')' => return done
    | .ident s => do relationText fuel (done ++ s.toList) (← next)
    | .string s => do relationText fuel (done ++ s.toList) (← next)
    | .number s => do relationText fuel (done ++ s.toList) (← next)
    | .mark c => do
      if c = '.' ∨ c = '*' then relationText fuel (done ++ [c]) (← next) else throw .rejected
    | _ => throw .rejected

/-- The combinator at the front of a relation, and the text of its argument. -/
def relationParts : Reader (Option Combinator × List Char) := do
  skipSpace
  let fuel := (← get).rest.length
  let first ← next
  let marked : Option (Option Combinator) :=
    match first with
    | .mark '+' => some (some .adjacent)
    | .mark '>' => some (some .child)
    | .mark '~' => some (some .sibling)
    | .mark '-' => some none
    | _ => none
  match marked with
  | some combinator =>
    skipSpace
    return (combinator, ← relationText fuel [] (← next))
  | none => return (some .descendant, ← relationText fuel [] first)

/-- The old names of what is taken from a node, which need one colon only. -/
def isOldTarget (name : String) : Bool :=
  ["first-line", "first-letter", "before", "after"].contains name

/-- The compound ends before this token. -/
def endsCompound (inside : Bool) (t : Token) : Bool :=
  match t with
  | .space => true
  | .eof => true
  | .mark c => [',', '+', '>', '~'].contains c || (inside && c == ')')
  | _ => false

/-- A name at the front of a compound. -/
def compoundName : Reader (Option String × Option String) := do
  let named ←
    match ← peek with
    | .ident s => do
      discard next
      pure (some (some s))
    | .mark '*' => do
      discard next
      pure (some none)
    | _ => pure none
  match named with
  | none => return (none, none)
  | some first =>
    if (← peek) = Token.mark '|' then
      discard next
      return (first, ← nextIdentOrStar)
    else return (none, first)

mutual

/-- A compound and what is taken from it. Inside brackets it ends before the closing one. -/
def compound : Nat → Bool → Reader (Compound × Target)
  | 0, _ => throw .rejected
  | fuel + 1, inside => do
    skipSpace
    let start := (← get).used
    let (space, name) ← compoundName
    let found ← parts fuel inside space name [] .element
    if (← get).used = start then throw .rejected
    return found

/-- The conditions of a compound; `done` has the last one first. -/
def parts : Nat → Bool → Option String → Option String → List Part → Target →
    Reader (Compound × Target)
  | 0, _, _, _, _, _ => throw .rejected
  | fuel + 1, inside, space, name, done, target => do
    let t ← peek
    if endsCompound inside t then return (.mk space name done.reverse, target)
    if target ≠ .element then throw .rejected
    match t with
    | .hash id =>
      discard next
      parts fuel inside space name (.hash id :: done) target
    | .mark c =>
      if c = '.' then
        discard next
        parts fuel inside space name (.hasClass (← nextIdent) :: done) target
      else if c = '|' then
        discard next
        parts fuel inside none (some (← nextIdent)) [] target
      else if c = '[' then
        discard next
        parts fuel inside space name ((← attributePart) :: done) target
      else if c = ':' then
        discard next
        if (← peek) = Token.mark ':' then
          discard next
          let word ← nextIdent
          if (← peek) = Token.mark '(' then
            discard next
            let args ← arguments (← get).rest.length []
            parts fuel inside space name done (.function (Text.lowerAscii word) args)
          else parts fuel inside space name done (.word (Text.lowerAscii word))
        else
          let word := Text.lowerAscii (← nextIdent)
          if isOldTarget word then parts fuel inside space name done (.word word)
          else if (← peek) = Token.mark '(' then
            discard next
            skipSpace
            let part ← functionPart fuel inside word
            parts fuel inside space name (part :: done) target
          else
            let input ← get
            let atStart := input.used = 2 || (input.used = 3 && input.blankStart)
            if word = "scope" ∧ name.isNone ∧ done.isEmpty ∧ ¬ atStart then throw .rejected
            parts fuel inside space name (.pseudo word :: done) target
      else throw .rejected
    | _ => throw .rejected

/-- A condition with arguments, after its opening bracket. -/
def functionPart : Nat → Bool → String → Reader Part
  | 0, _, _ => throw .rejected
  | fuel + 1, inside, word => do
    if word = "not" then
      if inside then throw .rejected
      let (argument, target) ← compound fuel true
      let last ← next
      if target ≠ .element ∨ last ≠ .mark ')' then throw .rejected
      return .negation argument
    else if word = "has" then
      let (combinator, text) ← relationParts
      let argument ←
        match tokens? text.length text with
        | none => throw Fault.rejected
        | some ts =>
          match (compound fuel false).run ⟨ts, 0, false⟩ with
          | .error e => throw e
          | .ok ((argument, _), input) =>
            if input.rest = [.eof] then pure argument else throw .rejected
      match combinator with
      | some c => return .relation c argument
      | none => throw .strayMinus
    else if word = "matches" ∨ word = "is" ∨ word = "where" then
      return .anyOf (← alternatives fuel [])
    else return .function word (← arguments (← get).rest.length [])

/-- A list of compounds up to the closing bracket. A comma takes the token after it along. -/
def alternatives : Nat → List Compound → Reader (List Compound)
  | 0, _ => throw .rejected
  | fuel + 1, done => do
    let (argument, target) ← compound fuel true
    if target ≠ .element then throw .rejected
    skipSpace
    let t ← next
    if t = .eof ∨ t = .mark ',' then
      discard next
      skipSpace
      alternatives fuel (argument :: done)
    else if t = .mark ')' then return (argument :: done).reverse
    else throw .rejected

end

/-- The combinator that a token stands for. -/
def combinatorOf? : Token → Option Combinator
  | .mark '+' => some .adjacent
  | .mark '>' => some .child
  | .mark '~' => some .sibling
  | _ => none

/-- The further compounds of a selector; `done` has the last one first. -/
def furtherSteps (first : Compound) : Nat → List (Combinator × Compound) → Target → Reader Selector
  | 0, _, _ => throw .rejected
  | fuel + 1, done, target => do
    skipSpace
    let t ← peek
    if t = .eof ∨ t = .mark ',' then return ⟨first, done.reverse, target⟩
    if target ≠ .element then throw .rejected
    let combinator ←
      match combinatorOf? t with
      | some c => do
        discard next
        skipSpace
        pure c
      | none => pure .descendant
    let (c, target) ← compound (2 * (← get).rest.length + 2) false
    furtherSteps first fuel ((combinator, c) :: done) target

/-- The selectors of a list, separated by commas; `done` has the last one first. -/
def group : Nat → List Selector → Reader (List Selector)
  | 0, _ => throw .rejected
  | fuel + 1, done => do
    let size := 2 * (← get).rest.length + 2
    let (first, target) ← compound size false
    let selector ← furtherSteps first size [] target
    if (← peek) = Token.mark ',' then
      discard next
      skipSpace
      group fuel (selector :: done)
    else return (selector :: done).reverse

/-- The selectors that a text stands for. -/
def parse (s : String) : Except Fault (List Selector) :=
  match tokens? s.length s.toList with
  | none => .error .rejected
  | some ts => do
    let start : Reader (List Selector) := do
      skipSpace
      group ts.length []
    let (selectors, _) ← start.run ⟨ts, 0, false⟩
    return selectors

end MangaShelf.Selector
