import MangaShelf.Json.Reader
import MangaShelf.Pattern.Syntax

/-!
# Reading patterns

A reader of regular expressions. A text that is no pattern is refused as a whole, so a reader that
fails only says so. Numbers that are too large are a fault of their own.
-/

namespace MangaShelf.Pattern

/-- The options in force. -/
structure Options where
  ignoreCase : Bool
  multiline : Bool
  dotAll : Bool
  verbose : Bool
  ascii : Bool
  deriving DecidableEq, Repr

/-- Which letters count as the same. -/
def Options.folding (o : Options) : Folding :=
  if !o.ignoreCase then .exact else if o.ascii then .ascii else .full

/-- Where the reader stands. -/
structure ReaderState where
  rest : List Char
  /-- The number that the next group gets. -/
  nextGroup : Nat
  /-- The groups that are still open. -/
  openGroups : List Nat
  names : List (String × Nat)
  /-- Groups that are mentioned before it is known whether they exist. -/
  mentioned : List Nat
  /-- Inside a look behind: the groups that stand before it. -/
  behindFrom : Option Nat
  /-- The options of the whole pattern, and the letters that set them. -/
  options : Options
  letters : List Char
  /-- Nothing of the pattern has been read. -/
  atStart : Bool
  /-- How many calls deep the groups that are open are read. -/
  nesting : Nat

/-- A reader. -/
abbrev Reader := StateT ReaderState (Except Refusal)

/-- The text is no pattern. -/
def malformed {α : Type} : Reader α :=
  throw .malformed

/-- The next character without reading it. -/
def peek : Reader (Option Char) := do
  return (← get).rest.head?

/-- Read a character. -/
def next : Reader (Option Char) := do
  match (← get).rest with
  | [] => return none
  | c :: cs =>
    modify fun s => { s with rest := cs }
    return some c

/-- Read a character that must be there. -/
def require : Reader Char := do
  match ← next with
  | some c => return c
  | none => malformed

/-- Read the given character if it is the next one. -/
def take (c : Char) : Reader Bool := do
  if (← peek) = some c then
    discard next
    return true
  else return false

/-- Read up to `limit` characters of a class. -/
def takeWhile (p : Char → Bool) (limit : Nat) : Reader (List Char) := do
  let rest := (← get).rest
  let run := (rest.take limit).takeWhile p
  modify fun s => { s with rest := rest.drop run.length }
  return run

/-- Read the characters up to `stop` and the stop itself. -/
def takeUntil (stop : Char) : Reader (List Char) := do
  let rest := (← get).rest
  let run := rest.takeWhile (· != stop)
  match rest.drop run.length with
  | [] => malformed
  | _ :: more =>
    if run.isEmpty then malformed
    modify fun s => { s with rest := more }
    return run

/-- A hexadecimal digit. -/
def isHex (c : Char) : Bool :=
  (Json.hexValue? c).isSome

/-- An octal digit. -/
def isOctal (c : Char) : Bool :=
  '0' ≤ c && c ≤ '7'

/-- The number in a base. -/
def numberIn (base : Nat) (ds : List Char) : Nat :=
  ds.foldl (fun n c => base * n + (Json.hexValue? c).getD 0) 0

/-- The code of a character that exactly `count` hexadecimal digits give. -/
def hexCode (count : Nat) : Reader Nat := do
  let ds ← takeWhile isHex count
  let n := numberIn 16 ds
  if ds.length = count ∧ n < 0x110000 then return n else malformed

/-- The code is that of half a character. No text has such a half by itself. -/
def isSurrogate (code : Nat) : Bool :=
  0xD800 ≤ code && code < 0xE000

/-- The characters with the codes from `low` to `high`. -/
def codeRange (low high : Nat) : SetItem :=
  .range (Char.ofNat (if isSurrogate low then 0xE000 else low))
    (Char.ofNat (if isSurrogate high then 0xD7FF else high))

/-- The control character of a letter. -/
def controlChar? (c : Char) : Option Char :=
  if c = 'a' then some '\x07'
  else if c = 'f' then some '\x0c'
  else if c = 'n' then some '\n'
  else if c = 'r' then some '\r'
  else if c = 't' then some '\t'
  else if c = 'v' then some '\x0b'
  else if c = '\\' then some '\\'
  else none

/-- The class of a letter, and whether its opposite is meant. -/
def category? (c : Char) : Option (Category × Bool) :=
  if c = 'd' then some (.digit, false)
  else if c = 'D' then some (.digit, true)
  else if c = 's' then some (.blank, false)
  else if c = 'S' then some (.blank, true)
  else if c = 'w' then some (.word, false)
  else if c = 'W' then some (.word, true)
  else none

/-- The anchor of a letter. -/
def anchor? (ascii : Bool) (c : Char) : Option Anchor :=
  if c = 'A' then some .textStart
  else if c = 'Z' ∨ c = 'z' then some .textEnd
  else if c = 'b' then some (.boundary false ascii)
  else if c = 'B' then some (.boundary true ascii)
  else none

/-- A character of up to three octal digits. -/
def octalChar (ds : List Char) : Reader Char :=
  if numberIn 8 ds ≤ 255 then return Char.ofNat (numberIn 8 ds) else malformed

/-- A pattern for one character. -/
def literal (o : Options) (c : Char) : Pattern :=
  .test (.one c o.folding)

/-- A pattern for the character of a code. -/
def codeLiteral (o : Options) (code : Nat) : Pattern :=
  if isSurrogate code then .test (.set false [codeRange code code] .exact)
  else literal o (Char.ofNat code)

/-- A group must be complete. -/
def checkComplete (number : Nat) : Reader Unit := do
  let s ← get
  if s.nextGroup ≤ number ∨ number ∈ s.openGroups then malformed

/-- Inside a look behind a group must be complete and stand before it. -/
def checkBehind (number : Nat) : Reader Unit := do
  match (← get).behindFrom with
  | some first =>
    checkComplete number
    if first ≤ number then malformed
  | none => pure ()

/-- A reference to a group. -/
def reference (o : Options) (number : Nat) : Reader Pattern := do
  checkComplete number
  checkBehind number
  return .again number o.folding

/-- What an escape outside a set stands for, after its backslash. Characters cannot be given by their
Unicode names. -/
def escape (o : Options) : Reader Pattern := do
  let c ← require
  match category? c with
  | some (kind, negated) => return .test (.set false [.category kind negated o.ascii] .exact)
  | none =>
  match anchor? o.ascii c with
  | some a => return .anchor a
  | none =>
  match controlChar? c with
  | some d => return literal o d
  | none =>
    if c = 'x' then return codeLiteral o (← hexCode 2)
    else if c = 'u' then return codeLiteral o (← hexCode 4)
    else if c = 'U' then return codeLiteral o (← hexCode 8)
    else if c = '0' then
      let ds ← takeWhile isOctal 2
      return literal o (← octalChar (c :: ds))
    else if c.isDigit then
      let second ← takeWhile Char.isDigit 1
      match second with
      | [d] =>
        let third := (← peek).filter isOctal
        match third with
        | some e =>
          if isOctal c && isOctal d then
            discard next
            return literal o (← octalChar [c, d, e])
          else reference o (numberIn 10 [c, d])
        | none => reference o (numberIn 10 [c, d])
      | _ => reference o (numberIn 10 [c])
    else if c.isAlpha then malformed
    else return literal o c

/-- One member of a set: the code of a character, or a class. -/
inductive Member where
  | code (n : Nat)
  | item (i : SetItem)

/-- What an escape inside a set stands for, after its backslash. -/
def setEscape (o : Options) : Reader Member := do
  let c ← require
  match category? c with
  | some (kind, negated) => return .item (.category kind negated o.ascii)
  | none =>
  match controlChar? c with
  | some d => return .code d.toNat
  | none =>
    if c = 'b' then return .code 8
    else if c = 'x' then return .code (← hexCode 2)
    else if c = 'u' then return .code (← hexCode 4)
    else if c = 'U' then return .code (← hexCode 8)
    else if isOctal c then
      let ds ← takeWhile isOctal 2
      return .code (← octalChar (c :: ds)).toNat
    else if c.isAlphanum then malformed
    else return .code c.toNat

/-- A member as a part of the set. -/
def Member.toItem : Member → SetItem
  | .code n => codeRange n n
  | .item i => i

/-- The members of a set up to its closing bracket; `done` has the last one first. The fuel is the
number of characters. -/
def setItems (o : Options) : Nat → List SetItem → Reader (List SetItem)
  | 0, _ => malformed
  | fuel + 1, done => do
    let c ← require
    if c = ']' ∧ ¬ done.isEmpty then return done.reverse
    let first ← if c = '\\' then setEscape o else pure (.code c.toNat)
    if ← take '-' then
      let d ← require
      if d = ']' then return (.range '-' '-' :: first.toItem :: done).reverse
      let second ← if d = '\\' then setEscape o else pure (.code d.toNat)
      match first, second with
      | .code low, .code high =>
        if high < low then malformed
        setItems o fuel (codeRange low high :: done)
      | _, _ => malformed
    else setItems o fuel (first.toItem :: done)

/-- The number that some digits spell, if there are not too many. -/
def number (ds : List Char) : Reader Nat :=
  if Json.maxDigits < ds.length then throw (.fault (.tooManyDigits ds.length))
  else return numberIn 10 ds

/-- The rounds of a repetition stay below this number. -/
def roundLimit : Nat := 4294967295

/-- A number of rounds. -/
def rounds (ds : List Char) : Reader Nat := do
  let n ← number ds
  if roundLimit ≤ n then throw (.fault .tooManyRounds)
  return n

/-- The bounds of a repetition after its opening brace, if there are any. -/
def bounds : Reader (Option (Nat × Option Nat)) := do
  let start ← get
  let low ← takeWhile Char.isDigit start.rest.length
  let high ← if ← take ',' then takeWhile Char.isDigit start.rest.length else pure low
  if (← peek) = some '}' ∧ start.rest.head? ≠ some '}' then
    discard next
    let least ← rounds low
    let most ← if high.isEmpty then pure none else some <$> rounds high
    match most with
    | some m => if m < least then malformed
    | none => pure ()
    return some (least, most)
  else
    set start
    return none

/-- A name of a group. -/
def isGroupName (cs : List Char) : Bool :=
  match cs with
  | [] => false
  | c :: rest => Text.isWordChar c && !Text.isDecimal c && rest.all Text.isWordChar

/-- The options that a letter stands for; `none` for no option. -/
def option? (c : Char) (value : Bool) (o : Options) : Option Options :=
  if c = 'i' then some { o with ignoreCase := value }
  else if c = 'm' then some { o with multiline := value }
  else if c = 's' then some { o with dotAll := value }
  else if c = 'x' then some { o with verbose := value }
  else if c = 'a' ∧ value then some { o with ascii := true }
  else if c = 'u' ∧ value then some { o with ascii := false }
  else none

/-- Letters of options up to one of the marks in `stops`. -/
def optionLetters (stops : List Char) (value : Bool) : Nat → List Char → Reader (List Char × Char)
  | 0, _ => malformed
  | fuel + 1, done => do
    let c ← require
    if c ∈ stops then return (done, c)
    if (option? c value ⟨false, false, false, false, false⟩).isNone then malformed
    optionLetters stops value fuel (c :: done)

/-- Options changed by letters. -/
def applyOptions (letters : List Char) (value : Bool) (o : Options) : Options :=
  letters.foldl (fun o c => (option? c value o).getD o) o

/-- Options at the front of a group: for the whole pattern, or for this group alone. -/
inductive GroupOptions where
  | whole
  | inside (o : Options)

/-- Options after the question mark of a group. -/
def groupOptions (o : Options) : Reader GroupOptions := do
  let fuel := (← get).rest.length + 1
  let (on, stop) ← optionLetters [')', ':', '-'] true fuel []
  if on.contains 'a' && on.contains 'u' then malformed
  if stop = ')' then
    if on.isEmpty then malformed
    modify fun s => { s with
      options := applyOptions on true s.options
      letters := on ++ s.letters }
    return .whole
  else if stop = ':' then
    if on.isEmpty then malformed
    return .inside (applyOptions on true o)
  else
    let (off, _) ← optionLetters [':'] false fuel []
    if off.isEmpty || off.any on.contains then malformed
    return .inside (applyOptions off false (applyOptions on true o))

/-- The least and greatest width of a pattern, given those of the groups; no greatest one stands
for any. -/
def width (groups : List (Nat × Nat × Option Nat)) : Pattern → Nat × Option Nat
  | .empty => (0, some 0)
  | .fail => (0, some 0)
  | .test _ => (1, some 1)
  | .anchor _ => (0, some 0)
  | .seq p q =>
    let (a, b) := width groups p
    let (c, d) := width groups q
    (a + c, do return (← b) + (← d))
  | .alt p q =>
    let (a, b) := width groups p
    let (c, d) := width groups q
    (min a c, do return max (← b) (← d))
  | .group _ p => width groups p
  | .repeated p least most _ =>
    let (a, b) := width groups p
    (a * least, if b = some 0 ∨ most = some 0 then some 0 else do return (← b) * (← most))
  | .again number _ => ((groups.find? (·.1 = number)).map (·.2)).getD (0, some 0)
  | .ahead _ _ => (0, some 0)
  | .behind _ _ _ => (0, some 0)
  | .atomic p => width groups p
  | .ifGroup _ p q =>
    let (a, b) := width groups p
    let (c, d) := width groups q
    (min a c, do return max (← b) (← d))

/-- The widths of the groups inside a pattern, added to those known. -/
def groupWidths (known : List (Nat × Nat × Option Nat)) :
    Pattern → List (Nat × Nat × Option Nat)
  | .group n p =>
    let inner := groupWidths known p
    (n, width inner p) :: inner
  | .seq p q => groupWidths (groupWidths known p) q
  | .alt p q => groupWidths (groupWidths known p) q
  | .repeated p _ _ _ => groupWidths known p
  | .ahead _ p => groupWidths known p
  | .behind _ _ p => groupWidths known p
  | .atomic p => groupWidths known p
  | .ifGroup _ p q => groupWidths (groupWidths known p) q
  | _ => known

/-- A part as it is read, with what a repetition after it needs to know. -/
inductive Item where
  | part (p : Pattern)
  /-- An anchor cannot be repeated. -/
  | anchored (p : Pattern)
  /-- Something that is repeated already. -/
  | rounds (p : Pattern)

/-- The pattern of a part. -/
def Item.pattern : Item → Pattern
  | .part p => p
  | .anchored p => p
  | .rounds p => p

/-- Parts in a row; `done` has the last one first. -/
def sequence (done : List Item) : Pattern :=
  done.foldl (fun q i => if q = .empty then i.pattern else .seq i.pattern q) .empty

/-- A part that is no repetition and no group. -/
def plainItem (o : Options) (c : Char) : Reader Item := do
  if c = '\\' then
    match ← escape o with
    | .anchor a => return .anchored (.anchor a)
    | p => return .part p
  else if c = '.' then return .part (.test (.any o.dotAll))
  else if c = '^' then
    return .anchored (.anchor (if o.multiline then .lineStart else .textStart))
  else if c = '$' then
    return .anchored (.anchor (if o.multiline then .lineEnd else .lastLineEnd))
  else if c = '[' then
    let negated ← take '^'
    let items ← setItems o ((← get).rest.length + 1) []
    return .part (.test (.set negated items o.folding))
  else return .part (literal o c)

/-- The last part repeated. -/
def repeatLast (least : Nat) (most : Option Nat) (done : List Item) : Reader (List Item) := do
  match done with
  | .part p :: before =>
    if ← take '?' then
      return .rounds (.repeated p least most .lazy) :: before
    let greed := if ← take '+' then Greed.possessive else Greed.greedy
    return .rounds (.repeated p least most greed) :: before
  | _ => malformed

/-- Pass over a comment in verbose mode. -/
def skipComment : Reader Unit := do
  modify fun s => { s with rest := (s.rest.dropWhile (· != '\n')).drop 1 }

/-- Blanks that verbose mode passes over. -/
def isPatternBlank (c : Char) : Bool :=
  c == ' ' || (9 ≤ c.toNat && c.toNat ≤ 13)

/-- Open a group and give it its number. -/
def openGroup (name : Option String) : Reader Nat := do
  let s ← get
  match name with
  | some n => if s.names.any (·.1 = n) then malformed
  | none => pure ()
  set { s with
    nextGroup := s.nextGroup + 1
    openGroups := s.nextGroup :: s.openGroups
    names := (name.map fun n => (n, s.nextGroup)).toList ++ s.names }
  return s.nextGroup

/-- The group that a name stands for. -/
def namedGroup (cs : List Char) : Reader Nat := do
  if !isGroupName cs then malformed
  match (← get).names.find? (·.1 = String.ofList cs) with
  | some (_, number) => return number
  | none => malformed

/-- Close a group or part of one. -/
def closing : Reader Unit := do
  if !(← take ')') then malformed

/-- About as many calls deep the stack of a reader may get. -/
def maxNesting : Nat := 960

/-- Read something by a number of further calls inside each other. -/
def nested {α : Type} (calls : Nat) (read : Reader α) : Reader α := do
  let outer := (← get).nesting
  if maxNesting < outer + calls then throw (.fault .tooDeep)
  modify fun s => { s with nesting := outer + calls }
  let a ← read
  modify fun s => { s with nesting := outer }
  return a

mutual

/-- Alternatives up to a closing bracket or the end. Options for the whole pattern, which stand in
front of its first alternative, are in force in the others as well. -/
def alternatives : Nat → Options → Reader Pattern
  | 0, _ => malformed
  | fuel + 1, o => do
    let outer := (← get).nesting
    let first ← items fuel o []
    if ← take '|' then
      modify fun s => { s with atStart := false }
      let whole := (← get).options
      return .alt first (← alternatives fuel (if outer = 0 then whole else o))
    else return first

/-- Parts in a row up to a bar, a closing bracket or the end; `done` has the last one first. -/
def items : Nat → Options → List Item → Reader Pattern
  | 0, _, _ => malformed
  | fuel + 1, o, done => do
    match ← peek with
    | none => return sequence done
    | some c =>
      if c = '|' ∨ c = ')' then return sequence done
      discard next
      if o.verbose && isPatternBlank c then items fuel o done
      else if o.verbose && c == '#' then
        skipComment
        items fuel o done
      else if c = '*' then items fuel o (← repeatLast 0 none done)
      else if c = '+' then items fuel o (← repeatLast 1 none done)
      else if c = '?' then items fuel o (← repeatLast 0 (some 1) done)
      else if c = '{' then
        match ← bounds with
        | some (least, most) => items fuel o (← repeatLast least most done)
        | none => items fuel o (.part (literal o c) :: done)
      else if c = '(' then groupItem fuel o done
      else items fuel o ((← plainItem o c) :: done)

/-- A group after its opening bracket, and the parts after it. -/
def groupItem : Nat → Options → List Item → Reader Pattern
  | 0, _, _ => malformed
  | fuel + 1, o, done => do
    if !(← take '?') then
      let number ← openGroup none
      let p ← inGroup fuel o number
      items fuel o (.part p :: done)
    else
      let c ← require
      if c = ':' then
        let p ← within fuel o
        items fuel o (.part p :: done)
      else if c = '>' then
        let p ← within fuel o
        items fuel o (.part (.atomic p) :: done)
      else if c = '#' then
        let rest := (← get).rest.dropWhile (· != ')')
        if rest.isEmpty then malformed
        modify fun s => { s with rest := rest.drop 1 }
        items fuel o done
      else if c = 'P' then
        if ← take '<' then
          let name ← takeUntil '>'
          if !isGroupName name then malformed
          let number ← openGroup (some (String.ofList name))
          let p ← inGroup fuel o number
          items fuel o (.part p :: done)
        else
          if !(← take '=') then malformed
          let number ← namedGroup (← takeUntil ')')
          items fuel o (.part (← reference o number) :: done)
      else if c = '=' ∨ c = '!' then
        let p ← within fuel o
        items fuel o (.part (.ahead (c = '!') p) :: done)
      else if c = '<' then
        let sign ← require
        if sign ≠ '=' ∧ sign ≠ '!' then malformed
        let outer := (← get).behindFrom
        modify fun s => { s with behindFrom := s.behindFrom <|> some s.nextGroup }
        let p ← within fuel o
        modify fun s => { s with behindFrom := outer }
        items fuel o (.part (.behind (sign = '!') 0 p) :: done)
      else if c = '(' then
        let name ← takeUntil ')'
        let number ←
          if name.all Char.isDigit then number name else namedGroup name
        if number = 0 then malformed
        checkBehind number
        modify fun s => { s with mentioned := number :: s.mentioned, atStart := false }
        let yes ← nested 1 (items fuel o [])
        let no ← if ← take '|' then nested 1 (items fuel o []) else pure .empty
        closing
        items fuel o (.part (.ifGroup number yes no) :: done)
      else
        modify fun s => { s with rest := c :: s.rest }
        let before := (← get).atStart
        match ← groupOptions o with
        | .inside inner =>
          let p ← within fuel inner
          items fuel o (.part p :: done)
        | .whole =>
          if !before || !done.isEmpty then malformed
          items fuel (← get).options done

/-- The content of a group up to and with its closing bracket. -/
def within : Nat → Options → Reader Pattern
  | 0, _ => malformed
  | fuel + 1, o => do
    modify fun s => { s with atStart := false }
    let p ← nested 2 (alternatives fuel o)
    closing
    return p

/-- The content of a numbered group. -/
def inGroup : Nat → Options → Nat → Reader Pattern
  | 0, _, _ => malformed
  | fuel + 1, o, number => do
    let p ← within fuel o
    modify fun s => { s with openGroups := s.openGroups.filter (· != number) }
    return .group number p

end

/-- Look behinds get the width of their pattern, which must be fixed. -/
def fixWidths (groups : List (Nat × Nat × Option Nat)) : Pattern → Option Pattern
  | .behind negated _ p => do
    let q ← fixWidths groups p
    let (low, high) := width groups p
    if high = some low then some (.behind negated low q) else none
  | .seq p q => do return .seq (← fixWidths groups p) (← fixWidths groups q)
  | .alt p q => do return .alt (← fixWidths groups p) (← fixWidths groups q)
  | .group n p => do return .group n (← fixWidths groups p)
  | .repeated p least most greed => do return .repeated (← fixWidths groups p) least most greed
  | .ahead negated p => do return .ahead negated (← fixWidths groups p)
  | .atomic p => do return .atomic (← fixWidths groups p)
  | .ifGroup n p q => do return .ifGroup n (← fixWidths groups p) (← fixWidths groups q)
  | p => some p

/-- The number of groups of a pattern stays below this one. -/
def groupLimit : Nat := 1073741823

/-- The reader at the front of a pattern. -/
def ReaderState.start (o : Options) (cs : List Char) : ReaderState where
  rest := cs
  nextGroup := 1
  openGroups := []
  names := []
  mentioned := []
  behindFrom := none
  options := o
  letters := []
  atStart := true
  nesting := 0

/-- The pattern that a text stands for, under some options. -/
def compileWith (o : Options) (cs : List Char) : Except Refusal Compiled := do
  let (p, s) ← (alternatives (4 * cs.length + 4) o).run (.start o cs)
  if s.letters.contains 'a' && s.letters.contains 'u' then throw (.fault .opposedOptions)
  if !s.rest.isEmpty || groupLimit < s.nextGroup || s.mentioned.any (s.nextGroup ≤ ·) then
    throw .malformed
  match fixWidths (groupWidths [] p) p with
  | some q => return ⟨q, s.nextGroup - 1⟩
  | none => throw .malformed

/-- The options without any letter. -/
def Options.plain : Options :=
  ⟨false, false, false, false, false⟩

end MangaShelf.Pattern
