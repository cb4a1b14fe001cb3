import MangaShelf.JsonPath.Syntax
import MangaShelf.JsonPath.Token
import MangaShelf.Pattern.Template
import MangaShelf.Text.Blank
import MangaShelf.Text.Integer
import MangaShelf.Text.Search

/-!
# Reading paths

A reader with binding strengths: of two operators the stronger one takes the operand between them,
and of two equal ones the left one.
-/

namespace MangaShelf.JsonPath

/-- A reader over the tokens that are left. -/
abbrev Reader := StateT (List Token) (Except Fault)

/-- The path is malformed. -/
def refuse {α : Type} : Reader α :=
  throw .malformed

/-- The next token without reading it. -/
def peek : Reader (Option Token) := do
  match (← get).head? with
  | some (.overlong digits) => throw (.tooManyDigits digits)
  | t => return t

/-- Read the next token. -/
def next : Reader (Option Token) := do
  let t ← peek
  modify List.tail
  return t

/-- The next token is the given mark. -/
def atMark (c : Char) : Reader Bool := do
  match ← peek with
  | some t => return t.isMark c
  | none => return false

/-- Read the given mark if it is next. -/
def take (c : Char) : Reader Bool := do
  if ← atMark c then
    discard next
    return true
  else return false

/-- Read the given mark. -/
def expect (c : Char) : Reader Unit := do
  if !(← take c) then refuse

/-- Further names after a first one, separated by commas. -/
def moreNames : Nat → List String → Reader (List String)
  | 0, _ => refuse
  | fuel + 1, done => do
    if ← take ',' then
      match ← next with
      | some (.name s _) => moreNames fuel (s :: done)
      | _ => refuse
    else return done.reverse

/-- Further positions after a first one, separated by commas. -/
def morePositions : Nat → List Int → Reader (List Int)
  | 0, _ => refuse
  | fuel + 1, done => do
    if ← take ',' then
      match ← next with
      | some (.number n) => morePositions fuel (n :: done)
      | _ => refuse
    else return done.reverse

/-- A number that may be left out. -/
def optionalNumber : Reader (Option Int) := do
  match ← peek with
  | some (.number n) =>
    discard next
    return some n
  | _ => return none

/-- A slice after its first bound. -/
def sliceTail (start : Option Int) : Reader Path := do
  expect ':'
  let stop ← optionalNumber
  if ← take ':' then return .slice start stop (← optionalNumber)
  else return .slice start stop none

/-- Positions, a slice or names inside brackets, up to the closing one. -/
def bracket : Reader Path := do
  let fuel := (← get).length + 1
  let p ←
    match ← peek with
    | some (.number n) => do
      discard next
      if ← atMark ':' then sliceTail (some n)
      else pure (.indices (← morePositions fuel [n]))
    | some (.name s _) => do
      discard next
      pure (.fields (← moreNames fuel [s]))
    | some (.mark '*') => do
      discard next
      pure (.slice none none none)
    | some (.mark ':') => sliceTail none
    | _ => refuse
  expect ']'
  return p

/-- A comparison by its mark. -/
def comparisonOf? (s : String) : Option Comparison :=
  if s = "==" then some .equal
  else if s = "!=" then some .differs
  else if s = "<" then some .less
  else if s = "<=" then some .atMost
  else if s = ">" then some .greater
  else if s = ">=" then some .atLeast
  else if s = "=~" then some .matches
  else none

/-- What a comparison is made with. -/
def constant : Reader Constant := do
  match ← next with
  | some (.name s quoted) => return if s = "null" ∧ ¬ quoted then .null else .text s
  | some (.number n) => return .int n
  | some (.float x) => return .float x
  | some (.bool b) => return .bool b
  | _ => refuse

/-- Blanks between the arguments of a named operator. -/
def dropBlanks (cs : List Char) : Option (List Char) :=
  let rest := cs.dropWhile Text.isBlank
  if rest.length < cs.length then some rest else none

/-- The form of a splitting operator: a separator that may be quoted, a position or a star for all
pieces, and the largest number of cuts, negative for any number. -/
def splitForm : String :=
  "\\Asplit\\(\\s*(['\"]?)(.+)\\1\\s*,\\s*(-?\\d+|\\*)\\s*,\\s*(-?\\d+)\\s*\\)"

/-- The arguments of a splitting operator. -/
def splitArguments (cs : List Char) : Option Path := do
  let form ← (Pattern.compileWith .plain splitForm.toList).toOption
  let found ← Pattern.search form.pattern cs
  let separator ← found.group? 2
  let position ← found.group? 3
  let cuts ← Text.integer? (String.ofList (← found.group? 4))
  let limit := if cuts < 0 then none else some cuts.toNat
  if position = ['*'] then return .piece separator none limit
  else return .piece separator (some (← Text.integer? (String.ofList position))) limit

/-- The last place where `mark`, blanks and a final bracket follow each other: the characters
before it and those between the blanks and the last bracket. -/
def cutArguments (done : List Char) : List Char → Option (List Char × List Char)
  | [] => none
  | c :: cs =>
    match cutArguments (c :: done) cs with
    | some found => some found
    | none =>
      match c, cs with
      | '/', ',' :: rest => do
        let rest ← dropBlanks rest
        let (inside, _) ← Text.cutAtLast ')' rest
        return (done.reverse, inside)
      | _, _ => none

/-- The arguments of a replacing operator: a pattern and a template. -/
def replaceArguments (cs : List Char) : Option Path := do
  let rest ← Text.stripPrefix? "sub(/".toList cs
  let (pattern, template) ← cutArguments [] rest
  let compiled ← (Pattern.compileWith .plain (Text.trimBoth Text.isBlank pattern)).toOption
  return .replaced compiled (Text.trimBoth Text.isBlank template)

/-- A named operator. -/
def named (s : String) : Reader Path :=
  let check (p : Option Path) : Reader Path :=
    match p with
    | some p => pure p
    | none => throw (.badOperator s)
  if s = "this" then pure .this
  else if s = "parent" then pure .parent
  else if s = "len" then pure .count
  else if s = "keys" then pure .keys
  else if s = "path" then pure .label
  else if s = "sorted" then pure (.sorted [])
  else if Text.startsWith s "split(" then check (splitArguments s.toList)
  else if Text.startsWith s "sub(" then check (replaceArguments s.toList)
  else if Text.startsWith s "str(" then
    check (if Text.startsWith s "str()" then some .asText else none)
  else refuse

/-- Binding strengths: sums, products, descents, steps, unions, intersections, conditions. -/
def strength : Token → Nat
  | .mark '+' => 1
  | .mark '-' => 1
  | .mark '*' => 2
  | .descend => 4
  | .mark '.' => 5
  | .mark '|' => 6
  | .mark '&' => 7
  | .name "where" false => 8
  | .name "wherenot" false => 9
  | _ => 0

/-- An operand of a calculation: a single name stands for itself. -/
def Path.toOperand : Path → Operand
  | .fields [s] => .text s
  | p => .values p

/-- Join two paths by an operator between them. -/
def join (t : Token) (p q : Path) : Path :=
  match t with
  | .descend => .descendants p q
  | .mark '.' => .child p q
  | .mark '|' => .union p q
  | .mark '&' => .intersection p q
  | .name "where" _ => .having false p q
  | _ => .having true p q

/-- The calculation of a mark. -/
def calculationOf? (t : Token) : Option Calculation :=
  match t with
  | .mark '+' => some .plus
  | .mark '-' => some .minus
  | .mark '*' => some .times
  | _ => none

/-- Read the mark of a calculation if it is next. -/
def takeCalculation : Reader (Option Calculation) := do
  match (← peek).bind calculationOf? with
  | some op =>
    discard next
    return some op
  | none => return none

/-- What stands before the mark of a calculation decides which constants may stand alone after it. -/
inductive Before where
  | path
  | int
  | float
  deriving DecidableEq, Repr

/-- The names that a number spells where a path is expected: its characters. -/
def numberNames (n : Int) : List String :=
  (toString n).toList.map Char.toString

mutual

/-- A path in which all operators are at least as strong as `least`. -/
def path : Nat → Nat → Reader Path
  | 0, _ => refuse
  | fuel + 1, least => do
    let first ← primary fuel
    further fuel least first

/-- The path that a path continues to. A calculation takes all that follows as its second
operand. -/
def further : Nat → Nat → Path → Reader Path
  | 0, _, _ => refuse
  | fuel + 1, least, p => do
    match ← peek with
    | none => return p
    | some t =>
      if t.isMark '[' ∧ least ≤ 3 then
        discard next
        let q ← brackets fuel
        further fuel least (.child p q)
      else
        let s := strength t
        if s = 0 ∨ s < least then return p
        discard next
        match calculationOf? t with
        | some op =>
          let q ← operand fuel .path
          further fuel least (.calculation op p.toOperand q)
        | none =>
          let q ← path fuel (s + 1)
          further fuel least (join t p q)

/-- The second operand of a calculation. A number that begins another calculation is part of
that. -/
def operand : Nat → Before → Reader Operand
  | 0, _ => refuse
  | fuel + 1, before => do
    match ← peek with
    | some (.number n) =>
      discard next
      match ← takeCalculation with
      | some op =>
        let q ← operand fuel .int
        return (← further fuel 0 (.calculation op (.int n) q)).toOperand
      | none =>
        if before = .float then return (← further fuel 0 (.fields (numberNames n))).toOperand
        else return .int n
    | some (.float x) =>
      discard next
      match ← takeCalculation with
      | some op =>
        let q ← operand fuel .float
        return (← further fuel 0 (.calculation op (.float x) q)).toOperand
      | none => if before = .int then refuse else return .float x
    | _ => return (← path fuel 0).toOperand

/-- A path that is no operator between two others. -/
def primary : Nat → Reader Path
  | 0 => refuse
  | fuel + 1 => do
    match ← next with
    | some (.mark c) =>
      if c = '$' then return .root
      else if c = '@' then return .this
      else if c = '*' then return .fields ["*"]
      else if c = '[' then bracket
      else if c = '(' then
        let p ← path fuel 0
        expect ')'
        return p
      else refuse
    | some (.name s quoted) =>
      if ¬ quoted ∧ (s = "where" ∨ s = "wherenot") then refuse
      return .fields (← moreNames fuel [s])
    | some (.operator s) => named s
    | some (.number n) =>
      match ← takeCalculation with
      | some op => return .calculation op (.int n) (← operand fuel .int)
      | none => return .fields (numberNames n)
    | some (.float x) =>
      match ← takeCalculation with
      | some op => return .calculation op (.float x) (← operand fuel .float)
      | none => refuse
    | _ => refuse

/-- What stands in brackets after a path, up to the closing one. -/
def brackets : Nat → Reader Path
  | 0 => refuse
  | fuel + 1 => do
    match ← peek with
    | some (.mark '?') =>
      discard next
      let tests ← conditions fuel
      expect ']'
      return .filter tests
    | some (.direction _) =>
      let keys ← sortKeys fuel []
      expect ']'
      return .sorted keys
    | _ => bracket

/-- The keys to sort by; `done` has the last one first. -/
def sortKeys : Nat → List (Path × Bool) → Reader (List (Path × Bool))
  | 0, _ => refuse
  | fuel + 1, done => do
    match ← peek with
    | some (.direction descending) =>
      discard next
      let p ← path fuel 0
      sortKeys fuel ((p, descending) :: done)
    | _ => return done.reverse

/-- The conditions of a filter, joined by ampersands. -/
def conditions : Nat → Reader (List Test)
  | 0 => refuse
  | fuel + 1 => do
    let first ← condition fuel
    if ← take '&' then return first ++ (← conditions fuel)
    else return first

/-- A condition, or conditions in brackets. -/
def condition : Nat → Reader (List Test)
  | 0 => refuse
  | fuel + 1 => do
    if ← atMark '(' then
      discard next
      let inner ← conditions fuel
      expect ')'
      match inner with
      | [.mk p none] => compared fuel (← further fuel 0 p)
      | _ => return inner
    else compared fuel (← path fuel 0)

/-- A path with the comparison after it, if there is one. -/
def compared : Nat → Path → Reader (List Test)
  | 0, _ => refuse
  | _ + 1, p => do
    match ← peek with
    | some (.comparison s) =>
      discard next
      match comparisonOf? s with
      | some c => return [.mk p (some (c, ← constant))]
      | none => refuse
    | _ => return [.mk p none]

end

/-- The path that a text stands for. -/
def parse (s : String) : Except Fault Path := do
  match tokens? s.length s.toList with
  | none => throw .malformed
  | some ts =>
    let (p, rest) ← (path (4 * ts.length + 4) 0).run ts
    if rest.isEmpty then return p else throw .malformed

end MangaShelf.JsonPath
