import MangaShelf.Markup.Cursor
import MangaShelf.Selector.Syntax
import MangaShelf.Text.Category
import MangaShelf.Text.Case

/-!
# Queries

A selector made ready to be run: a walk over the page in steps, each with a test of the name and
conditions that every node found by the step must meet.
-/

namespace MangaShelf.Selector

/-- A number of siblings `step * n + offset` for some `n`. -/
structure Series where
  step : Int
  offset : Int
  deriving DecidableEq, Repr

/-- What must hold of an element. -/
inductive Condition where
  | always
  | never
  | isScope
  | isRoot
  | isEmpty
  | isLink
  | isChecked
  | isDisabled
  | isEnabled
  | onlyChild
  | onlyOfName (name : String)
  | named (name : String)
  | hasAttribute (name : String) (test : AttributeTest) (value : String)
  /-- The siblings before or after the element, of one name or of any, are as many as the series
  has as a member. -/
  | counted (after : Bool) (name : Option String) (series : Series)
  | containsText (text : String)
  | inLanguage (language : String)
  /-- The element directly after this one has the name. -/
  | followedBy (name : String)
  | hasDescendant (name : Option String) (inner : Condition)
  | hasChild (name : Option String)
  | hasFollowing (name : Option String)
  | not (c : Condition)
  | both (a b : Condition)
  | either (a b : Condition)
  deriving Repr

/-- One step of a walk. -/
structure Step where
  /-- The name that is asked for; any when there is none. -/
  name : Option String
  conditions : List Condition

/-- What is taken from the elements at the end of a walk. -/
inductive Taken where
  | elements
  | texts
  | values (name : String)
  | allValues
  deriving DecidableEq, Repr

/-- A walk from a context through the page. -/
structure Query where
  first : Step
  further : List (Combinator × Step)
  taken : Taken

/-- A compound as far as it is made ready. -/
structure Draft where
  name : Option String
  /-- Conditions that stand before a relation. -/
  fixed : List Condition
  condition : Option Condition
  /-- A relation has been read; further conditions then no longer see the name. -/
  related : Bool

namespace Draft

/-- Join a further condition with "and". -/
def add (d : Draft) (c : Condition) : Draft :=
  { d with condition := some (match d.condition with | none => c | some b => .both b c) }

/-- Join a further condition with "or". -/
def addEither (d : Draft) (c : Condition) : Draft :=
  { d with condition := some (match d.condition with | none => c | some b => .either b c) }

/-- Turn the name into a condition. -/
def nameAsCondition (d : Draft) : Draft :=
  if d.related then { d.add .never with name := none }
  else
    match d.name with
    | none => d
    | some n => { d.add (.named n) with name := none }

/-- All conditions. -/
def toStep (d : Draft) : Step :=
  ⟨d.name, d.fixed ++ d.condition.toList⟩

end Draft

/-- Characters that no text of a page query may hold. -/
def isUnfit (c : Char) : Bool :=
  (c.toNat < 32 && c != '\t' && c != '\n' && c != '\r') || c.toNat == 0xFFFE ||
    c.toNat == 0xFFFF

/-- A text that a query may hold. -/
def fit (s : String) : Except Fault String :=
  if s.toList.any isUnfit then .error .rejected else .ok s

/-- A name made of letters, digits and the marks that need no quoting. -/
def isPlainName (s : String) : Bool :=
  match s.toList with
  | c :: cs =>
    (c.isAlpha || c == '_') && cs.all fun d => d.isAlphanum || d == '_' || d == '.' || d == '-'
  | [] => false

/-- The name spaces that are known. -/
def isKnownSpace (s : String) : Bool :=
  s = "xml" || s = "re" || s = "set"

/-- A number with an optional sign. -/
def signedNumber? (cs : List Char) : Option Int :=
  match cs with
  | '-' :: ds => if ds.isEmpty || !ds.all Json.isDigit then none else some (-Json.digitsValue ds)
  | '+' :: ds => if ds.isEmpty || !ds.all Json.isDigit then none else some (Json.digitsValue ds)
  | ds => if ds.isEmpty || !ds.all Json.isDigit then none else some (Json.digitsValue ds)

/-- The text of an argument of a series. -/
def seriesText? : Token → Option (List Char)
  | .ident s => some s.toList
  | .number s => some s.toList
  | .mark c => some [c]
  | _ => none

/-- The series `an + b` of positions that arguments stand for. -/
def series? (args : List Token) : Option Series := do
  let cs := (← args.mapM seriesText?).flatten
  if cs = "odd".toList then return ⟨2, 1⟩
  if cs = "even".toList then return ⟨2, 0⟩
  match Text.cutAt 'n' cs with
  | (whole, none) => return ⟨0, ← signedNumber? whole⟩
  | (step, some offset) =>
    let a ←
      if step = [] ∨ step = ['+'] then some 1
      else if step = ['-'] then some (-1)
      else signedNumber? step
    let b ← if offset = [] then some 0 else signedNumber? offset
    return ⟨a, b⟩

/-- The only argument of a function, a name or a string. -/
def singleText (args : List Token) : Except Fault String :=
  match args with
  | [.ident s] => fit s
  | [.string s] => fit s
  | _ => .error .rejected

/-- The name of the element, where a condition counts elements of the same name. -/
def Draft.ownName (d : Draft) : Except Fault String :=
  match d.name with
  | some n => if d.related then .error .rejected else .ok n
  | none => .error .rejected

/-- Add the condition that counts siblings. -/
def Draft.addSeries (d : Draft) (after : Bool) (name : Option String) (args : List Token) :
    Except Fault Draft :=
  match series? args with
  | none => .error .rejected
  | some s => .ok (d.add (.counted after name ⟨s.step, s.offset - 1⟩))

/-- Words of pseudo-classes may be joined by hyphens or underscores. -/
def joined (name : String) : String :=
  Text.replaceAll name "-" "_"

/-- Add the condition of a pseudo-class. -/
def Draft.addPseudo (d : Draft) (name : String) : Except Fault Draft :=
  match joined name with
  | "root" => .ok (d.add .isRoot)
  | "scope" => .ok (d.add .isScope)
  | "empty" => .ok (d.add .isEmpty)
  | "link" => .ok (d.add .isLink)
  | "checked" => .ok (d.add .isChecked)
  | "disabled" => .ok (d.add .isDisabled)
  | "enabled" => .ok (d.add .isEnabled)
  | "first_child" => .ok (d.add (.counted false none ⟨0, 0⟩))
  | "last_child" => .ok (d.add (.counted true none ⟨0, 0⟩))
  | "only_child" => .ok (d.add .onlyChild)
  | "first_of_type" => do return d.add (.counted false (← d.ownName) ⟨0, 0⟩)
  | "last_of_type" => do return d.add (.counted true (← d.ownName) ⟨0, 0⟩)
  | "only_of_type" => do return d.add (.onlyOfName (← d.ownName))
  | "visited" => .ok (d.add .never)
  | "hover" => .ok (d.add .never)
  | "active" => .ok (d.add .never)
  | "focus" => .ok (d.add .never)
  | "target" => .ok (d.add .never)
  | _ => .error .rejected

/-- Add the condition of a pseudo-class with arguments. -/
def Draft.addFunction (d : Draft) (name : String) (args : List Token) : Except Fault Draft :=
  match joined name with
  | "nth_child" => d.addSeries false none args
  | "nth_last_child" => d.addSeries true none args
  | "nth_of_type" => do d.addSeries false (← d.ownName) args
  | "nth_last_of_type" => do d.addSeries true (← d.ownName) args
  | "contains" => do return d.add (.containsText (← singleText args))
  | "lang" => do return d.add (.inLanguage (Text.lower (← singleText args)))
  | _ => .error .rejected

/-- Add the condition that the element stands in a relation to one that meets `right`. -/
def Draft.addRelation (d : Draft) (combinator : Combinator) (right : Draft) : Draft :=
  let before := d.fixed ++ d.condition.toList
  match combinator with
  | .descendant =>
    { d with
      fixed := before ++ [.hasDescendant right.name (right.condition.getD .always)]
      related := true }
  | .child => ⟨d.name, before ++ [.hasChild right.name], right.condition, true⟩
  | .sibling => ⟨d.name, before ++ [.hasFollowing right.name], right.condition, true⟩
  | .adjacent => d.add (match right.name with | none => .never | some n => .followedBy n)

/-- A test of an attribute that no value can pass. -/
def isVain (test : AttributeTest) (value : String) : Bool :=
  match test with
  | .beginsWith => value.isEmpty
  | .endsWith => value.isEmpty
  | .contains => value.isEmpty
  | .hasWord => value.isEmpty || value.toList.any isSpace
  | _ => false

mutual

/-- A compound made ready. -/
def Compound.draft : Compound → Except Fault Draft
  | .mk space name parts => do
    let name ←
      match name with
      | none => pure none
      | some n => pure (some (Text.lower (← fit n)))
    let plain := match name with | none => true | some n => isPlainName n
    let start : Draft ←
      match space with
      | none =>
        if plain then pure ⟨name, [], none, false⟩
        else pure ⟨none, [], name.map .named, false⟩
      | some s =>
        if plain && isPlainName s && !isKnownSpace s then throw .rejected
        else do
          discard (fit s)
          pure ⟨none, [], some .never, false⟩
    draftParts start parts

/-- A compound with further conditions. -/
def draftParts (d : Draft) : List Part → Except Fault Draft
  | [] => .ok d
  | p :: ps => do draftParts (← draftPart d p) ps

/-- A compound with one further condition. -/
def draftPart (d : Draft) : Part → Except Fault Draft
  | .hash id => do return d.add (.hasAttribute "id" .equals (← fit id))
  | .hasClass name => do
    let value ← fit name
    return d.add (if isVain .hasWord value then .never else .hasAttribute "class" .hasWord value)
  | .hasAttribute space name test value => do
    let name := Text.lower (← fit name)
    let value ← fit value
    match space with
    | some s =>
      if isPlainName name && isPlainName s && !isKnownSpace s then throw .rejected
      else return d.add .never
    | none => return d.add (if isVain test value then .never else .hasAttribute name test value)
  | .pseudo name => d.addPseudo name
  | .function name args => d.addFunction name args
  | .negation argument => do
    let inner := (← argument.draft).nameAsCondition
    return d.add (match inner.condition with | none => .never | some c => .not c)
  | .anyOf arguments => draftAnyOf d arguments
  | .relation combinator argument => do return d.addRelation combinator (← argument.draft)

/-- A compound with alternatives, each joined with "or" to the conditions before it. -/
def draftAnyOf (d : Draft) : List Compound → Except Fault Draft
  | [] => .ok d
  | c :: cs => do
    let inner := (← c.draft).nameAsCondition
    draftAnyOf (match inner.condition with | none => d | some e => d.addEither e) cs

end

/-- A step after a combinator. Right after a sibling the name is part of the condition. -/
def stepOf (combinator : Combinator) (d : Draft) : Step :=
  if combinator = .adjacent then d.nameAsCondition.toStep else d.toStep

/-- What is taken from the nodes found. -/
def takenOf : Target → Except Fault Taken
  | .element => .ok .elements
  | .word name => if joined name = "text" then .ok .texts else .error .rejected
  | .function name args =>
    if joined name = "attr" then
      match singleText args with
      | .error e => .error e
      | .ok s =>
        if s = "*" then .ok .allValues
        else if isPlainName s then .ok (.values s)
        else
          match s.toList with
          | c :: cs =>
            if (Text.isAlphanumeric c && !Text.isDecimal c || c == '_') &&
                cs.all (fun d => Text.isWordChar d || d == '.' || d == '-') then
              .ok (.values s)
            else .error .rejected
          | [] => .error .rejected
    else .error .rejected

/-- The deepest nesting of a selector that can be made ready. -/
def maxDepth : Nat := 480

/-- A selector made ready to be run. -/
def query (s : Selector) : Except Fault Query := do
  if maxDepth < s.depth then throw .tooDeep
  let first ← s.first.draft
  let further ← s.steps.mapM fun (combinator, c) => do
    return (combinator, stepOf combinator (← c.draft))
  return ⟨first.toStep, further, ← takenOf s.target⟩

end MangaShelf.Selector
