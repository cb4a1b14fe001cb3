import MangaShelf.Selector.Token

/-!
# Selectors

The form of a selector: compounds of a name and conditions, joined by combinators, and what is
taken from the nodes that are found.
-/

namespace MangaShelf

namespace Selector

/-- How an attribute is compared with a value. -/
inductive AttributeTest where
  | exists
  | equals
  | differs
  | hasWord
  | dashMatch
  | beginsWith
  | endsWith
  | contains
  deriving DecidableEq, Repr

/-- The place of one compound seen from another one. -/
inductive Combinator where
  | descendant
  | child
  | adjacent
  | sibling
  deriving DecidableEq, Repr

mutual

/-- A name and the conditions after it. -/
inductive Compound where
  | mk (space name : Option String) (parts : List Part)

/-- A condition of a compound. -/
inductive Part where
  | hash (id : String)
  | hasClass (name : String)
  | hasAttribute (space : Option String) (name : String) (test : AttributeTest) (value : String)
  | pseudo (name : String)
  | function (name : String) (arguments : List Token)
  | negation (argument : Compound)
  | anyOf (arguments : List Compound)
  | relation (combinator : Combinator) (argument : Compound)

end

/-- What is taken from the nodes that a selector finds. -/
inductive Target where
  | element
  /-- A word after two colons. -/
  | word (name : String)
  /-- A word with arguments after two colons. -/
  | function (name : String) (arguments : List Token)
  deriving DecidableEq, Repr

end Selector

open Selector in
/-- One selector of a list. -/
structure Selector where
  first : Compound
  steps : List (Combinator × Compound)
  target : Target

namespace Selector

mutual

/-- How deep a compound is nested; each condition encloses all that stands before it. -/
def Compound.depth : Compound → Nat
  | .mk _ _ parts => partsDepth 1 parts

/-- How deep a compound is nested that goes on with some conditions, `depth` being the depth of all
before them. -/
def partsDepth (depth : Nat) : List Part → Nat
  | [] => depth
  | p :: ps => partsDepth (max depth p.depth + 1) ps

/-- How deep the arguments of a condition are nested. -/
def Part.depth : Part → Nat
  | .negation argument => argument.depth
  | .anyOf arguments => argumentsDepth arguments
  | .relation _ argument => argument.depth
  | _ => 0

/-- How deep the deepest of some arguments is nested. -/
def argumentsDepth : List Compound → Nat
  | [] => 0
  | c :: cs => max c.depth (argumentsDepth cs)

end

/-- How deep a selector is nested; each combinator encloses all that stands before it. -/
def depth (s : Selector) : Nat :=
  s.steps.foldl (fun depth (_, c) => max depth c.depth + 1) s.first.depth

/-- Why a selector cannot be used. -/
inductive Fault where
  /-- It is malformed, or uses what is not known. -/
  | rejected
  /-- It ends inside a list of alternatives. -/
  | cutShort
  /-- A minus sign stands where a combinator belongs. -/
  | strayMinus
  /-- It is nested too deep to be made ready. -/
  | tooDeep
  deriving DecidableEq, Repr

end Selector

end MangaShelf
