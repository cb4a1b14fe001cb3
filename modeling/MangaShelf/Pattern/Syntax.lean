import MangaShelf.Text.Blank
import MangaShelf.Text.Case
import MangaShelf.Text.Category

/-!
# Patterns

Regular expressions with groups, back references and look-around, with their options already
resolved: each part carries what it needs to know.
-/

namespace MangaShelf

namespace Pattern

/-- A named class of characters. -/
inductive Category where
  | digit
  | blank
  | word
  deriving DecidableEq, Repr

/-- A part of a character set. -/
inductive SetItem where
  | range (low high : Char)
  | category (kind : Category) (negated ascii : Bool)
  deriving DecidableEq, Repr

/-- Which letters count as the same. -/
inductive Folding where
  | exact
  /-- The letters from A to Z match in either case. -/
  | ascii
  /-- All letters match in either case. -/
  | full
  deriving DecidableEq, Repr

/-- What one character must be. -/
inductive CharTest where
  /-- Any character; a line feed only if `lineFeed` says so. -/
  | any (lineFeed : Bool)
  | one (c : Char) (folding : Folding)
  | set (negated : Bool) (items : List SetItem) (folding : Folding)
  deriving DecidableEq, Repr

/-- What must hold of the place between two characters. -/
inductive Anchor where
  | textStart
  | lineStart
  | textEnd
  /-- The end, or before a line feed that ends the text. -/
  | lastLineEnd
  | lineEnd
  | boundary (negated ascii : Bool)
  deriving DecidableEq, Repr

/-- How a repetition chooses the number of rounds. -/
inductive Greed where
  | greedy
  | lazy
  | possessive
  deriving DecidableEq, Repr

end Pattern

open Pattern in
/-- A pattern. -/
inductive Pattern where
  | empty
  | fail
  | test (t : CharTest)
  | anchor (a : Anchor)
  | seq (p q : Pattern)
  | alt (p q : Pattern)
  | group (number : Nat) (p : Pattern)
  | repeated (p : Pattern) (least : Nat) (most : Option Nat) (greed : Greed)
  | again (number : Nat) (folding : Folding)
  | ahead (negated : Bool) (p : Pattern)
  /-- The pattern matches the `width` characters before. -/
  | behind (negated : Bool) (width : Nat) (p : Pattern)
  | atomic (p : Pattern)
  | ifGroup (number : Nat) (yes no : Pattern)
  deriving DecidableEq, Repr

namespace Pattern

/-- A pattern with the number of its groups. -/
structure Compiled where
  pattern : Pattern
  groups : Nat
  deriving DecidableEq, Repr

/-- What goes wrong with a pattern or a template, other than that it is malformed. -/
inductive Fault where
  /-- A repetition of more rounds than are counted. -/
  | tooManyRounds
  /-- A number of more digits than are read. -/
  | tooManyDigits (count : Nat)
  /-- Options that exclude each other are set for the whole pattern. -/
  | opposedOptions
  /-- Groups are nested too deep. -/
  | tooDeep
  deriving DecidableEq, Repr

/-- Why a text is not taken as a pattern or as a template. -/
inductive Refusal where
  | malformed
  | fault (f : Fault)
  deriving DecidableEq, Repr

/-- The character is in the class. -/
def Category.has (k : Category) (ascii : Bool) (c : Char) : Bool :=
  match k with
  | .digit => if ascii then c.isDigit else Text.isDecimal c
  | .blank =>
    if ascii then c == ' ' || (9 ≤ c.toNat && c.toNat ≤ 13) else Text.isBlank c
  | .word => if ascii then c.isAlphanum || c == '_' else Text.isWordChar c

/-- The characters differ in case at most. -/
def Folding.same (f : Folding) (a b : Char) : Bool :=
  match f with
  | .exact => a == b
  | .ascii => a.toLower == b.toLower
  | .full => a == b || Text.lowerSimple a == Text.lowerSimple b

/-- The second character is taken for the first one. -/
def Folding.takes (f : Folding) (a b : Char) : Bool :=
  match f with
  | .full => a == b || (Text.lowerKin a).contains (Text.lowerSimple b).toNat
  | _ => f.same a b

/-- The characters of a set that are taken for a character. -/
def Folding.forms (f : Folding) (c : Char) : List Char :=
  match f with
  | .exact => [c]
  | .ascii => [c, c.toLower, c.toUpper]
  | .full => c :: (Text.lowerKin c).flatMap Text.withLower

/-- A character is in the part of a set. -/
def SetItem.has (i : SetItem) (folding : Folding) (c : Char) : Bool :=
  match i with
  | .range low high => (folding.forms c).any fun d => low ≤ d && d ≤ high
  | .category kind negated ascii => kind.has ascii c != negated

/-- The character is what the test asks for. -/
def CharTest.has (t : CharTest) (c : Char) : Bool :=
  match t with
  | .any lineFeed => lineFeed || c != '\n'
  | .one d folding => folding.takes c d
  | .set negated items folding => items.any (·.has folding c) != negated

end Pattern

end MangaShelf
