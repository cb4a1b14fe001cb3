import MangaShelf.Json.Value
import MangaShelf.Pattern.Template

/-!
# Paths

Expressions that select values inside a JSON value: steps to members, filters, sorts, named
operators and arithmetic.
-/

namespace MangaShelf.JsonPath

/-- What a filter compares with. -/
inductive Constant where
  | text (s : String)
  | int (n : Int)
  | bool (b : Bool)
  | float (x : Float)
  | null

/-- How a filter compares. -/
inductive Comparison where
  | equal
  | differs
  | less
  | atMost
  | greater
  | atLeast
  | matches
  deriving DecidableEq, Repr

/-- A calculation. -/
inductive Calculation where
  | plus
  | minus
  | times
  deriving DecidableEq, Repr

mutual

/-- A path. -/
inductive Path where
  | root
  | this
  | parent
  | fields (names : List String)
  | indices (positions : List Int)
  | slice (start stop step : Option Int)
  | child (p q : Path)
  | descendants (p q : Path)
  | having (negated : Bool) (p q : Path)
  | union (p q : Path)
  | intersection (p q : Path)
  | filter (conditions : List Test)
  | sorted (keys : List (Path × Bool))
  | count
  | keys
  | label
  | asText
  | replaced (pattern : Pattern.Compiled) (template : List Char)
  /-- One piece of a text that is cut at a separator, or all pieces; `limit` bounds the cuts. -/
  | piece (separator : List Char) (position : Option Int) (limit : Option Nat)
  | calculation (op : Calculation) (p q : Operand)

/-- A condition of a filter: something is there, or compares with a constant. -/
inductive Test where
  | mk (p : Path) (comparison : Option (Comparison × Constant))

/-- What is calculated with. -/
inductive Operand where
  | values (p : Path)
  | int (n : Int)
  | float (x : Float)
  | text (s : String)

end

/-- Why a path cannot be used. -/
inductive Fault where
  | malformed
  /-- A named operator whose arguments are malformed. -/
  | badOperator (text : String)
  /-- Intersections are read but cannot be selected. -/
  | intersection
  /-- A step led out of the value. -/
  | outside
  | zeroStep
  /-- Values to be sorted have no order. -/
  | unordered (first second : String)
  /-- A replacement in something else than a text. -/
  | notText (kind : String)
  | badTemplate
  /-- A comparison with a pattern that cannot be used. -/
  | badPattern (refusal : Pattern.Refusal)
  /-- A number in the path has more digits than are read. -/
  | tooManyDigits (count : Nat)
  /-- A number has more digits than are written. -/
  | tooLongText
  /-- A whole number does not fit into floating point. -/
  | tooLarge
  /-- An infinite number has no whole part. -/
  | infinite
  /-- Something is repeated more often than can be counted. -/
  | tooOften
  /-- Only lists and objects have an order. -/
  | unsortable
  /-- The path, or the value under it, is nested too deep. -/
  | tooDeep
  deriving DecidableEq, Repr

end MangaShelf.JsonPath
