import MangaShelf.Text.Blank
import MangaShelf.Text.Category
import MangaShelf.Text.Search

/-!
# Whole numbers in texts

The whole number that a text spells: blanks around it, a sign, and decimal digits of any script with
single underscores between them.
-/

namespace MangaShelf.Text

/-- The value of the digits; `after` tells whether a digit stands before, so that an underscore may
follow. -/
def digitsTotal? (after : Bool) (total : Nat) : List Char → Option Nat
  | [] => if after then some total else none
  | c :: cs =>
    if c = '_' then if after then digitsTotal? false total cs else none
    else
      match decimalValue? c with
      | some d => digitsTotal? true (10 * total + d) cs
      | none => none

/-- The most digits that are read as a number. -/
def maxIntegerDigits : Nat := 4300

/-- The whole number that a text spells. -/
def integer? (s : String) : Option Int :=
  let cs := trimBoth isBlank s.toList
  let read (cs : List Char) : Option Nat :=
    if maxIntegerDigits < (cs.filter (· != '_')).length then none else digitsTotal? false 0 cs
  match cs with
  | '-' :: rest => (read rest).map fun n => -(n : Int)
  | '+' :: rest => (read rest).map fun n => (n : Int)
  | _ => (read cs).map fun n => (n : Int)

end MangaShelf.Text
