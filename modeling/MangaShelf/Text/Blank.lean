/-!
# Blank characters

Blank characters in the sense of the Unicode standard, and what is cut off or split at them.
-/

namespace MangaShelf.Text

/-- White space, line and paragraph separators and the four information separators. -/
def isBlank (c : Char) : Bool :=
  let n := c.toNat
  (9 ≤ n && n ≤ 13) || (28 ≤ n && n ≤ 32) || n == 0x85 || n == 0xA0 || n == 0x1680 ||
    (0x2000 ≤ n && n ≤ 0x200A) || n == 0x2028 || n == 0x2029 || n == 0x202F || n == 0x205F ||
    n == 0x3000

/-- Drop the characters in `p` from both ends. -/
def trimBoth (p : Char → Bool) (cs : List Char) : List Char :=
  ((cs.dropWhile p).reverse.dropWhile p).reverse

/-- Drop the blanks at both ends of a text. -/
def trim (s : String) : String :=
  String.ofList (trimBoth isBlank s.toList)

/-- The maximal runs of characters outside `p`, from left to right; `run` is the one being read,
last character first. -/
def runs (p : Char → Bool) (run : List Char) : List Char → List (List Char)
  | [] => if run.isEmpty then [] else [run.reverse]
  | c :: cs =>
    if p c then
      if run.isEmpty then runs p [] cs else run.reverse :: runs p [] cs
    else runs p (c :: run) cs

/-- The words of a text: its maximal runs of non-blank characters. -/
def words (s : String) : List String :=
  (runs isBlank [] s.toList).map String.ofList

end MangaShelf.Text
