import MangaShelf.Json.Writer
import MangaShelf.Text.Category

/-!
# Values as labels

The text that a value is shown as where a label is expected. A string is shown as it is; inside a
list or an object it stands in quotes, single ones unless only a single quote occurs in it.
-/

namespace MangaShelf.Json

/-- A number in hexadecimal digits, filled up with zeros to `width`. -/
def hexPadded (width n : Nat) : List Char :=
  let digits := Nat.toDigits 16 n
  List.replicate (width - digits.length) '0' ++ digits

/-- A character inside a shown string. -/
def showChar (quote c : Char) : List Char :=
  if c = quote ∨ c = '\\' then ['\\', c]
  else if c = '\n' then ['\\', 'n']
  else if c = '\r' then ['\\', 'r']
  else if c = '\t' then ['\\', 't']
  else if Text.isVisible c then [c]
  else if c.toNat < 0x100 then '\\' :: 'x' :: hexPadded 2 c.toNat
  else if c.toNat < 0x10000 then '\\' :: 'u' :: hexPadded 4 c.toNat
  else '\\' :: 'U' :: hexPadded 8 c.toNat

/-- A string in quotes. -/
def showString (s : String) : List Char :=
  let cs := s.toList
  let quote := if cs.contains '\'' && !cs.contains '"' then '"' else '\''
  quote :: cs.flatMap (showChar quote) ++ [quote]

mutual

/-- A value inside another one. -/
def showInner : Json → List Char
  | .null => "None".toList
  | .bool b => if b then "True".toList else "False".toList
  | .int n => intDigits n
  | .float x => (Decimal.Layout.plain.render x).toList
  | .string s => showString s
  | .array vs => '[' :: showItems true vs ++ [']']
  | .object ms => '{' :: showMembers true ms ++ ['}']

/-- The items of a list; `first` tells that none stands before. -/
def showItems (first : Bool) : List Json → List Char
  | [] => []
  | v :: vs => (if first then [] else [',', ' ']) ++ showInner v ++ showItems false vs

/-- The members of an object. -/
def showMembers (first : Bool) : List (String × Json) → List Char
  | [] => []
  | (k, v) :: rest =>
    (if first then [] else [',', ' ']) ++ showString k ++ [':', ' '] ++ showInner v ++
      showMembers false rest

end

/-- The text of a value as a label. -/
def display : Json → String
  | .string s => s
  | v => String.ofList (showInner v)

/-- What kind of value it is, in one word. -/
def kind : Json → String
  | .null => "NoneType"
  | .bool _ => "bool"
  | .int _ => "int"
  | .float _ => "float"
  | .string _ => "str"
  | .array _ => "list"
  | .object _ => "dict"

end MangaShelf.Json
