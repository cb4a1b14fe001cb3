import MangaShelf.Decimal.Layout
import MangaShelf.Json.Value

/-!
# Writing JSON texts

A value as one line, or spread over indented lines. Characters outside the control range are
written as they are; so a written text never holds a line break of its own in the one-line form.
-/

namespace MangaShelf.Json

/-- The hexadecimal digit of a number below sixteen. -/
def hexDigit (n : Nat) : Char :=
  Nat.digitChar (n % 16)

/-- A character inside a quoted string. -/
def escapeChar (c : Char) : List Char :=
  if c = '"' then ['\\', '"']
  else if c = '\\' then ['\\', '\\']
  else if c = '\n' then ['\\', 'n']
  else if c = '\r' then ['\\', 'r']
  else if c = '\t' then ['\\', 't']
  else if c = '\x08' then ['\\', 'b']
  else if c = '\x0c' then ['\\', 'f']
  else if c.toNat < 32 then
    ['\\', 'u', '0', '0', hexDigit (c.toNat / 16), hexDigit c.toNat]
  else [c]

/-- A quoted string. -/
def quoted (s : String) : List Char :=
  '"' :: s.toList.flatMap escapeChar ++ ['"']

/-- A whole number in decimal digits. -/
def intDigits (n : Int) : List Char :=
  if n < 0 then '-' :: Nat.toDigits 10 n.natAbs else Nat.toDigits 10 n.natAbs

/-- What stands between the parts of a written array or object. -/
structure Spacing where
  /-- Between two members, and between a key and its value. -/
  comma : List Char
  colon : List Char
  /-- Spaces per level when each member has a line of its own. -/
  indent : Option Nat

/-- Everything on one line, a space after each comma and colon. -/
def Spacing.line : Spacing := ⟨[',', ' '], [':', ' '], none⟩

/-- A line per member, two spaces to a level. -/
def Spacing.lines : Spacing := ⟨[','], [':', ' '], some 2⟩

/-- The break before a member at `level`. -/
def Spacing.newline (sp : Spacing) (level : Nat) : List Char :=
  match sp.indent with
  | none => []
  | some width => '\n' :: List.replicate (width * level) ' '

mutual

/-- The characters of a value whose own members stand at `level + 1`. -/
def chars (sp : Spacing) (level : Nat) : Json → List Char
  | .null => ['n', 'u', 'l', 'l']
  | .bool true => ['t', 'r', 'u', 'e']
  | .bool false => ['f', 'a', 'l', 's', 'e']
  | .int n => intDigits n
  | .float x => (Decimal.Layout.json.render x).toList
  | .string s => quoted s
  | .array [] => ['[', ']']
  | .array (v :: vs) =>
    '[' :: sp.newline (level + 1) ++ chars sp (level + 1) v ++ charsItems sp (level + 1) vs ++
      sp.newline level ++ [']']
  | .object [] => ['{', '}']
  | .object ((k, v) :: rest) =>
    '{' :: sp.newline (level + 1) ++ quoted k ++ sp.colon ++ chars sp (level + 1) v ++
      charsMembers sp (level + 1) rest ++ sp.newline level ++ ['}']

/-- The further items of an array, each after its comma. -/
def charsItems (sp : Spacing) (level : Nat) : List Json → List Char
  | [] => []
  | v :: vs => sp.comma ++ sp.newline level ++ chars sp level v ++ charsItems sp level vs

/-- The further members of an object, each after its comma. -/
def charsMembers (sp : Spacing) (level : Nat) : List (String × Json) → List Char
  | [] => []
  | (k, v) :: rest =>
    sp.comma ++ sp.newline level ++ quoted k ++ sp.colon ++ chars sp level v ++
      charsMembers sp level rest

end

/-- A value on one line. -/
def render (v : Json) : String :=
  String.ofList (chars .line 0 v)

/-- A value on indented lines. -/
def renderLines (v : Json) : String :=
  String.ofList (chars .lines 0 v)

end MangaShelf.Json
