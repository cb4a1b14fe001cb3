import MangaShelf.Config.Issue
import MangaShelf.Json.Reader
import MangaShelf.Text.Blank
import MangaShelf.Text.Search

/-!
# Checks of plain values

Readers of the scalar and list values that configuration documents are made of, and of the fields
of a model. A field is looked up under its document key first and under its plain name second.
-/

namespace MangaShelf.Config

/-- A reader of a value. -/
abbrev Check (α : Type) := Json → Checked α

/-- The names of a field: the key that documents use, and the plain name. -/
structure FieldKey where
  name : String
  key : String
  deriving DecidableEq, Repr

/-- A field whose document key is its plain name. -/
def FieldKey.same (name : String) : FieldKey :=
  ⟨name, name⟩

namespace Check

/-- A text. -/
def string : Check String
  | .string s => .ok s
  | _ => .refuse .notString

/-- A text, or nothing for null. -/
def optional {α : Type} (check : Check α) : Check (Option α)
  | .null => .ok none
  | v => (check v).map some

/-- The words that are read as true and as false, in any case. -/
def trueWords : List String := ["1", "t", "y", "on", "yes", "true"]

/-- The words that are read as false, in any case. -/
def falseWords : List String := ["0", "f", "n", "no", "off", "false"]

/-- A truth value: itself, the numbers zero and one, or one of the words for it. -/
def bool : Check Bool
  | .bool b => .ok b
  | .int n =>
    if n = 0 then .ok false else if n = 1 then .ok true else .refuse .unreadableBool
  | .float x =>
    if x == 0.0 then .ok false
    else if x == 1.0 then .ok true
    else if x.floor == x && !x.isInf then .refuse .unreadableBool
    else .refuse .notBool
  | .string s =>
    let word := Text.lowerAscii s
    if word ∈ trueWords then .ok true
    else if word ∈ falseWords then .ok false
    else .refuse .unreadableBool
  | _ => .refuse .notBool

/-- Drop the underscores between digits; none may stand at an end or beside another. -/
def dropUnderscores (cs : List Char) : Option (List Char) :=
  if cs.head? = some '_' ∨ cs.getLast? = some '_' ∨ Text.occursIn ['_', '_'] cs then none
  else some (cs.filter (· != '_'))

/-- Blanks as number texts may have them around. -/
def isPadding (c : Char) : Bool :=
  Text.isBlank c && !(28 ≤ c.toNat && c.toNat ≤ 31)

/-- The whole number that a text spells: blanks around it, a sign, leading zeros, single
underscores between digits and a fraction of zeros are passed over. -/
def intOfText? (s : String) : Option Int := do
  let cs := Text.trimBoth isPadding s.toList
  let (negative, cs) :=
    match cs with
    | '-' :: rest => (true, rest)
    | '+' :: rest => (false, rest)
    | _ => (false, cs)
  let cs ←
    match Text.cutAt '.' cs with
    | (whole, some fraction) => if fraction.all (· == '0') then some whole else none
    | (whole, none) => some whole
  let digits ← dropUnderscores cs
  if digits.isEmpty || !digits.all Json.isDigit then none
  else
    let n : Int := Json.digitsValue digits
    some (if negative then -n else n)

/-- The number that a float without a fraction stands for; very large ones are refused. -/
def wholeFloat (x : Float) : Checked Int :=
  if x.abs < 9.2e18 then .ok x.toInt64.toInt else .refuse .intTooLong

/-- A whole number: itself, a truth value, a float without a fraction, or a text that spells it. -/
def int : Check Int
  | .int n => .ok n
  | .bool b => .ok (if b then 1 else 0)
  | .float x =>
    if x.isNaN || x.isInf then .refuse .notFinite
    else if x.floor == x then wholeFloat x
    else .refuse .fractionalInt
  | .string s =>
    if Json.maxDigits < s.length then .refuse .intTooLong
    else
      match intOfText? s with
      | some n => .ok n
      | none => .refuse .unreadableInt
  | _ => .refuse .notInt

/-- A text that spells a floating-point number. -/
def floatText (s : String) : Checked Float :=
  let cs := Text.trimBoth isPadding s.toList
  let (negative, cs) :=
    match cs with
    | '-' :: rest => (true, rest)
    | '+' :: rest => (false, rest)
    | _ => (false, cs)
  let word := String.ofList (cs.map Char.toLower)
  let signed (x : Float) : Float := if negative then -x else x
  if word = "inf" ∨ word = "infinity" then .ok (signed (1.0 / 0.0))
  else if word = "nan" then .ok (0.0 / 0.0)
  else
    match dropUnderscores cs with
    | none => .refuse .unreadableFloat
    | some cs =>
      let whole := cs.takeWhile Json.isDigit
      let rest := cs.dropWhile Json.isDigit
      let (fraction, rest) :=
        match rest with
        | '.' :: more => (more.takeWhile Json.isDigit, more.dropWhile Json.isDigit)
        | _ => ([], rest)
      let (exponent, rest) := (Json.exponentPart rest).getD (0, rest)
      if rest.isEmpty && !(whole ++ fraction).isEmpty then
        .ok (Json.floatOfDecimal negative (Json.digitsValue (whole ++ fraction))
          (exponent - fraction.length))
      else .refuse .unreadableFloat

/-- The items of a list, each with its own check and position. -/
def items {α : Type} (check : Check α) : Nat → List Json → Checked (List α)
  | _, [] => .ok []
  | i, v :: vs => List.cons <$> (check v).at_ (.index i) <*> items check (i + 1) vs

/-- A list. -/
def list {α : Type} (check : Check α) : Check (List α)
  | .array vs => items check 0 vs
  | _ => .refuse .notList

/-- One of the listed words. -/
def oneOf (choices : List String) : Check String
  | .string s => if s ∈ choices then .ok s else .refuse (.notOneOf choices)
  | _ => .refuse (.notOneOf choices)

/-- A text with at least one character. -/
def nonEmpty (v : Json) : Checked String :=
  (string v).bind fun s => if s = "" then .refuse (.tooShort 1) else .ok s

/-- The fields of a model; anything but an object is refused with `otherwise`. -/
def fields {α : Type} (otherwise : Problem) (read : List (String × Json) → Checked α) : Check α
  | .object members => read members
  | _ => .refuse otherwise

/-- The fields of the named model. -/
def model {α : Type} (name : String) (read : List (String × Json) → Checked α) : Check α :=
  fields (.notModel name) read

end Check

/-- Where a field stands among the members, and what stands there. -/
def FieldKey.find? (k : FieldKey) (members : List (String × Json)) : Option (String × Json) :=
  match Json.member? k.key members with
  | some v => some (k.key, v)
  | none => (Json.member? k.name members).map (k.name, ·)

/-- A field that may be left out. -/
def FieldKey.read {α : Type} (k : FieldKey) (absent : α) (check : Check α)
    (members : List (String × Json)) : Checked α :=
  match k.find? members with
  | some (key, v) => (check v).at_ (.key key)
  | none => .ok absent

/-- A field that must be there. -/
def FieldKey.require {α : Type} (k : FieldKey) (check : Check α)
    (members : List (String × Json)) : Checked α :=
  match k.find? members with
  | some (key, v) => (check v).at_ (.key key)
  | none => (Checked.refuse .missing).at_ (.key k.key)

/-- Which of its two names a field is written under. -/
inductive Naming where
  | plain
  | document
  deriving DecidableEq, Repr

/-- A field as a member of a written model. -/
def FieldKey.write (k : FieldKey) (naming : Naming) (v : Json) : String × Json :=
  match naming with
  | .plain => (k.name, v)
  | .document => (k.key, v)

end MangaShelf.Config
