import MangaShelf.Json.Value

/-!
# Reading JSON texts

A reader for one value with blanks around it. It knows three number words beyond the standard
(`NaN`, `Infinity`, `-Infinity`), keeps the last of several members with one key, and takes whole
numbers of at most 4300 digits. Containers may be nested up to a given depth, which also makes the
reader total: a container reads its members one level deeper.
-/

namespace MangaShelf.Json

/-- Why a text is not a JSON value. -/
inductive ReadError where
  /-- A fault of form; counts the characters from the fault to the end. -/
  | malformed (rest : Nat)
  /-- A whole number with more digits than are read. -/
  | tooManyDigits
  /-- More containers inside each other than are read. -/
  | tooDeep
  deriving DecidableEq, Repr

/-! A part is read to its value and the characters after it. -/

/-- The fault stands where `cs` begins. -/
def fault {α : Type} (cs : List Char) : Except ReadError α :=
  .error (.malformed cs.length)

/-- The blanks between the parts of a text. -/
def isSpace (c : Char) : Bool :=
  c == ' ' || c == '\t' || c == '\n' || c == '\r'

/-- Pass over blanks. -/
def skipSpaces (cs : List Char) : List Char :=
  cs.dropWhile isSpace

/-- The digits 0 to 9. -/
def isDigit (c : Char) : Bool :=
  '0' ≤ c && c ≤ '9'

/-- The value of a hexadecimal digit. -/
def hexValue? (c : Char) : Option Nat :=
  if '0' ≤ c ∧ c ≤ '9' then some (c.toNat - '0'.toNat)
  else if 'a' ≤ c ∧ c ≤ 'f' then some (c.toNat - 'a'.toNat + 10)
  else if 'A' ≤ c ∧ c ≤ 'F' then some (c.toNat - 'A'.toNat + 10)
  else none

/-- The value of exactly `count` hexadecimal digits at the front. -/
def hexDigits? : Nat → Nat → List Char → Option (Nat × List Char)
  | 0, value, cs => some (value, cs)
  | _ + 1, _, [] => none
  | count + 1, value, c :: cs =>
    match hexValue? c with
    | none => none
    | some d => hexDigits? count (16 * value + d) cs

/-- The number written by a run of decimal digits. -/
def digitsValue (cs : List Char) : Nat :=
  cs.foldl (fun n c => 10 * n + (c.toNat - '0'.toNat)) 0

/-- The character of a one-letter escape. -/
def escaped? (c : Char) : Option Char :=
  if c = '"' then some '"'
  else if c = '\\' then some '\\'
  else if c = '/' then some '/'
  else if c = 'b' then some '\x08'
  else if c = 'f' then some '\x0c'
  else if c = 'n' then some '\n'
  else if c = 'r' then some '\r'
  else if c = 't' then some '\t'
  else none

/-- A character from a code; half of a surrogate pair on its own stands for no character. -/
def charOfCode (n : Nat) : Char :=
  if n < 0xD800 ∨ (0xDFFF < n ∧ n < 0x110000) then Char.ofNat n else '\uFFFD'

/-- The character of an escape by code, whose `u` is read already, and what follows it: two
escapes that form a surrogate pair are one character. -/
def codeEscape? (cs : List Char) : Option (Char × List Char) :=
  match hexDigits? 4 0 cs with
  | none => none
  | some (_, []) => none
  | some (high, rest) =>
    if 0xD800 ≤ high ∧ high ≤ 0xDBFF then
      match rest with
      | '\\' :: 'u' :: more =>
        match hexDigits? 4 0 more with
        | some (low, after) =>
          if 0xDC00 ≤ low ∧ low ≤ 0xDFFF ∧ after ≠ [] then
            some (Char.ofNat (0x10000 + (high - 0xD800) * 0x400 + (low - 0xDC00)), after)
          else some (charOfCode high, rest)
        | none => if more.length ≤ 4 then some (charOfCode high, rest) else none
      | _ => some (charOfCode high, rest)
    else some (charOfCode high, rest)

/-- The rest of a quoted string. `start` counts the characters from its opening quote on, `done`
holds what is read, last character first; the fuel is the number of characters left. -/
def stringTail (start : Nat) : Nat → List Char → List Char → Except ReadError (String × List Char)
  | 0, _, _ => .error (.malformed start)
  | _ + 1, _, [] => .error (.malformed start)
  | fuel + 1, done, c :: cs =>
    if c = '"' then .ok (String.ofList done.reverse, cs)
    else if c = '\\' then
      match cs with
      | [] => .error (.malformed start)
      | e :: rest =>
        if e = 'u' then
          match codeEscape? rest with
          | some (d, after) => stringTail start fuel (d :: done) after
          | none => fault cs
        else
          match escaped? e with
          | some d => stringTail start fuel (d :: done) rest
          | none => fault (c :: cs)
    else if c.toNat < 32 then fault (c :: cs)
    else stringTail start fuel (c :: done) cs

/-- A quoted string whose opening quote is read already. -/
def readString (cs : List Char) : Except ReadError (String × List Char) :=
  stringTail (cs.length + 1) (cs.length + 1) [] cs

/-- The number `± mantissa * 10 ^ exponent`, rounded to the nearest double. -/
def floatOfDecimal (negative : Bool) (mantissa : Nat) (exponent : Int) : Float :=
  let magnitude := ((Nat.toDigits 10 mantissa).length : Int) + exponent
  let x : Float :=
    if mantissa = 0 || magnitude < -400 then 0.0
    else if 400 < magnitude then 1.0 / 0.0
    else if exponent < 0 then Float.ofScientific mantissa true exponent.natAbs
    else Float.ofScientific mantissa false exponent.natAbs
  if negative then -x else x

/-- The digits after a decimal point, if there is a point with digits. -/
def fractionDigits (cs : List Char) : Option (List Char × List Char) :=
  match cs with
  | '.' :: d :: rest =>
    if isDigit d then some (d :: rest.takeWhile isDigit, rest.dropWhile isDigit) else none
  | _ => none

/-- The exponent of a number, if there is a mark with digits. -/
def exponentPart (cs : List Char) : Option (Int × List Char) :=
  let digits (sign : Int) (ds : List Char) : Option (Int × List Char) :=
    match ds with
    | d :: rest =>
      if isDigit d then
        some (sign * digitsValue (d :: rest.takeWhile isDigit), rest.dropWhile isDigit)
      else none
    | [] => none
  match cs with
  | e :: rest =>
    if e = 'e' ∨ e = 'E' then
      match rest with
      | '-' :: ds => digits (-1) ds
      | '+' :: ds => digits 1 ds
      | ds => digits 1 ds
    else none
  | [] => none

/-- The most digits of a whole number that is read. -/
def maxDigits : Nat := 4300

/-- A number whose sign is read already; `none` where no digit stands. -/
def readNumber (negative : Bool) (cs : List Char) : Option (Except ReadError (Json × List Char)) :=
  match cs with
  | [] => none
  | c :: rest =>
    if isDigit c then
      let whole := if c = '0' then ['0'] else c :: rest.takeWhile isDigit
      let after := if c = '0' then rest else rest.dropWhile isDigit
      let (fraction, hasFraction, after) :=
        match fractionDigits after with
        | some (ds, more) => (ds, true, more)
        | none => ([], false, after)
      let (exponent, hasExponent, after) :=
        match exponentPart after with
        | some (e, more) => (e, true, more)
        | none => (0, false, after)
      if hasFraction || hasExponent then
        some (.ok (.float (floatOfDecimal negative (digitsValue (whole ++ fraction))
          (exponent - fraction.length)), after))
      else if maxDigits < whole.length then some (.error .tooManyDigits)
      else
        let n : Int := digitsValue whole
        some (.ok (.int (if negative then -n else n), after))
    else none

/-- The words that stand for a value. -/
def readWord (cs : List Char) : Option (Json × List Char) :=
  match cs with
  | 'n' :: 'u' :: 'l' :: 'l' :: rest => some (.null, rest)
  | 't' :: 'r' :: 'u' :: 'e' :: rest => some (.bool true, rest)
  | 'f' :: 'a' :: 'l' :: 's' :: 'e' :: rest => some (.bool false, rest)
  | 'N' :: 'a' :: 'N' :: rest => some (.float (0.0 / 0.0), rest)
  | 'I' :: 'n' :: 'f' :: 'i' :: 'n' :: 'i' :: 't' :: 'y' :: rest => some (.float (1.0 / 0.0), rest)
  | '-' :: 'I' :: 'n' :: 'f' :: 'i' :: 'n' :: 'i' :: 't' :: 'y' :: rest =>
    some (.float (-(1.0 / 0.0)), rest)
  | _ => none

/-- The items of an array up to its closing bracket; the text begins with an item. -/
def readItems (value : List Char → Except ReadError (Json × List Char)) :
    Nat → List Json → List Char → Except ReadError (List Json × List Char)
  | 0, _, cs => fault cs
  | fuel + 1, done, cs => do
    let (v, rest) ← value cs
    match skipSpaces rest with
    | [] => fault []
    | c :: after =>
      if c = ']' then .ok ((v :: done).reverse, after)
      else if c = ',' then
        let next := skipSpaces after
        if next.head? = some ']' then fault (c :: after)
        else readItems value fuel (v :: done) next
      else fault (c :: after)

/-- The members of an object up to its closing brace; the text begins with a key. -/
def readMembers (value : List Char → Except ReadError (Json × List Char)) :
    Nat → List (String × Json) → List Char → Except ReadError (List (String × Json) × List Char)
  | 0, _, cs => fault cs
  | fuel + 1, done, cs =>
    match cs with
    | '"' :: keyChars => do
      let (key, rest) ← readString keyChars
      match skipSpaces rest with
      | ':' :: afterColon =>
        let (v, rest) ← value (skipSpaces afterColon)
        let members := setMember key v done
        match skipSpaces rest with
        | [] => fault []
        | c :: after =>
          if c = '}' then .ok (members, after)
          else if c = ',' then
            let next := skipSpaces after
            if next.head? = some '}' then fault (c :: after)
            else readMembers value fuel members next
          else fault (c :: after)
      | other => fault other
    | _ => fault cs

/-- A value at the front of a text, with at most `depth` containers inside each other. -/
def readValue : Nat → List Char → Except ReadError (Json × List Char)
  | depth, cs =>
    match cs with
    | '"' :: rest => do
      let (s, after) ← readString rest
      .ok (.string s, after)
    | '[' :: rest =>
      match depth with
      | 0 => .error .tooDeep
      | depth + 1 =>
        let inner := skipSpaces rest
        match inner with
        | ']' :: after => .ok (.array [], after)
        | _ => do
          let (items, after) ← readItems (readValue depth) (inner.length + 1) [] inner
          .ok (.array items, after)
    | '{' :: rest =>
      match depth with
      | 0 => .error .tooDeep
      | depth + 1 =>
        let inner := skipSpaces rest
        match inner with
        | '}' :: after => .ok (.object [], after)
        | _ => do
          let (members, after) ← readMembers (readValue depth) (inner.length + 1) [] inner
          .ok (.object members, after)
    | _ =>
      match readWord cs with
      | some found => .ok found
      | none =>
        match cs with
        | '-' :: digits => (readNumber true digits).getD (fault cs)
        | _ => (readNumber false cs).getD (fault cs)

/-- The containers that may be nested inside each other. -/
def maxDepth : Nat := 990

/-- The value that a whole text stands for. -/
def read (cs : List Char) : Except ReadError Json := do
  let (v, rest) ← readValue maxDepth (skipSpaces cs)
  match skipSpaces rest with
  | [] => .ok v
  | extra => fault extra

/-- The value that a whole text stands for. -/
def parse (s : String) : Except ReadError Json :=
  read s.toList

end MangaShelf.Json
