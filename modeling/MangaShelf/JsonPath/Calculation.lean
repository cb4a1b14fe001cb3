import MangaShelf.Json.Order
import MangaShelf.Json.Value
import MangaShelf.JsonPath.Syntax
import MangaShelf.Pattern.Matcher
import MangaShelf.Text.Integer

/-!
# Calculations and comparisons of paths

What the operators of paths make of two values, and when a value passes a comparison.
-/

namespace MangaShelf.JsonPath

/-- A list a number of times over. -/
def repeated {α : Type} (n : Int) (xs : List α) : List α :=
  (List.replicate n.toNat xs).flatten

/-- The greatest number of places that are counted. -/
def maxPlaces : Nat := Nat.pow 2 63 - 1

/-- A text or a list a number of times over; nothing for any other value. -/
def repeatedValue (n : Int) (v : Json) : Except Fault (Option Json) :=
  let times {α : Type} (xs : List α) : Except Fault (List α) :=
    if maxPlaces < n.natAbs || maxPlaces < n.toNat * xs.length then .error .tooOften
    else .ok (repeated n xs)
  match v with
  | .string s => do return some (.string (String.ofList (← times s.toList)))
  | .array vs => do return some (.array (← times vs))
  | _ => .ok none

/-- A number in floating point. -/
def floating : Json.Number → Except Fault Float
  | .float x => .ok x
  | .int n => if (Float.ofInt n).isInf then .error .tooLarge else .ok (Float.ofInt n)

/-- Calculate with two numbers. -/
def Calculation.numbers (op : Calculation) (a b : Json.Number) : Except Fault Json :=
  match op, a, b with
  | .plus, .int m, .int n => .ok (.int (m + n))
  | .minus, .int m, .int n => .ok (.int (m - n))
  | .times, .int m, .int n => .ok (.int (m * n))
  | .plus, a, b => do return .float ((← floating a) + (← floating b))
  | .minus, a, b => do return .float ((← floating a) - (← floating b))
  | .times, a, b => do return .float ((← floating a) * (← floating b))

/-- Calculate with two values: texts and lists can be joined and repeated; nothing when the
operation means nothing for the values. -/
def Calculation.apply (op : Calculation) (v w : Json) : Except Fault (Option Json) :=
  match Json.number? v, Json.number? w with
  | some a, some b => some <$> op.numbers a b
  | some (.int n), none => if op = .times then repeatedValue n w else .ok none
  | none, some (.int n) => if op = .times then repeatedValue n v else .ok none
  | _, _ =>
    match op, v, w with
    | .plus, .string s, .string t => .ok (some (.string (s ++ t)))
    | .plus, .array vs, .array ws => .ok (some (.array (vs ++ ws)))
    | _, _, _ => .ok none

/-- The results of calculations, one after the other; none if one of them means nothing. -/
def Calculation.results (op : Calculation) : List (Json × Json) → Except Fault (Option (List Json))
  | [] => .ok (some [])
  | (v, w) :: rest => do
    match ← op.apply v w with
    | none => return none
    | some first => return (← results op rest).map (first :: ·)

/-- The whole number of a value that is compared with one: fractions are cut off and texts are
read. -/
def wholeNumber? : Json → Except Fault (Option Int)
  | .bool b => .ok (some (if b then 1 else 0))
  | .int n => .ok (some n)
  | .float x =>
    match (Json.Number.float x).fraction? with
    | some (m, d) => .ok (some (m.tdiv d))
    | none => if x.isInf then .error .infinite else .ok none
  | .string s => .ok (Text.integer? s)
  | _ => .ok none

/-- A comparison of two values; those without an order pass none. A pattern is read whatever it is
compared with. -/
def Comparison.holds (c : Comparison) (v w : Json) : Except Fault Bool :=
  match c with
  | .equal => .ok (v.same w)
  | .differs => .ok !v.same w
  | .less => .ok ((Json.below? v w).getD false)
  | .greater => .ok ((Json.below? w v).getD false)
  | .atMost => .ok ((Json.below? v w).getD false || (v.same w && (Json.below? v w).isSome))
  | .atLeast => .ok ((Json.below? w v).getD false || (v.same w && (Json.below? w v).isSome))
  | .matches =>
    match w with
    | .string pattern =>
      match Pattern.compileWith .plain pattern.toList with
      | .ok compiled =>
        .ok (v.asString?.any fun s => (Pattern.search compiled.pattern s.toList).isSome)
      | .error refusal => .error (.badPattern refusal)
    | _ => .ok false

/-- A value passes a comparison with a constant. -/
def Constant.passes (k : Constant) (c : Comparison) (v : Json) : Except Fault Bool :=
  match k with
  | .text s => c.holds v (.string s)
  | .null => c.holds v .null
  | .float x => c.holds v (.float x)
  | .int n => whole v (.int n)
  | .bool b => whole v (.bool b)
where
  /-- Compare as whole numbers. -/
  whole (v w : Json) : Except Fault Bool :=
    match wholeNumber? v with
    | .ok (some m) => c.holds (.int m) w
    | .ok none => .ok false
    | .error fault => .error fault

end MangaShelf.JsonPath
