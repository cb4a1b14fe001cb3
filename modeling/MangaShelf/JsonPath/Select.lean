import MangaShelf.Json.Display
import MangaShelf.Json.Limits
import MangaShelf.JsonPath.Calculation
import MangaShelf.JsonPath.Parser

/-!
# Selecting by paths

The values that a path selects inside a value, in order. Each is kept with the way that led to it,
so that a path can go back to the value around it.
-/

namespace MangaShelf.JsonPath

/-- The last step on the way to a value. -/
inductive Label where
  | root
  | this
  | field (name : String)
  | index (position : Int)
  | named (text : String)
  deriving DecidableEq, Repr

/-- A value and the step to it. -/
structure Frame where
  value : Json
  label : Label

/-- A selected value with the values around it, the nearest first; or what lies outside all. -/
inductive Spot where
  | inside (frame : Frame) (up : List Frame)
  | outside

namespace Spot

/-- A value that stands alone. -/
def alone (v : Json) : Spot :=
  .inside ⟨v, .this⟩ []

/-- The value at a spot; outside there is nothing. -/
def value : Spot → Json
  | .inside frame _ => frame.value
  | .outside => .null

/-- The spots around a spot, itself first. -/
def frames : Spot → List Frame
  | .inside frame up => frame :: up
  | .outside => [⟨.null, .this⟩]

/-- A part of the value at a spot. -/
def part (s : Spot) (label : Label) (v : Json) : Spot :=
  .inside ⟨v, label⟩ s.frames

/-- The spot around. -/
def parent : Spot → Spot
  | .inside _ (frame :: up) => .inside frame up
  | _ => .outside

/-- The outermost spot. -/
def root (s : Spot) : Spot :=
  match s.frames.getLast? with
  | some frame => .inside ⟨frame.value, .root⟩ []
  | none => s

/-- The items of a list at a spot, with their positions. -/
def items (s : Spot) : List Spot :=
  match s.value with
  | .array vs => vs.zipIdx.map fun (v, i) => s.part (.index (i : Nat)) v
  | _ => []

/-- The members of an object at a spot. -/
def fields (s : Spot) : List Spot :=
  match s.value with
  | .object ms => ms.map fun (k, v) => s.part (.field k) v
  | _ => []

/-- The members called `name`. -/
def field (s : Spot) (name : String) : List Spot :=
  match s.value.get? name with
  | some v => [s.part (.field name) v]
  | none => []

/-- The item at a position, counted from the end if it is negative. -/
def index (s : Spot) (position : Int) : List Spot :=
  match s.value with
  | .array vs =>
    let i := if position < 0 then position + vs.length else position
    if i < 0 then []
    else
      match vs[i.toNat]? with
      | some v => [s.part (.index position) v]
      | none => []
  | _ => []

end Spot

/-- The positions of a slice of a list with `length` items. -/
def slicePositions (length : Nat) (start stop : Option Int) (step : Int) : List Nat :=
  let n : Int := length
  let clamp (low high i : Int) : Int :=
    let i := if i < 0 then i + n else i
    if i < low then low else if high < i then high else i
  if 0 < step then
    let a := match start with | some i => clamp 0 n i | none => 0
    let b := match stop with | some i => clamp 0 n i | none => n
    (List.range length).filterMap fun (k : Nat) =>
      let i := a + step * k
      if i < b then some i.toNat else none
  else
    let a := match start with | some i => clamp (-1) (n - 1) i | none => n - 1
    let b := match stop with | some i => clamp (-1) (n - 1) i | none => -1
    (List.range length).filterMap fun (k : Nat) =>
      let i := a + step * k
      if b < i then some i.toNat else none

/-- The slice of a list at a spot; without bounds also all members of an object. -/
def Spot.slice (s : Spot) (start stop step : Option Int) : Except Fault (List Spot) :=
  match s.value with
  | .array vs =>
    if step = some 0 then .error .zeroStep
    else
      .ok ((slicePositions vs.length start stop (step.getD 1)).filterMap fun (i : Nat) =>
        (vs[i]?).map (s.part (.index i)))
  | .object _ => .ok (if start.isNone && stop.isNone && step.isNone then s.fields else [])
  | _ => .ok []

/-- The members of the named fields; a star stands for all. -/
def Spot.named (s : Spot) (names : List String) : List Spot :=
  if names.contains "*" then
    match s.value with
    | .array _ => s.items
    | _ => s.fields
  else names.flatMap s.field

/-- About as many calls deep the stack of a search may get. -/
def maxCalls : Nat := 960

/-- What `right` selects at a spot and then at everything inside it, in order. The number counts the
calls that are left. -/
def descend (right : Nat → Spot → Except Fault (List Spot)) :
    Nat → Spot → Except Fault (List Spot)
  | 0, _ => .error .tooDeep
  | calls + 1, s => do
    let here ← right calls s
    let inside ← (s.items ++ s.fields).mapM (descend right calls)
    return here ++ inside.flatten

/-- Put an item into a sorted list, after all that are not greater than it: the place is found by
halving the part between `low` and `high`. -/
def insertionPoint (isLess : Json → Json → Except Fault Bool) (item : Json) (sorted : Array Json) :
    Nat → Nat → Nat → Except Fault Nat
  | 0, low, _ => .ok low
  | fuel + 1, low, high =>
    if low < high then do
      let middle := (low + high) / 2
      if ← isLess item (sorted[middle]?.getD .null) then
        insertionPoint isLess item sorted fuel low middle
      else insertionPoint isLess item sorted fuel (middle + 1) high
    else .ok low

/-- A list in order; equal items stay as they stand. -/
def sortBy (isLess : Json → Json → Except Fault Bool) (vs : List Json) :
    Except Fault (List Json) := do
  let sorted ← vs.foldlM (fun (sorted : Array Json) v => do
    let place ← insertionPoint isLess v sorted (sorted.size + 1) 0 sorted.size
    return (sorted.extract 0 place).push v ++ sorted.extract place sorted.size) #[]
  return sorted.toList

/-- The first value is smaller, or the two have no order. -/
def isLess (v w : Json) : Except Fault Bool :=
  match Json.below? v w with
  | some b => .ok b
  | none => .error (.unordered v.kind w.kind)

/-- Cut a text at a separator, at most `limit` times. The number counts the characters of a
separator that are still to be passed over. -/
def cutLimited (separator : List Char) : Option Nat → Nat → List Char → List (List Char)
  | _, _, [] => [[]]
  | limit, skip + 1, _ :: cs => cutLimited separator limit skip cs
  | limit, 0, c :: cs =>
    if limit ≠ some 0 ∧ separator.isPrefixOf (c :: cs) then
      [] :: cutLimited separator (limit.map (· - 1)) (separator.length - 1) cs
    else
      match cutLimited separator limit 0 cs with
      | [] => [[c]]
      | piece :: rest => (c :: piece) :: rest

/-- The text of a label. -/
def Label.text : Label → String
  | .root => "$"
  | .this => "\x60this\x60"
  | .field name => name
  | .index position => "[" ++ toString position ++ "]"
  | .named text => text

/-- What a named operator without arguments or with fixed ones makes of a spot. -/
def Spot.counted (s : Spot) : List Spot :=
  match s.value with
  | .string t => [.alone (.int t.length)]
  | .array vs => [.alone (.int vs.length)]
  | .object ms => [.alone (.int ms.length)]
  | _ => []

/-- The keys of an object. -/
def Spot.keys (s : Spot) : List Spot :=
  match s.value with
  | .object ms => ms.map fun (k, _) => .alone (.string k)
  | _ => []

/-- The last step to a spot, as a text. -/
def Spot.label (s : Spot) : List Spot :=
  match s.frames with
  | frame :: _ => [s.part (.named "\x60path\x60") (.string frame.label.text)]
  | [] => []

/-- A text with all matches of a pattern replaced, if that changes it. -/
def Spot.replaced (s : Spot) (pattern : Pattern.Compiled) (template : List Char) :
    Except Fault (List Spot) :=
  match s.value with
  | .string t =>
    match Pattern.substituteEach pattern template t.toList with
    | none => .error .badTemplate
    | some cs => .ok (if cs = t.toList then [] else [.alone (.string (String.ofList cs))])
  | v => .error (.notText v.kind)

/-- A piece of a text, counted from the end if the position is negative, or the list of all. -/
def Spot.piece (s : Spot) (separator : List Char) (position : Option Int) (limit : Option Nat) :
    List Spot :=
  match s.value with
  | .string t =>
    let pieces : Spot := .alone (.array ((cutLimited separator limit 0 t.toList).map fun cs =>
      .string (String.ofList cs)))
    match position with
    | none => [pieces]
    | some i => (pieces.index i).map fun found => .alone found.value
  | _ => []

/-- The value at a spot as a text. -/
def Spot.written (s : Spot) : Except Fault (List Spot) :=
  if s.value.isOverlong then .error .tooLongText else .ok [.alone (.string s.value.display)]

mutual

/-- What a path selects at a spot. The number counts the calls that are left. -/
def Path.find : Path → Nat → Spot → Except Fault (List Spot)
  | _, 0, _ => .error .tooDeep
  | .root, _ + 1, s => .ok [s.root]
  | .this, _ + 1, s => .ok [s]
  | .parent, _ + 1, s => .ok [s.parent]
  | .fields names, _ + 1, s => .ok (s.named names)
  | .indices positions, _ + 1, s => .ok (positions.flatMap s.index)
  | .slice start stop step, _ + 1, s => s.slice start stop step
  | .child p q, n + 1, s => do return (← (← p.find n s).mapM (q.find n)).flatten
  | .descendants p q, n + 1, s => do
    return (← (← p.find n s).mapM (descend q.find n)).flatten
  | .having negated p q, n + 1, s => do
    (← p.find n s).filterM fun t => do return (← q.find n t).isEmpty == negated
  | .union p q, n + 1, s => do return (← p.find n s) ++ (← q.find n s)
  | .intersection _ _, _ + 1, _ => .error .intersection
  | .filter conditions, n + 1, s => do
    let vs :=
      match s.value with
      | .array vs => vs
      | .object ms => ms.map (·.2)
      | _ => []
    let s : Spot := .inside ⟨.array vs, .this⟩ (s.frames.drop 1)
    s.items.filterM fun t => Test.allHold conditions n (.alone t.value)
  | .sorted keys, n + 1, s =>
    match s.value, keys with
    | .array vs, [] => do return [.alone (.array (← sortBy isLess vs))]
    | .object ms, [] => do
      return [.alone (.array (← sortBy isLess (ms.map fun (k, _) => .string k)))]
    | .array vs, _ :: _ => do
      let less (v w : Json) : Except Fault Bool := do
        return (← Path.compareBy keys n (.alone v) (.alone w)) == .lt
      return [.alone (.array (← sortBy less vs))]
    | _, _ => .error .unsortable
  | .count, _ + 1, s => .ok s.counted
  | .keys, _ + 1, s => .ok s.keys
  | .label, _ + 1, s => .ok s.label
  | .asText, _ + 1, s => s.written
  | .replaced pattern template, _ + 1, s => s.replaced pattern template
  | .piece separator position limit, _ + 1, s => .ok (s.piece separator position limit)
  | .calculation op p q, n + 1, s => do
    let operands : List (Json × Json) :=
      match ← p.find n s, ← q.find n s with
      | .inl v, .inl w => [(v, w)]
      | .inl v, .inr ws => ws.map fun w => (v, w)
      | .inr vs, .inl w => vs.map fun v => (v, w)
      | .inr vs, .inr ws => if vs.length = ws.length then vs.zip ws else []
    return ((← op.results operands).getD []).map Spot.alone

/-- An operand: a constant, or the values that a path selects. -/
def Operand.find : Operand → Nat → Spot → Except Fault (Json ⊕ List Json)
  | .values p, n, s => do return .inr ((← p.find n s).map Spot.value)
  | .int n, _, _ => .ok (.inl (.int n))
  | .float x, _, _ => .ok (.inl (.float x))
  | .text t, _, _ => .ok (.inl (.string t))

/-- A condition holds of a value: its path selects something, and if there is a comparison, one of
the selected values passes it. Where nothing is selected, only `!=` holds. -/
def Test.holds : Test → Nat → Spot → Except Fault Bool
  | .mk p comparison, n, s => do
    let found ← p.find n s
    match comparison with
    | none => return !found.isEmpty
    | some (c, k) =>
      let passed ← found.mapM fun t => k.passes c t.value
      return passed.any id || (found.isEmpty && c == .differs)

/-- All conditions hold of a value. -/
def Test.allHold : List Test → Nat → Spot → Except Fault Bool
  | [], _, _ => .ok true
  | t :: ts, n, s => do
    let first ← t.holds n s
    let rest ← Test.allHold ts n s
    return first && rest

/-- The order of two values by the first key in which they differ. A key that does not select one
value from each is passed over. -/
def Path.compareBy : List (Path × Bool) → Nat → Spot → Spot → Except Fault Ordering
  | [], _, _, _ => .ok .eq
  | (p, descending) :: rest, n, s, t => do
    match ← p.find n s, ← p.find n t with
    | [a], [b] =>
      if a.value.same b.value then Path.compareBy rest n s t
      else
        let less ← isLess a.value b.value
        return if less != descending then .lt else .gt
    | _, _ => Path.compareBy rest n s t

end

/-- The values that a path selects in a value. -/
def Path.select (p : Path) (v : Json) : Except Fault (List Json) := do
  (← p.find maxCalls (.inside ⟨v, .root⟩ [])).mapM fun s =>
    match s with
    | .inside frame _ => .ok frame.value
    | .outside => .error .outside

/-- The values that a written path selects; a malformed one selects nothing. -/
def select (path : String) (v : Json) : Except Fault (List Json) :=
  match parse path with
  | .ok p => p.select v
  | .error .malformed => .ok []
  | .error fault => .error fault

end MangaShelf.JsonPath
