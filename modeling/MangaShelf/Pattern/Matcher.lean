import MangaShelf.Pattern.Syntax

/-!
# Matching

A backtracking matcher. A pattern is run at a place with what comes after it; the first way through
that lets the rest succeed is taken. A repetition stops when a round consumes nothing, which bounds
the number of rounds by the number of characters left.
-/

namespace MangaShelf.Pattern

/-- A part of the text: its length, and the characters from its beginning on. -/
structure Span where
  length : Nat
  onward : List Char
  deriving DecidableEq, Repr

/-- The characters of a part. -/
def Span.text (s : Span) : List Char :=
  s.onward.take s.length

/-- A place in the text, with the groups that have matched so far. -/
structure Place where
  /-- The characters before the place, the nearest first. -/
  before : List Char
  after : List Char
  /-- How many characters are left. -/
  left : Nat
  groups : List (Nat × Span)
  left_eq : left = after.length

/-- What comes after a pattern. -/
abbrev Continuation := Place → Option Place

/-- The text that a group matched last. -/
def Place.group? (s : Place) (number : Nat) : Option (List Char) :=
  (s.groups.find? (·.1 = number)).map (·.2.text)

/-- The place between two parts of a text, before any group has matched. -/
def Place.between (before after : List Char) : Place :=
  ⟨before, after, after.length, [], rfl⟩

/-- One character further. -/
def Place.step? (s : Place) : Option (Char × Place) :=
  match s with
  | ⟨_, [], _, _, _⟩ => none
  | ⟨before, c :: cs, left, groups, left_eq⟩ =>
    some (c, ⟨c :: before, cs, left - 1, groups, by simp [left_eq]⟩)

/-- The part between an earlier place and this one. -/
def Place.since (s : Place) (earlier : Place) : Span :=
  ⟨earlier.left - s.left, earlier.after⟩

/-- The character is part of a word. -/
def isWordAt (ascii : Bool) (c : Option Char) : Bool :=
  match c with
  | none => false
  | some c => Category.word.has ascii c

/-- An anchor holds at a place. -/
def Anchor.holds (a : Anchor) (s : Place) : Bool :=
  match a with
  | .textStart => s.before.isEmpty
  | .lineStart => s.before.isEmpty || s.before.head? == some '\n'
  | .textEnd => s.after.isEmpty
  | .lastLineEnd => s.after.isEmpty || s.after == ['\n']
  | .lineEnd => s.after.isEmpty || s.after.head? == some '\n'
  | .boundary negated ascii =>
    (isWordAt ascii s.before.head? != isWordAt ascii s.after.head?) != negated

/-- Pass over the characters of a text. -/
def passText (folding : Folding) : List Char → Place → Option Place
  | [], s => some s
  | c :: cs, s =>
    match s.step? with
    | none => none
    | some (d, s) =>
      if folding.same c d then passText folding cs s else none

/-- `count` characters back. -/
def Place.back? (s : Place) : Nat → Option Place
  | 0 => some s
  | count + 1 =>
    match s with
    | ⟨[], _, _, _, _⟩ => none
    | ⟨c :: cs, after, left, groups, left_eq⟩ =>
      Place.back? ⟨cs, c :: after, left + 1, groups, by simp [left_eq]⟩ count

/-- Rounds of `body`, as many as possible first. `count` rounds are done, the last one began with
`last` characters left. -/
def greedyRounds (body : Continuation → Continuation) (least : Nat) (most : Option Nat)
    (k : Continuation) : Nat → Nat → Option Nat → Continuation
  | 0, _, _ => k
  | fuel + 1, count, last => fun s =>
    if count < least then
      body (greedyRounds body least most k fuel (count + 1) none) s
    else if most = some count ∨ last = some s.left then k s
    else
      match body (greedyRounds body least most k fuel (count + 1) (some s.left)) s with
      | some found => some found
      | none => k s

/-- Rounds of `body`, as few as possible first. -/
def lazyRounds (body : Continuation → Continuation) (least : Nat) (most : Option Nat)
    (k : Continuation) : Nat → Nat → Option Nat → Continuation
  | 0, _, _ => k
  | fuel + 1, count, last => fun s =>
    if count < least then
      body (lazyRounds body least most k fuel (count + 1) none) s
    else
      match k s with
      | some found => some found
      | none =>
        if most = some count ∨ last = some s.left then none
        else body (lazyRounds body least most k fuel (count + 1) (some s.left)) s

/-- Run a pattern and then what comes after it. -/
def run : Pattern → Continuation → Continuation
  | .empty, k => k
  | .fail, _ => fun _ => none
  | .test t, k => fun s =>
    match s.step? with
    | none => none
    | some (c, next) => if t.has c then k next else none
  | .anchor a, k => fun s => if a.holds s then k s else none
  | .seq p q, k => p.run (q.run k)
  | .alt p q, k => fun s =>
    match p.run k s with
    | some found => some found
    | none => q.run k s
  | .group number p, k => fun s =>
    p.run (fun t => k { t with groups := (number, t.since s) :: t.groups }) s
  | .repeated p least most greed, k => fun s =>
    let fuel := least + s.left + 2
    match greed with
    | .greedy => greedyRounds p.run least most k fuel 0 none s
    | .lazy => lazyRounds p.run least most k fuel 0 none s
    | .possessive => (greedyRounds p.run least most some fuel 0 none s).bind k
  | .again number folding, k => fun s =>
    match s.group? number with
    | none => none
    | some text => (passText folding text s).bind k
  | .ahead negated p, k => fun s =>
    match p.run some s with
    | some found => if negated then none else k { s with groups := found.groups }
    | none => if negated then k s else none
  | .behind negated width p, k => fun s =>
    match (s.back? width).bind (p.run some) with
    | some found => if negated then none else k { s with groups := found.groups }
    | none => if negated then k s else none
  | .atomic p, k => fun s => (p.run some s).bind k
  | .ifGroup number yes no, k => fun s =>
    if (s.group? number).isSome then yes.run k s else no.run k s

/-- A match: where it begins and where it ends. -/
structure Found where
  start : Place
  stop : Place

/-- The matched text. -/
def Found.text (f : Found) : List Char :=
  (f.stop.since f.start).text

/-- The text of a group; group zero is the whole match. -/
def Found.group? (f : Found) (number : Nat) : Option (List Char) :=
  if number = 0 then some f.text else f.stop.group? number

/-- The leftmost match from a place on. -/
def searchFrom (p : Pattern) : Nat → Place → Option Found
  | fuel, s =>
    match p.run some s with
    | some stop => some ⟨s, stop⟩
    | none =>
      match fuel, s.step? with
      | fuel + 1, some (_, next) => searchFrom p fuel next
      | _, _ => none

/-- The leftmost match in a text. -/
def search (p : Pattern) (text : List Char) : Option Found :=
  searchFrom p text.length (.between [] text)

end MangaShelf.Pattern
