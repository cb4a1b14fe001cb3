import MangaShelf.Selector.Parser
import MangaShelf.Selector.Query

/-!
# Running queries

What a selector finds in a page, seen from a context: elements, texts or attribute values, each
once and in document order.
-/

namespace MangaShelf.Selector

open Markup (Cursor Node)

/-- What a query finds. -/
inductive Found where
  | element (c : Cursor)
  | text (s : String)

/-- A found thing with its position in document order: that of its element, or of the text itself,
or of the element followed by the rank of the attribute. -/
structure Placed where
  position : List Nat
  rank : Option Nat
  found : Found

/-- Blanks between words of an attribute value. -/
def isWordBlank (c : Char) : Bool :=
  c == ' ' || c == '\t' || c == '\r' || c == '\n'

/-- The words of an attribute value. -/
def valueWords (s : String) : List (List Char) :=
  ((Text.pieces isWordBlank s.toList).filter (!·.isEmpty))

/-- An attribute value passes a test. -/
def AttributeTest.holds (test : AttributeTest) (actual : Option String) (value : String) : Bool :=
  match test, actual with
  | .exists, a => a.isSome
  | .equals, a => a == some value
  | .differs, none => !value.isEmpty
  | .differs, some a => a != value
  | _, none => false
  | .hasWord, some a => (valueWords a).contains value.toList
  | .dashMatch, some a => a == value || (value.toList ++ ['-']).isPrefixOf a.toList
  | .beginsWith, some a => value.toList.isPrefixOf a.toList
  | .endsWith, some a => value.toList.isSuffixOf a.toList
  | .contains, some a => Text.occursIn value.toList a.toList

/-- The count is a member of the series. -/
def Series.has (s : Series) (count : Int) : Bool :=
  if s.step = 0 then count == s.offset
  else (count - s.offset) % s.step == 0 && 0 ≤ (count - s.offset) / s.step

/-- The elements among some nodes that have the name, if one is given. -/
def elementsNamed (name : Option String) (ns : List Node) : List Node :=
  ns.filter fun n =>
    match n.name?, name with
    | some a, some b => a == b
    | some _, none => true
    | none, _ => false

/-- The element is of one of the names. -/
def isOneOf (c : Cursor) (names : List String) : Bool :=
  match c.name? with
  | some n => names.contains n
  | none => false

/-- An input element that is shown. -/
def isVisibleInput (c : Cursor) : Bool :=
  isOneOf c ["input"] && c.attribute? "type" != some "hidden"

/-- The element stands inside a disabled one of the name. -/
def insideDisabled (c : Cursor) (name : String) : Bool :=
  c.up.any fun e => e.name == name && (Markup.attributeValue? e.attributes "disabled").isSome

/-- The element is disabled itself, or is a control in a disabled group. -/
def disabled (c : Cursor) : Bool :=
  ((c.attribute? "disabled").isSome &&
    (isVisibleInput c ||
      isOneOf c ["button", "select", "textarea", "command", "fieldset", "optgroup", "option"])) ||
  ((isVisibleInput c || isOneOf c ["button", "select", "textarea"]) && insideDisabled c "fieldset")

/-- The element can be used. -/
def enabled (c : Cursor) : Bool :=
  let off := (c.attribute? "disabled").isSome
  ((c.attribute? "href").isSome && isOneOf c ["a", "link", "area"]) ||
  (isOneOf c ["command", "fieldset", "optgroup"] && !off) ||
  ((isVisibleInput c || isOneOf c ["button", "select", "textarea", "keygen"]) &&
    !(off || insideDisabled c "fieldset")) ||
  (isOneOf c ["option"] && !(off || insideDisabled c "optgroup"))

/-- The element is ticked or chosen. -/
def ticked (c : Cursor) : Bool :=
  ((c.attribute? "selected").isSome && isOneOf c ["option"]) ||
  ((c.attribute? "checked").isSome && isOneOf c ["input", "command"] &&
    (c.attribute? "type" == some "checkbox" || c.attribute? "type" == some "radio"))

/-- The language that the element or the nearest enclosing one is marked with. -/
def language? (c : Cursor) : Option String :=
  match c.attribute? "lang" with
  | some l => some l
  | none => c.up.findSome? fun e => Markup.attributeValue? e.attributes "lang"

/-- The elements of a name, or all, among places. -/
def ofName (name : Option String) (cs : List Cursor) : List Cursor :=
  cs.filter fun c =>
    c.isElement &&
      match name with
      | none => true
      | some n => c.name? == some n

/-- A condition holds of an element; `scope` is the position of the context. -/
def Condition.holds (scope : List Nat) : Condition → Cursor → Bool
  | .always, _ => true
  | .never, _ => false
  | .isScope, c => c.place == scope
  | .isRoot, c => c.place.isEmpty
  | .isEmpty, c => c.node.children.all (fun n => !n.isElement) && c.node.textChars.isEmpty
  | .isLink, c => (c.attribute? "href").isSome && isOneOf c ["a", "link", "area"]
  | .isChecked, c => ticked c
  | .isDisabled, c => disabled c
  | .isEnabled, c => enabled c
  | .onlyChild, c =>
    !c.place.isEmpty && (elementsNamed none c.before).isEmpty &&
      (elementsNamed none c.after).isEmpty
  | .onlyOfName name, c =>
    !c.place.isEmpty && (elementsNamed name c.before).isEmpty &&
      (elementsNamed name c.after).isEmpty
  | .named name, c => c.name? == some name
  | .hasAttribute name test value, c => test.holds (c.attribute? name) value
  | .counted after name series, c =>
    series.has (elementsNamed name (if after then c.after else c.before)).length
  | .containsText text, c => Text.occursIn text.toList c.node.textChars
  | .inLanguage language, c =>
    match language? c with
    | some l => (language.toList ++ ['-']).isPrefixOf ((Text.lowerAscii l).toList ++ ['-'])
    | none => false
  | .followedBy name, c =>
    ((elementsNamed none c.after).head?.bind Node.name?) == some name
  | .hasDescendant name inner, c =>
    (ofName name (c.selfAndDescendants.drop 1)).any fun d => inner.holds scope d
  | .hasChild name, c => !(elementsNamed name c.node.children).isEmpty
  | .hasFollowing name, c => !(elementsNamed name c.after).isEmpty
  | .not a, c => !a.holds scope c
  | .both a b, c => a.holds scope c && b.holds scope c
  | .either a b, c => a.holds scope c || b.holds scope c

/-- The places that pass the test of a step. -/
def Step.keep (s : Step) (scope : List Nat) (cs : List Cursor) : List Cursor :=
  (ofName s.name cs).filter fun c => s.conditions.all fun k => k.holds scope c

/-- The places that a step reaches from a place. -/
def Combinator.reach (k : Combinator) (c : Cursor) : List Cursor :=
  match k with
  | .descendant => c.selfAndDescendants.flatMap Cursor.children
  | .child => c.children
  | .adjacent => ((c.following).filter Cursor.isElement).take 1
  | .sibling => c.following

/-- The order of positions: an element before what is inside it, else from left to right. -/
def before : List Nat → List Nat → Bool
  | [], _ => true
  | _ :: _, [] => false
  | a :: as, b :: bs => a < b || (a == b && before as bs)

/-- Places in document order, each once. -/
def inOrder (cs : List Cursor) : List Cursor :=
  let sorted := cs.mergeSort fun a b => before a.position b.position
  sorted.foldr (fun c rest =>
    match rest with
    | d :: _ => if c.place = d.place then rest else c :: rest
    | [] => [c]) []

/-- The places at the end of a walk from `cs`. -/
def walk (scope : List Nat) : List (Combinator × Step) → List Cursor → List Cursor
  | [], cs => cs
  | (k, s) :: rest, cs => walk scope rest (inOrder (cs.flatMap fun c => s.keep scope (k.reach c)))

/-- The step asks for nothing. -/
def Step.isBare (s : Step) : Bool :=
  s.name.isNone && s.conditions.isEmpty

/-- The text nodes among places. -/
def textsOf (cs : List Cursor) : List Placed :=
  cs.filterMap fun c => (c.node.ownText?).map fun s => ⟨c.position, none, .text s⟩

/-- The values of attributes of an element. -/
def attributesOf (want : String → Bool) (c : Cursor) : List Placed :=
  (c.attributes.zipIdx.filter fun (a, _) => want a.name).map fun (a, i) =>
    ⟨c.position, some i, .text a.effectiveValue⟩

/-- What a query finds from a context. A bare last step inside another element also takes in the
texts and attributes of that element. -/
def Query.run (q : Query) (context : Cursor) : List Placed :=
  let scope := context.place
  let start := q.first.keep scope context.selfAndDescendants
  match q.taken with
  | .elements =>
    (walk scope q.further start).map fun c => ⟨c.position, none, .element c⟩
  | .texts =>
    match q.further.getLast? with
    | none =>
      if q.first.isBare then textsOf context.selfAndDescendants
      else textsOf (start.flatMap Cursor.children)
    | some (k, s) =>
      if k = .descendant ∧ s.isBare then
        textsOf ((walk scope q.further.dropLast start).flatMap Cursor.selfAndDescendants)
      else textsOf ((walk scope q.further start).flatMap Cursor.children)
  | .values name => attributeValues (· == name) scope start
  | .allValues => attributeValues (fun _ => true) scope start
where
  /-- The values of the wanted attributes at the end of the walk. -/
  attributeValues (want : String → Bool) (scope : List Nat) (start : List Cursor) : List Placed :=
    match q.further.getLast? with
    | some (k, s) =>
      if k = .descendant ∧ s.isBare then
        ((walk scope q.further.dropLast start).flatMap fun c =>
          (c.selfAndDescendants.filter Cursor.isElement).flatMap (attributesOf want))
      else (walk scope q.further start).flatMap (attributesOf want)
    | none => start.flatMap (attributesOf want)

/-- The order of found things. -/
def Placed.before (a b : Placed) : Bool :=
  if a.position = b.position then
    match a.rank, b.rank with
    | none, _ => true
    | some _, none => false
    | some i, some j => i ≤ j
  else Selector.before a.position b.position

/-- Found things in document order, each once. -/
def merge (ps : List Placed) : List Found :=
  let sorted := ps.mergeSort Placed.before
  (sorted.foldr (fun p rest =>
    match rest with
    | q :: _ => if p.position = q.position ∧ p.rank = q.rank then rest else p :: rest
    | [] => [p]) ([] : List Placed)).map (·.found)

/-- The queries of a list of selectors. -/
def queries (text : String) : Except Fault (List Query) := do
  (← parse text).mapM Selector.query

/-- What a list of selectors finds from a context. -/
def select (text : String) (context : Cursor) : Except Fault (List Found) := do
  return merge ((← queries text).flatMap fun q => q.run context)

end MangaShelf.Selector
