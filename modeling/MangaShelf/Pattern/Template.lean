import MangaShelf.Pattern.Matcher
import MangaShelf.Pattern.Parser
import MangaShelf.Text.Category
import MangaShelf.Text.Search

/-!
# Substitution

Replacing matches by a template. In a template with backslashes `\1` and `\g<1>` stand for the text
of the first group, `\g<0>` for the matched text, and a backslash with a letter for a control
character. In a template with dollar signs `$&` stands for the matched text and `$1`, `$2`, … for the
texts of the groups, while backslashes stand for themselves; it is rewritten into one with
backslashes.
-/

namespace MangaShelf.Pattern

/-- A part of a template. -/
inductive TemplatePart where
  | char (c : Char)
  | group (number : Nat)
  deriving DecidableEq, Repr

/-- The text of a part for a match; a group that took no part in it is empty. -/
def TemplatePart.expand (f : Found) : TemplatePart → List Char
  | .char c => [c]
  | .group number => (f.group? number).getD []

/-! ### Backslashes -/

/-- The group of a number, if the pattern has so many groups. -/
def groupPart (groups number : Nat) : Except Refusal TemplatePart :=
  if groups < number then .error .malformed else .ok (.group number)

/-- The group whose number stands in angle brackets, and the number of characters there. -/
def bracketedGroup (groups : Nat) (cs : List Char) : Except Refusal (TemplatePart × Nat) :=
  match cs with
  | '<' :: cs =>
    let name := cs.takeWhile (· != '>')
    if name.isEmpty || name.length = cs.length || !name.all Json.isDigit then .error .malformed
    else if Json.maxDigits < name.length then .error (.fault (.tooManyDigits name.length))
    else do return (← groupPart groups (Json.digitsValue name), name.length + 2)
  | _ => .error .malformed

/-- What a digit with those after it stands for, and how many they are: a character after a zero and
for three octal digits, and otherwise a group. -/
def numberedPart (groups : Nat) (d : Char) (cs : List Char) : Except Refusal (TemplatePart × Nat) :=
  let octals := d :: (cs.take 2).takeWhile isOctal
  if d = '0' || (isOctal d && octals.length = 3) then
    if numberIn 8 octals ≤ 255 then .ok (.char (Char.ofNat (numberIn 8 octals)), octals.length)
    else .error .malformed
  else do
    let digits := d :: (cs.take 1).takeWhile Json.isDigit
    return (← groupPart groups (Json.digitsValue digits), digits.length)

/-- The parts that a backslash stands for with the text after it, and how much of that text is
taken. A backslash before a character that is neither a letter nor a digit stands for itself. -/
def templateEscape (groups : Nat) (cs : List Char) : Except Refusal (List TemplatePart × Nat) :=
  match cs with
  | [] => .error .malformed
  | d :: rest =>
    if d = 'g' then do
      let (part, length) ← bracketedGroup groups rest
      return ([part], length + 1)
    else if Json.isDigit d then do
      let (part, length) ← numberedPart groups d rest
      return ([part], length)
    else
      match if d = 'b' then some '\x08' else controlChar? d with
      | some e => .ok ([.char e], 1)
      | none => if d.isAlpha then .error .malformed else .ok ([.char '\\', .char d], 1)

/-- The parts of a template with backslashes for a pattern with some groups. The second number counts
the characters of an escape that are still to be passed over. -/
def templateParts (groups : Nat) : Nat → List Char → Except Refusal (List TemplatePart)
  | _, [] => .ok []
  | skip + 1, _ :: cs => templateParts groups skip cs
  | 0, c :: cs =>
    if c = '\\' then do
      let (parts, length) ← templateEscape groups cs
      return parts ++ (← templateParts groups length cs)
    else do return .char c :: (← templateParts groups 0 cs)

/-! ### Dollar signs -/

/-- Double the backslashes. -/
def doubleBackslashes (cs : List Char) : List Char :=
  Text.substitute ['\\'] ['\\', '\\'] 0 cs

/-- Write `\g<0>` for `$&`. -/
def rewriteMatch (cs : List Char) : List Char :=
  Text.substitute ['$', '&'] ['\\', 'g', '<', '0', '>'] 0 cs

/-- Write `\g<1>`, `\g<2>`, … for `$1`, `$2`, …; the number counts the digits of a reference that
are still to be passed over. -/
def rewriteGroups : Nat → List Char → List Char
  | _, [] => []
  | skip + 1, _ :: cs => rewriteGroups skip cs
  | 0, c :: cs =>
    let digits := cs.takeWhile Text.isDecimal
    if c = '$' ∧ digits ≠ [] then
      '\\' :: 'g' :: '<' :: (digits ++ '>' :: rewriteGroups digits.length cs)
    else c :: rewriteGroups 0 cs

/-- A template with dollar signs as one with backslashes. -/
def rewritten (template : List Char) : List Char :=
  rewriteGroups 0 (rewriteMatch (doubleBackslashes template))

/-! ### Replacing -/

/-- Replace the leftmost match of a pattern by a template with dollar signs, if both can be used. -/
def substituteFirst (pattern template text : List Char) : Except Refusal (List Char) := do
  let compiled ← compileWith .plain pattern
  let parts ← templateParts compiled.groups 0 (rewritten template)
  match search compiled.pattern text with
  | none => return text
  | some f => return f.start.before.reverse ++ parts.flatMap (·.expand f) ++ f.stop.after

/-- What follows a place with every match replaced, from left to right. The match must not be empty
where the last one ended if `mustMove` holds; the first number bounds the number of matches. -/
def replaceMatches (p : Pattern) (expand : Found → List Char) : Nat → Bool → Place → List Char
  | 0, _, s => s.after
  | fuel + 1, mustMove, s =>
    let start := { s with groups := [] }
    let arrive : Continuation := fun t =>
      if mustMove && t.left == start.left then none else some t
    match p.run arrive start with
    | some stop =>
      expand ⟨start, stop⟩ ++ replaceMatches p expand fuel (stop.left == start.left) stop
    | none =>
      match s.step? with
      | some (c, next) => c :: replaceMatches p expand fuel false next
      | none => []

/-- Replace every match of a pattern by a template with backslashes; `none` when the template
cannot be used. -/
def substituteEach (p : Compiled) (template text : List Char) : Option (List Char) := do
  let parts ← (templateParts p.groups 0 template).toOption
  some (replaceMatches p.pattern (fun f => parts.flatMap (·.expand f)) (2 * text.length + 2)
    false (.between [] text))

end MangaShelf.Pattern
