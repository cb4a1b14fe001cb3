import MangaShelf.Config.Rules
import MangaShelf.Extraction.Subject
import MangaShelf.Pattern.Matcher
import MangaShelf.Pattern.Parser
import MangaShelf.Text.Blank
import MangaShelf.Text.Search

/-!
# Lists in scripts

Addresses that a script of a page assigns to a variable as a list of quoted texts.
-/

namespace MangaShelf.Script

open Config (ArrayRule)
open Extraction (Subject)

/-- A reader of the addresses in a script: the script, the variable, and a pattern of the site. -/
abbrev ArrayReader := String → String → Option String → Except Failure (List String)

/-- Where a list is assigned, if the site gives no pattern of its own. -/
def defaultPattern : String :=
  "\x7bname\x7d\\s*=\\s*\\[(.*?)\\];"

/-- The place of the variable in a pattern. -/
def namePlace : String := "\x7bname\x7d"

/-- Characters that have a meaning in patterns. -/
def isSpecial (c : Char) : Bool :=
  "()[]\x7b\x7d?*+-|^$\\.&~# \t\n\r\x0b\x0c".toList.contains c

/-- A text as a pattern that matches only itself. -/
def escapePattern (s : String) : String :=
  String.ofList (s.toList.flatMap fun c => if isSpecial c then ['\\', c] else [c])

/-- One member of a list, without blanks and quotes around it and without escaped slashes. -/
def member (cs : List Char) : List Char :=
  Text.substitute ['\\', '/'] ['/'] 0
    (Text.trimBoth (fun c => c == '\'' || c == '"') (Text.trimBoth Text.isBlank cs))

/-- The text begins like a web address. -/
def isWebLike (s : String) : Bool :=
  Text.startsWith s "http"

/-- The members of a list that look like web addresses. -/
def members (inside : List Char) : List String :=
  ((Text.pieces (· == ',') inside).map fun m => String.ofList (member m)).filter isWebLike

/-- What stands between the brackets of the first list that a pattern finds. -/
def inside? (pattern script : String) : Except Pattern.Refusal (Option (List Char)) := do
  let compiled ← Pattern.compileWith { Pattern.Options.plain with dotAll := true } pattern.toList
  return (Pattern.search compiled.pattern script.toList).bind (·.group? 1)

/-- The addresses in the list that is assigned to a variable. A malformed pattern finds none. -/
def addresses : ArrayReader := fun script name pattern =>
  let pattern := (pattern.filter (· ≠ "")).getD defaultPattern
  match inside? (Text.replaceAll pattern namePlace (escapePattern name)) script with
  | .ok (some inside) => .ok (if inside.isEmpty then [] else members inside)
  | .ok none => .ok []
  | .error .malformed => .ok []
  | .error (.fault fault) => .error (.pattern fault)

/-- The scripts of a page that contain all of some words. -/
def matching (page : Subject) (words : String) : Except Failure (List String) := do
  let scripts := (← page.candidates (some "script")).map fun s => s.text?.getD ""
  return scripts.filter fun script => (Text.words words).all fun w => Text.contains script w

/-- The addresses in all matching scripts, for each variable in turn. -/
def allAddresses (read : ArrayReader) (page : Subject) (rule : ArrayRule) :
    Except Failure (List String) := do
  let found ← (← matching page rule.scriptMatch).mapM fun script => do
    return (← rule.variableNames.mapM fun name => read script name rule.matchPattern).flatten
  return found.flatten

end MangaShelf.Script
