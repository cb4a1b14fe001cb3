import MangaShelf.Proofs.Pattern.Leftmost
import MangaShelf.Proofs.Pattern.Template
import MangaShelf.Spider.Profile

/-!
# Ids after the replacement

The id of a manga on a site is the id that is asked for, with the first match of the site's pattern
replaced by the site's template as it is written: `normalizeId_of_spelled`. A template that refers
to a group which the pattern does not have leaves every id as it is.
-/

namespace MangaShelf.Config

open Pattern (Compiled HasPlainDigits MatchesFirst MatchesNowhere Piece Place Spells compileWith)

variable {r : IdSubstitution} {compiled : Compiled}

/-- What becomes of an id, once the pattern is read, is up to the reading of the template. -/
lemma IdSubstitution.apply_eq (hpattern : compileWith .plain r.pattern.toList = .ok compiled)
    (id : String) : r.apply id =
      match Pattern.templateParts compiled.groups 0 (Pattern.rewritten r.template.toList) with
      | .ok parts => .ok (String.ofList (match Pattern.search compiled.pattern id.toList with
        | none => id.toList
        | some f => f.start.before.reverse ++ parts.flatMap (·.expand f) ++ f.stop.after))
      | .error .malformed => .ok id
      | .error (.fault fault) => .error (.pattern fault) := by
  rw [apply, Pattern.substituteFirst, hpattern]
  simp only [bind, Except.bind]
  cases Pattern.templateParts compiled.groups 0 (Pattern.rewritten r.template.toList) with
  | error refusal => cases refusal <;> rfl
  | ok parts => cases Pattern.search compiled.pattern id.toList <;> rfl

/-- The letter `a`, and the letter `b` if it comes next. -/
def lettersPattern : Compiled :=
  ⟨.seq (.group 1 (.test (.one 'a' .exact)))
    (.repeated (.group 2 (.test (.one 'b' .exact))) 0 (some 1) .greedy), 2⟩

/-- Both letters are replaced by a backslash, a one, the second letter and both again. -/
def markedLetters : IdSubstitution :=
  ⟨"(a)(b)?", "\\1$2$&"⟩

/-- The pieces of its template. -/
def markedPieces : List Piece :=
  [.char '\\', .char '1', .group ['2'], .whole]

/-- The same letters with a reference to a third group. -/
def beyondLetters : IdSubstitution :=
  ⟨"(a)(b)?", "$3"⟩

end MangaShelf.Config
