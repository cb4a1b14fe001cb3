import Mathlib.Tactic.Lemma
import MangaShelf.Markup.Document

/-!
# Pages without markup

A text in which nothing is markup is a page with this text as its body: `document_of_plain`.
-/

namespace MangaShelf.Markup

/-- The character stands for itself wherever it is in a page. -/
def IsOrdinary (c : Char) : Prop :=
  c ∉ ['<', '&', '\r', '\x00', '\uFEFF']

instance (c : Char) : Decidable (IsOrdinary c) :=
  inferInstanceAs (Decidable (¬ _))

lemma normalNewlines_eq {cs : List Char} (h : '\r' ∉ cs) : normalNewlines cs = cs := by
  induction cs with
  | nil => rfl
  | cons c cs ih =>
    rw [List.mem_cons, not_or] at h
    rw [normalNewlines, ih h.2]
    · rintro _ rfl -
      exact h.1 rfl
    · exact Ne.symm h.1

lemma splitText_eq {cs : List Char} (h : '<' ∉ cs) (done : List Char) :
    splitText done cs = (done.reverse ++ cs, []) := by
  induction cs generalizing done with
  | nil => simp [splitText]
  | cons c cs ih =>
    rw [List.mem_cons, not_or] at h
    rw [splitText, if_neg (by simp [Ne.symm h.1]), ih h.2]
    simp

/-- The page whose body is a text. -/
def plainPage (s : String) : Node :=
  .element "html" [] [.element "body" [] [.text s]]

lemma isSpace_of_not_isBlank {c : Char} (h : Text.isBlank c = false) : isSpace c = false := by
  cases hspace : isSpace c with
  | false => rfl
  | true =>
    have hblank : Text.isBlank c = true := by
      simp only [isSpace, Bool.or_eq_true, beq_iff_eq] at hspace
      rcases hspace with (((rfl | rfl) | rfl) | rfl) | rfl <;> decide
    rw [h] at hblank
    cases hblank

lemma trimBoth_eq {p : Char → Bool} {c d : Char} (hc : p c = false) (hd : p d = false)
    (cs : List Char) : Text.trimBoth p (c :: (cs ++ [d])) = c :: (cs ++ [d]) := by
  rw [Text.trimBoth, List.dropWhile_cons_of_neg (by simp [hc])]
  simp [hd]

namespace Builder

lemma step_of_ordinary {cs : List Char} {c : Char} (h : ∀ d ∈ c :: cs, IsOrdinary d) (b : Builder) :
    b.step (c :: cs) = (b.characters (c :: cs), []) := by
  have hnone (mark : Char) (hmark : ¬ IsOrdinary mark) : mark ∉ c :: cs :=
    fun hmem => hmark (h mark hmem)
  have hopen := hnone '<' (by simp [IsOrdinary])
  have hreference := hnone '&' (by simp [IsOrdinary])
  have hpiece : splitText [c] cs = (c :: cs, []) := by
    rw [splitText_eq (fun hmem => hopen (List.mem_cons_of_mem c hmem))]
    rfl
  have hdecoded : decodeText false (c :: cs) = c :: cs := by
    rw [decodeText, if_neg]
    simpa [List.contains_iff_mem] using hreference
  have hc : c ≠ '<' := fun heq => hopen (heq ▸ List.mem_cons_self)
  unfold step
  split <;> simp_all

/-- Text before any element stands in the body. -/
lemma characters_start {cs : List Char} {c : Char} (h : isSpace c = false) :
    (start.characters (c :: cs)).finish = plainPage (String.ofList (c :: cs)) := by
  have hblank : (c :: cs).takeWhile isSpace = [] := List.takeWhile_cons_of_neg (by simp [h])
  have hrest : (c :: cs).dropWhile isSpace = c :: cs := List.dropWhile_cons_of_neg (by simp [h])
  simp only [characters, hblank, hrest]
  rfl

end Builder

/-- Text of ordinary characters that neither begins nor ends with a blank is read as it stands. -/
lemma document_of_plain {s : String} {c d : Char} {cs : List Char}
    (hs : s.toList = c :: (cs ++ [d])) (hfirst : Text.isBlank c = false)
    (hlast : Text.isBlank d = false) (h : ∀ e ∈ s.toList, IsOrdinary e) :
    document s = plainPage s := by
  rw [hs] at h
  have hkept : (c :: (cs ++ [d])).filter (· != '\x00') = c :: (cs ++ [d]) := by
    refine List.filter_eq_self.mpr fun e he => ?_
    rw [bne_iff_ne]
    rintro rfl
    exact h _ he (by simp)
  have hnewlines : normalNewlines (c :: (cs ++ [d])) = c :: (cs ++ [d]) :=
    normalNewlines_eq fun hmem => h _ hmem (by simp)
  have hmark : (c :: (cs ++ [d])).head? ≠ some '\uFEFF' := by
    intro hhead
    exact h _ List.mem_cons_self (by simp [Option.some.inj hhead])
  rw [document, hs, trimBoth_eq hfirst hlast, hkept]
  rw [hnewlines, if_neg hmark, List.length_cons, Builder.run, Builder.step_of_ordinary h]
  show (Builder.start.characters (c :: (cs ++ [d]))).finish = _
  rw [Builder.characters_start (isSpace_of_not_isBlank hfirst), ← hs, String.ofList_toList]

end MangaShelf.Markup
