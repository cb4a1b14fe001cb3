import Mathlib
import MangaShelf.Markup.Document
import MangaShelf.Proofs.Markup.Place

/-!
# What elements hold

An element of a page holds markup, or it holds plain characters and then nothing but one run of
them: `document_isRead`. While an element of the second kind is open, what is left of the page
begins with its end tag, so nothing else can get into it.
-/

namespace MangaShelf.Markup

/-- The elements that hold plain characters. -/
def holdsPlain (name : String) : Bool :=
  match contentMode name with
  | .markup | .escapable => false
  | .plain | .script | .rest => true

/-- A node of a page that is read, other than the characters of an element that holds plain ones. -/
inductive Node.IsRead : Node → Prop
  | text (s : String) : IsRead (.text s)
  | comment (s : String) : IsRead (.comment s)
  | markup {name : String} {attributes : List Attribute} {children : List Node}
      (hplain : holdsPlain name = false) (hblank : ' ' ∉ name.toList)
      (hchildren : ∀ n ∈ children, IsRead n) : IsRead (.element name attributes children)
  | empty {name : String} {attributes : List Attribute} (hplain : holdsPlain name = true) :
      IsRead (.element name attributes [])
  | plain {name : String} {attributes : List Attribute} (hplain : holdsPlain name = true)
      (s : String) : IsRead (.element name attributes [.verbatim s])

/-- Everything inside a node that is read is read, or is the plain characters of an element. -/
lemma Node.IsRead.inside {root : Node} {d : Cursor} (hroot : root.IsRead)
    (h : (Cursor.ofRoot root).Inside d) : d.node.IsRead ∨ ∃ s, d.node = .verbatim s := by
  induction Cursor.inside_iff_reflTransGen.mp h with
  | refl => exact .inl hroot
  | @tail b d hb hchild ih =>
    have hmem : d.node ∈ b.node.children := by
      obtain ⟨node, before, after, up, place⟩ := b
      cases node with
      | element name attributes nodes => exact Cursor.node_mem_of_mem_siblings hchild
      | text | verbatim | comment => cases hchild
    rcases ih (Cursor.inside_iff_reflTransGen.mpr hb) with hread | ⟨s, hs⟩
    · generalize b.node = node at hread hmem
      cases hread with
      | text | comment | empty => cases hmem
      | markup hplain hblank hchildren => exact .inl (hchildren _ hmem)
      | plain hplain s => exact .inr ⟨s, List.mem_singleton.mp hmem⟩
    · rw [hs] at hmem
      cases hmem

/-! ### Names -/

lemma mem_of_holdsPlain {name : String} (h : holdsPlain name = true) :
    name ∈ ["script", "style", "iframe", "noembed", "noframes", "xmp", "plaintext"] := by
  unfold holdsPlain contentMode at h
  split_ifs at h with hscript hplain hescapable hrest
  · simp [hscript]
  · rw [List.contains_iff_mem] at hplain
    simp only [List.mem_cons] at hplain ⊢
    tauto
  · simp [hrest]

lemma isAlpha_of_holdsPlain {name : String} (h : holdsPlain name = true) :
    name ≠ "" ∧ ∀ c ∈ name.toList, c.isAlpha = true := by
  have hmem := mem_of_holdsPlain h
  simp only [List.mem_cons, List.not_mem_nil, or_false] at hmem
  have hname : name ≠ "" ∧ name.toList.all Char.isAlpha = true := by
    rcases hmem with rfl | rfl | rfl | rfl | rfl | rfl | rfl <;> decide
  exact ⟨hname.1, List.all_eq_true.mp hname.2⟩

/-- There are no blanks in the name of an element that is read. -/
lemma Node.IsRead.blank_notMem {name : String} {attributes : List Attribute} {children : List Node}
    (h : (Node.element name attributes children).IsRead) : ' ' ∉ name.toList := by
  cases h with
  | markup _ hblank => exact hblank
  | empty hplain | plain hplain =>
    exact fun hmem => absurd ((isAlpha_of_holdsPlain hplain).2 _ hmem) (by decide)

lemma inTagName_of_isAlpha {c : Char} (h : c.isAlpha = true) : inTagName c = true := by
  have hne (d : Char) (hd : d.isAlpha = false) : c ≠ d := by
    rintro rfl
    exact Bool.false_ne_true (hd.symm.trans h)
  simp [inTagName, isSpace, hne]

lemma toLower_ne_blank {c : Char} (h : c ≠ ' ') : c.toLower ≠ ' ' := by
  by_cases hupper : c.isUpper = true
  · have halpha : c.isAlpha = true := (Bool.or_eq_true _ _).mpr (.inl hupper)
    intro heq
    rw [← Char.isAlpha_toLower_eq_isAlpha, heq] at halpha
    cases halpha
  · rwa [Char.toLower_eq_of_not_isUpper hupper]

lemma blank_notMem_readTagName (cs : List Char) : ' ' ∉ (readTagName cs).1.toList := by
  intro hblank
  simp only [readTagName, Text.lowerAscii, String.toList_ofList, List.mem_map] at hblank
  obtain ⟨c, hc, hlower⟩ := hblank
  have hname : inTagName c = true := List.mem_takeWhile_imp hc
  refine toLower_ne_blank ?_ hlower
  rintro rfl
  cases hname

/-- At the end tag of an element that holds plain characters its name is read. -/
lemma readTagName_of_atEndTag {name : String} {cs : List Char} (hplain : holdsPlain name = true)
    (h : atEndTag name.toList cs = true) :
    ∃ c rest, cs = '<' :: '/' :: c :: rest ∧ c.isAlpha = true ∧
      (readTagName (c :: rest)).1 = name := by
  obtain ⟨hne, halpha⟩ := isAlpha_of_holdsPlain hplain
  unfold atEndTag at h
  split at h
  · next rest =>
    obtain ⟨hfront, hend⟩ := (Bool.and_eq_true _ _).mp h
    cases hdrop : rest.drop name.toList.length with
    | nil => simp [hdrop] at hend
    | cons d more =>
      have hd : inTagName d = false := by simpa [hdrop] using hend
      have hrest := (List.take_append_drop name.toList.length rest).symm
      rw [hdrop] at hrest
      generalize rest.take name.toList.length = letters at hfront hrest
      have hlower : letters.map Char.toLower = name.toList := by simpa using hfront
      have hletters : ∀ c ∈ letters, c.isAlpha = true := fun c hc =>
        (Char.isAlpha_toLower_eq_isAlpha c).symm.trans
          (halpha _ (hlower ▸ List.mem_map_of_mem hc))
      have hname : (letters ++ d :: more).takeWhile inTagName = letters := by
        rw [List.takeWhile_append_of_pos fun c hc => inTagName_of_isAlpha (hletters c hc),
          List.takeWhile_cons_of_neg (by simp [hd]), List.append_nil]
      cases letters with
      | nil => exact absurd (String.toList_eq_nil_iff.mp hlower.symm) hne
      | cons c letters =>
        refine ⟨c, letters ++ d :: more, by rw [hrest]; rfl, hletters c List.mem_cons_self, ?_⟩
        rw [← List.cons_append, readTagName, hname, Text.lowerAscii, String.toList_ofList, hlower,
          String.ofList_toList]
  · cases h

/-! ### Open elements -/

/-- An open element that holds markup, as far as it is read. -/
structure OpenElement.HoldsMarkup (e : OpenElement) : Prop where
  not_plain : holdsPlain e.name = false
  no_blank : ' ' ∉ e.name.toList
  children : ∀ n ∈ e.children, n.IsRead

/-- An element that holds markup is read when it is closed. -/
lemma OpenElement.HoldsMarkup.isRead {e : OpenElement} (h : e.HoldsMarkup) :
    (Node.element e.name e.attributes e.children.reverse).IsRead :=
  .markup h.not_plain h.no_blank fun n hn => h.children n (List.mem_reverse.mp hn)

namespace Builder

/-- Only elements that hold markup are open. -/
structure AtMarkup (b : Builder) : Prop where
  stack : ∀ e ∈ b.stack, e.HoldsMarkup
  root : ∀ n ∈ b.root, n.IsRead

variable {b : Builder} {name : String} {attributes : List Attribute}

lemma AtMarkup.start : Builder.start.AtMarkup :=
  ⟨fun _ h => absurd h List.not_mem_nil, fun _ h => nomatch h⟩

lemma AtMarkup.addNode {n : Node} (h : b.AtMarkup) (hn : n.IsRead) : (b.addNode n).AtMarkup := by
  obtain ⟨stack, root, pendingEnds, headSeen, bodySeen⟩ := b
  cases stack with
  | nil => exact h
  | cons e es =>
    obtain ⟨he, hes⟩ := List.forall_mem_cons.mp h.stack
    exact ⟨List.forall_mem_cons.mpr
      ⟨⟨he.not_plain, he.no_blank, List.forall_mem_cons.mpr ⟨hn, he.children⟩⟩, hes⟩, h.root⟩

lemma AtMarkup.addText (h : b.AtMarkup) (s : List Char) : (b.addText s).AtMarkup := by
  obtain ⟨stack, root, pendingEnds, headSeen, bodySeen⟩ := b
  cases stack with
  | nil => exact h
  | cons e es =>
    obtain ⟨he, hes⟩ := List.forall_mem_cons.mp h.stack
    refine ⟨List.forall_mem_cons.mpr ⟨⟨he.not_plain, he.no_blank, ?_⟩, hes⟩, h.root⟩
    intro n hn
    dsimp only at hn
    split at hn
    · next heq =>
      rcases List.mem_cons.mp hn with rfl | hn
      · exact .text _
      · exact he.children n (heq ▸ List.mem_cons_of_mem _ hn)
    · rcases List.mem_cons.mp hn with rfl | hn
      · exact .text _
      · exact he.children n hn

lemma AtMarkup.push (h : b.AtMarkup) (hplain : holdsPlain name = false)
    (hblank : ' ' ∉ name.toList) : (b.push name attributes).AtMarkup :=
  ⟨List.forall_mem_cons.mpr ⟨⟨hplain, hblank, fun _ hn => absurd hn List.not_mem_nil⟩, h.stack⟩,
    h.root⟩

/-- When an element is closed that is read, those around it holding markup, then markup follows. -/
lemma atMarkup_pop {e : OpenElement} {es : List OpenElement} (hstack : b.stack = e :: es)
    (he : (Node.element e.name e.attributes e.children.reverse).IsRead)
    (hes : ∀ e ∈ es, e.HoldsMarkup) (hroot : ∀ n ∈ b.root, n.IsRead) : b.pop.AtMarkup := by
  obtain ⟨stack, root, pendingEnds, headSeen, bodySeen⟩ := b
  subst hstack
  cases es with
  | nil =>
    refine ⟨fun _ h => absurd h List.not_mem_nil, fun n hn => ?_⟩
    cases root with
    | none => exact Option.some.inj hn ▸ he
    | some n' => exact hroot n hn
  | cons outer more =>
    obtain ⟨houter, hmore⟩ := List.forall_mem_cons.mp hes
    exact ⟨List.forall_mem_cons.mpr ⟨⟨houter.not_plain, houter.no_blank,
      List.forall_mem_cons.mpr ⟨he, houter.children⟩⟩, hmore⟩, hroot⟩

lemma AtMarkup.pop (h : b.AtMarkup) : b.pop.AtMarkup := by
  cases hstack : b.stack with
  | nil =>
    have hsame : b.pop = b := by
      unfold Builder.pop
      rw [hstack]
    rwa [hsame]
  | cons e es =>
    obtain ⟨he, hes⟩ := List.forall_mem_cons.mp (hstack ▸ h.stack)
    exact atMarkup_pop hstack he.isRead hes h.root

lemma AtMarkup.popMany (h : b.AtMarkup) (count : Nat) : (b.popMany count).AtMarkup := by
  induction count generalizing b with
  | zero => exact h
  | succ count ih => exact ih h.pop

lemma AtMarkup.closeFor (h : b.AtMarkup) (name : String) : (b.closeFor name).AtMarkup :=
  h.popMany _

lemma AtMarkup.imply (h : b.AtMarkup) (name : String) : (b.imply name).AtMarkup := by
  have hpush {b : Builder} {name : String} (h : b.AtMarkup) (hname : name ∈ ["html", "head", "body"]) :
      (b.push name []).AtMarkup := by
    simp only [List.mem_cons, List.not_mem_nil, or_false] at hname
    rcases hname with rfl | rfl | rfl <;> exact h.push rfl (by decide)
  have houter : (if b.stack.isEmpty then b.push "html" [] else b).AtMarkup := by
    split
    · exact hpush h (by decide)
    · exact h
  unfold Builder.imply
  dsimp only
  generalize (if b.stack.isEmpty then b.push "html" [] else b) = c at houter
  split_ifs <;> first | assumption | exact hpush houter (by decide)

lemma AtMarkup.prepare (h : b.AtMarkup) (name : String) : (b.prepare name).AtMarkup :=
  (h.closeFor name).imply name

lemma AtMarkup.characters (h : b.AtMarkup) (s : List Char) : (b.characters s).AtMarkup := by
  have hlead : (if (s.takeWhile isSpace).isEmpty then b
      else b.addText (s.takeWhile isSpace)).AtMarkup := by
    split
    · exact h
    · exact h.addText _
  unfold Builder.characters
  dsimp only
  generalize (if (s.takeWhile isSpace).isEmpty then b
    else b.addText (s.takeWhile isSpace)) = c at hlead
  split_ifs
  · exact h
  · exact hlead
  · exact ((hlead.closeFor "p").imply "p").addText _
  · exact (hlead.imply "p").addText _
  · exact h.addText s

lemma AtMarkup.endTag (h : b.AtMarkup) (name : String) : (b.endTag name).AtMarkup := by
  unfold Builder.endTag
  split
  · exact ⟨h.stack, h.root⟩
  · exact h.popMany _

/-! ### Pieces of a page -/

/-- A page between two of its pieces: markup can follow, or the innermost open element holds plain
characters, and what is left is at its end tag. -/
inductive Reading (b : Builder) : List Char → Prop
  | markup {cs : List Char} (h : b.AtMarkup) : Reading b cs
  | plain {cs : List Char} {e : OpenElement} {es : List OpenElement} (hstack : b.stack = e :: es)
      (hplain : holdsPlain e.name = true) (hcs : cs = [] ∨ atEndTag e.name.toList cs = true)
      (hpop : b.pop.AtMarkup) : Reading b cs

lemma splitPlain_rest (name done cs : List Char) :
    (splitPlain name done cs).2 = [] ∨ atEndTag name (splitPlain name done cs).2 = true := by
  induction cs generalizing done with
  | nil => exact .inl rfl
  | cons c cs ih =>
    unfold splitPlain
    split
    · next hend => exact .inr hend
    · exact ih _

lemma splitScript_rest (state : Hiding) (done cs : List Char) :
    (splitScript state done cs).2 = [] ∨
      atEndTag "script".toList (splitScript state done cs).2 = true := by
  induction cs generalizing state done with
  | nil => exact .inl rfl
  | cons c cs ih =>
    unfold splitScript
    split
    · next hend => exact .inr hend.2
    · exact ih _ _

/-- The characters of an element that holds plain ones are all that is read into it. -/
lemma reading_addContent (h : b.AtMarkup) (hplain : holdsPlain name = true) (mode : ContentMode)
    (hmode : mode ≠ .escapable) (s : List Char) {cs : List Char}
    (hcs : cs = [] ∨ atEndTag name.toList cs = true) :
    Reading ((b.push name attributes).addContent mode s) cs := by
  unfold addContent
  split
  · exact .plain rfl hplain hcs (atMarkup_pop rfl (.empty hplain) h.stack h.root)
  · split
    · exact absurd rfl hmode
    · exact .plain rfl hplain hcs (atMarkup_pop rfl (.plain hplain _) h.stack h.root)

lemma eq_script_of_contentMode (h : contentMode name = .script) : name = "script" := by
  unfold contentMode at h
  split_ifs at h with hscript
  exact hscript

/-- The content of an element that has just been opened is read. -/
lemma reading_content (h : b.AtMarkup) (hblank : ' ' ∉ name.toList) (cs : List Char) :
    Reading ((b.push name attributes).content (contentMode name) name cs).1
      ((b.push name attributes).content (contentMode name) name cs).2 := by
  have hopen (hplain : holdsPlain name = false) : (b.push name attributes).AtMarkup :=
    h.push hplain hblank
  cases hmode : contentMode name with
  | markup => exact .markup (hopen (by rw [holdsPlain, hmode]))
  | escapable =>
    have hread := hopen (by rw [holdsPlain, hmode])
    refine .markup (?_ : ((b.push name attributes).addContent .escapable
      (splitPlain name.toList [] cs).1).AtMarkup)
    unfold addContent
    split
    · exact hread
    · exact hread.characters _
  | plain =>
    exact reading_addContent h (by rw [holdsPlain, hmode]) .plain (by decide)
      (splitPlain name.toList [] cs).1 (splitPlain_rest name.toList [] cs)
  | script =>
    obtain rfl := eq_script_of_contentMode hmode
    exact reading_addContent h rfl .script (by decide) (splitScript .open [] cs).1
      (splitScript_rest .open [] cs)
  | rest =>
    exact reading_addContent h (by rw [holdsPlain, hmode]) .rest (by decide) cs (.inl rfl)

lemma name_of_readTagRest {cs after : List Char} {tag : Tag}
    (h : readTagRest name cs = some (tag, after)) : tag.name = name := by
  obtain ⟨_, -, heq⟩ := Option.map_eq_some_iff.mp h
  exact congrArg Tag.name (Prod.mk.inj heq).1.symm

/-- An element that is opened and has no content is closed at once. -/
lemma AtMarkup.startTag (h : b.AtMarkup) {tag : Tag} (hblank : ' ' ∉ tag.name.toList)
    (hclosed : b.isRepeated tag.name = true ∨ (tag.selfClosing || isVoid tag.name) = true) :
    (b.startTag tag).AtMarkup := by
  unfold Builder.startTag
  split
  · exact ⟨h.stack, h.root⟩
  · next hfirst =>
    dsimp only
    rw [if_pos (hclosed.resolve_left hfirst)]
    refine atMarkup_pop rfl ?_ h.stack h.root
    cases hplain : holdsPlain tag.name with
    | false => exact .markup hplain hblank fun _ hn => absurd hn List.not_mem_nil
    | true => exact .empty hplain

lemma reading_readStart (h : b.AtMarkup) (cs : List Char) :
    Reading (b.readStart cs).1 (b.readStart cs).2 := by
  have hprepare := h.prepare (readTagName cs).1
  have hblank := blank_notMem_readTagName cs
  unfold readStart
  dsimp only
  generalize b.prepare (readTagName cs).1 = c at hprepare
  split
  · exact .markup hprepare
  · next tag after htag =>
    rw [← name_of_readTagRest htag] at hblank ⊢
    split
    · next hopened =>
      obtain ⟨⟨hfirst, hself⟩, hvoid⟩ : (c.isRepeated tag.name = false ∧ tag.selfClosing = false) ∧
          isVoid tag.name = false := by simpa using hopened
      have hopen : c.startTag tag = c.push tag.name tag.attributes := by
        simp [Builder.startTag, hfirst, hself, hvoid]
      rw [hopen]
      exact reading_content hprepare hblank after
    · next hopened =>
      refine .markup (hprepare.startTag hblank ?_)
      simp only [Bool.and_eq_true, Bool.not_eq_true', not_and, Bool.not_eq_false] at hopened
      rw [Bool.or_eq_true]
      by_cases hfirst : c.isRepeated tag.name = true
      · exact .inl hfirst
      · cases hself : tag.selfClosing with
        | true => exact .inr (.inl rfl)
        | false => exact .inr (.inr (hopened ⟨by simpa using hfirst, hself⟩))

lemma reading_readEnd (h : b.AtMarkup) (cs : List Char) :
    Reading (b.readEnd cs).1 (b.readEnd cs).2 := by
  unfold readEnd
  dsimp only
  split
  · exact .markup h
  · exact .markup (h.endTag _)

lemma AtMarkup.readDeclaration (h : b.AtMarkup) (cs : List Char) :
    (b.readDeclaration cs).1.AtMarkup := by
  unfold Builder.readDeclaration
  split
  · exact h.addNode (.comment _)
  · dsimp only
    split
    · exact h
    · exact h.addNode (.comment _)

/-- At markup the next piece is read. -/
lemma AtMarkup.step (h : b.AtMarkup) (cs : List Char) : Reading (b.step cs).1 (b.step cs).2 := by
  unfold Builder.step
  split
  · exact .markup (h.readDeclaration _)
  · exact .markup h
  · split_ifs
    · exact reading_readEnd h _
    · exact .markup (h.addNode (.comment _))
  · split_ifs
    · exact .markup (h.addNode (.comment _))
    · exact reading_readStart h _
    · exact .markup (h.characters _)
  · exact .markup (h.characters _)
  · exact .markup h

/-- The end tag of an element that holds plain characters closes it. -/
lemma endTag_of_plain {e : OpenElement} {es : List OpenElement} (hstack : b.stack = e :: es)
    (hplain : holdsPlain e.name = true) : b.endTag e.name = b.pop := by
  have hname : ¬ (e.name = "html" ∨ e.name = "body" ∨ e.name = "head") := by
    rintro (h | h | h) <;> (rw [h] at hplain; cases hplain)
  rw [Builder.endTag, if_neg fun h => hname h.2, hstack, closing, if_pos rfl]
  rfl

/-- One piece of the page is read. -/
lemma Reading.step {cs : List Char} (h : Reading b cs) : Reading (b.step cs).1 (b.step cs).2 := by
  cases h with
  | markup h => exact h.step cs
  | plain hstack hplain hcs hpop =>
    rcases hcs with rfl | hend
    · exact .plain hstack hplain (.inl rfl) hpop
    · obtain ⟨c, rest, rfl, halpha, hname⟩ := readTagName_of_atEndTag hplain hend
      have hbracket : c ≠ '>' := by
        rintro rfl
        cases halpha
      have hstep : b.step ('<' :: '/' :: c :: rest) = b.readEnd (c :: rest) := by
        rw [Builder.step, if_pos halpha]
        exact hbracket
      rw [hstep]
      unfold readEnd
      dsimp only
      -- An end tag that the page ends in is dropped, and the element stays open to the end.
      split
      · exact .plain hstack hplain (.inl rfl) hpop
      · rw [hname, endTag_of_plain hstack hplain]
        exact .markup hpop

/-- As many pieces of the page are read as there is fuel for. -/
lemma Reading.run {cs : List Char} (h : Reading b cs) (fuel : Nat) :
    ∃ rest, Reading (b.run fuel cs) rest := by
  induction fuel generalizing b cs with
  | zero => exact ⟨cs, h⟩
  | succ fuel ih =>
    cases cs with
    | nil => exact ⟨[], h⟩
    | cons c cs => exact ih h.step

lemma Reading.finish {cs : List Char} (h : Reading b cs) : b.finish.IsRead := by
  have hclosed : (b.popMany b.stack.length).AtMarkup := by
    cases h with
    | markup h => exact h.popMany _
    | plain hstack hplain hcs hpop =>
      rw [hstack, List.length_cons]
      exact hpop.popMany _
  unfold Builder.finish
  cases hroot : (b.popMany b.stack.length).root with
  | none => exact .markup rfl (by decide) fun _ hn => absurd hn List.not_mem_nil
  | some n => exact hclosed.root n hroot

end Builder

/-- Every node of a page is as it is read. -/
lemma document_isRead (s : String) : (document s).IsRead := by
  obtain ⟨rest, h⟩ := (Builder.Reading.markup .start).run _
  exact h.finish

end MangaShelf.Markup
