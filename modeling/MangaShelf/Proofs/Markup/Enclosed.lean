import MangaShelf.Proofs.Markup.Content
import MangaShelf.Proofs.Markup.Removal

/-!
# Markup between tags

The markup inside an element has its leading text escaped apart from all that follows. It is what
stands between the tags of the written element exactly if both have the same leading text:
`innerMarkup_enclosed_iff`.
-/

namespace MangaShelf.Markup

variable {name parent : String} {attributes : List Attribute} {children ns : List Node}
variable {c : Char} {cs ds : List Char}

/-! ### Escaped texts -/

/-- A control character that is left out of written text. -/
def Vanishes (c : Char) : Prop :=
  c.toNat < 32 ∧ c ≠ '\t' ∧ c ≠ '\n' ∧ c ≠ '\r'

instance : DecidablePred Vanishes := fun c =>
  inferInstanceAs (Decidable (c.toNat < 32 ∧ c ≠ '\t' ∧ c ≠ '\n' ∧ c ≠ '\r'))

lemma escapeText_cons (c : Char) (cs : List Char) :
    escapeText (c :: cs) = escapeTextChar c ++ escapeText cs :=
  List.flatMap_cons

lemma escapeLead_cons (c : Char) (cs : List Char) :
    escapeLead (c :: cs) = escapeLead [c] ++ escapeLead cs := by
  rw [escapeLead, List.flatMap_cons, escapeLead, List.flatMap_singleton]
  rfl

lemma escapeTextChar_of_vanishes (h : Vanishes c) : escapeTextChar c = [] := by
  have hne (d : Char) (hd : 32 ≤ d.toNat) : c ≠ d := by
    rintro rfl
    exact absurd h.1 (by omega)
  rw [escapeTextChar, if_neg (hne '&' (by decide)), if_neg (hne '<' (by decide)),
    if_neg (hne '>' (by decide))]
  exact if_pos h

lemma escapeTextChar_of_not_vanishes (h : ¬ Vanishes c) : escapeTextChar c = escapeLead [c] := by
  rw [escapeTextChar, escapeLead, List.flatMap_singleton]
  rw [if_neg (c := c.toNat < 32 ∧ c ≠ '\t' ∧ c ≠ '\n' ∧ c ≠ '\r') h]

lemma escapeLead_singleton_ne_nil (c : Char) : escapeLead [c] ≠ [] := by
  simp only [escapeLead, List.flatMap_singleton]
  split_ifs
  · decide
  · decide
  · decide
  · exact List.cons_ne_nil c []

lemma bracket_notMem_escapeText (cs : List Char) : '<' ∉ escapeText cs := by
  intro h
  obtain ⟨c, -, hc⟩ := List.mem_flatMap.mp h
  unfold escapeTextChar at hc
  split_ifs at hc with hamp hopening hclosing hcontrol
  · exact absurd hc (by decide)
  · exact absurd hc (by decide)
  · exact absurd hc (by decide)
  · exact absurd hc List.not_mem_nil
  · exact hopening (List.mem_singleton.mp hc).symm

lemma escapeText_length_le (cs : List Char) :
    (escapeText cs).length ≤ (escapeLead cs).length := by
  induction cs with
  | nil => exact Nat.le_refl _
  | cons c cs ih =>
    rw [escapeText_cons, escapeLead_cons, List.length_append, List.length_append]
    by_cases h : Vanishes c
    · rw [escapeTextChar_of_vanishes h, List.length_nil]
      omega
    · rw [escapeTextChar_of_not_vanishes h]
      omega

/-- A text is escaped in both ways alike exactly if none of its characters vanishes. -/
lemma escapeText_eq_escapeLead_iff : escapeText cs = escapeLead cs ↔ ∀ c ∈ cs, ¬ Vanishes c := by
  induction cs with
  | nil => exact iff_of_true rfl fun _ h => absurd h List.not_mem_nil
  | cons c cs ih =>
    rw [escapeText_cons, escapeLead_cons, List.forall_mem_cons, ← ih]
    by_cases h : Vanishes c
    · have hpos := List.length_pos_iff.mpr (escapeLead_singleton_ne_nil c)
      have hle := escapeText_length_le cs
      rw [escapeTextChar_of_vanishes h, List.nil_append]
      refine ⟨fun heq => ?_, fun hnot => absurd h hnot.1⟩
      have := congrArg List.length heq
      rw [List.length_append] at this
      omega
    · rw [escapeTextChar_of_not_vanishes h, List.append_cancel_left_eq]
      exact (and_iff_right h).symm

/-! ### Leading texts -/

/-- The node is a text. -/
def Node.isText (n : Node) : Bool :=
  n.ownText?.isSome

lemma splitLead_eq (ns : List Node) :
    splitLead ns = (Node.textCharsList (ns.takeWhile Node.isText), ns.dropWhile Node.isText) := by
  induction ns with
  | nil => rfl
  | cons n ns ih =>
    cases n with
    | text s | verbatim s =>
      rw [splitLead, ih]
      rfl
    | element | comment => rfl

lemma head?_splitLead (ns : List Node) : ∀ n ∈ (splitLead ns).2.head?, n.isText = false := by
  intro n hn
  rw [splitLead_eq] at hn
  have hfirst := List.head?_dropWhile_not Node.isText ns
  rw [Option.mem_def.mp hn] at hfirst
  exact hfirst

/-- A child stands in a group with the texts after it. -/
lemma tailGroups_cons (n : Node) (ns : List Node) :
    tailGroups (n :: ns) =
      (n :: ns.takeWhile Node.isText) :: tailGroups (ns.dropWhile Node.isText) := by
  induction ns generalizing n with
  | nil => rfl
  | cons m ns ih =>
    rw [tailGroups, ih m]
    cases m with
    | text s | verbatim s => rfl
    | element | comment => exact congrArg ([n] :: ·) (ih _).symm

/-! ### Written nodes -/

lemma write_of_isText {n : Node} (hparent : isVerbatim parent = false) (h : n.isText = true) :
    n.write parent = escapeText n.textChars := by
  cases n with
  | text s | verbatim s => exact if_neg (by rw [hparent]; exact Bool.false_ne_true)
  | element | comment => cases h

lemma write_comment (parent s : String) :
    (Node.comment s).write parent = "<!--".toList ++ s.toList ++ "-->".toList := rfl

lemma write_element (parent name : String) (attributes : List Attribute) (children : List Node) :
    (Node.element name attributes children).write parent =
      startTag name attributes ++
        (if isVoid name then [] else Node.writeList name children) ++
        (if hasEndTag name children then endTag name else []) := rfl

lemma writeList_cons (parent : String) (n : Node) (ns : List Node) :
    Node.writeList parent (n :: ns) = n.write parent ++ Node.writeList parent ns := rfl

lemma writeList_append (parent : String) (ns ms : List Node) :
    Node.writeList parent (ns ++ ms) = Node.writeList parent ns ++ Node.writeList parent ms := by
  induction ns with
  | nil => rfl
  | cons n ns ih => rw [List.cons_append, writeList_cons, ih, writeList_cons, List.append_assoc]

/-- Texts are written as one text. -/
lemma writeList_texts (hparent : isVerbatim parent = false) (h : ∀ n ∈ ns, n.isText = true) :
    Node.writeList parent ns = escapeText (Node.textCharsList ns) := by
  induction ns with
  | nil => rfl
  | cons n ns ih =>
    obtain ⟨hn, hns⟩ := List.forall_mem_cons.mp h
    rw [writeList_cons, ih hns, write_of_isText hparent hn]
    exact List.flatMap_append.symm

/-- Children are written as their leading text and what follows it. -/
lemma writeList_eq (hparent : isVerbatim parent = false) (ns : List Node) :
    Node.writeList parent ns =
      escapeText (splitLead ns).1 ++ Node.writeList parent (splitLead ns).2 := by
  rw [splitLead_eq, ← writeList_texts hparent (fun n hn => List.mem_takeWhile_imp hn),
    ← writeList_append, List.takeWhile_append_dropWhile]

lemma isClosed_startTag (name : String) (attributes : List Attribute) :
    IsClosed (startTag name attributes) :=
  isClosed_append_bracket _

lemma isClosed_append_endTag (cs : List Char) (name : String) : IsClosed (cs ++ endTag name) := by
  have hend : cs ++ endTag name = cs ++ '<' :: '/' :: name.toList ++ ['>'] := by simp [endTag]
  rw [hend]
  exact isClosed_append_bracket _

/-- A node other than a text ends in a closing bracket. -/
lemma isClosed_write {n : Node} (h : n.isText = false) (parent : String) :
    IsClosed (n.write parent) := by
  cases n with
  | text | verbatim => cases h
  | comment s =>
    have hend : "-->".toList = ['-', '-'] ++ ['>'] := by decide
    rw [write_comment, hend, ← List.append_assoc]
    exact isClosed_append_bracket _
  | element name attributes children =>
    rw [write_element]
    cases hend : hasEndTag name children with
    | true =>
      rw [if_pos rfl]
      exact isClosed_append_endTag _ _
    | false =>
      have hbody : (if isVoid name then [] else Node.writeList name children) = [] := by
        split
        · rfl
        · next hvoid =>
          obtain ⟨-, rfl⟩ : name = "li" ∧ children = [] := by simpa [hasEndTag, hvoid] using hend
          rfl
      rw [hbody, if_neg Bool.false_ne_true, List.append_nil, List.append_nil]
      exact isClosed_startTag _ _

/-! ### Tags that are left out of children -/

/-- Nothing is left out of an escaped text, whatever follows it. -/
lemma dropContentType_escapeText (cs ds : List Char) :
    dropContentType 0 (escapeText cs ++ ds) = escapeText cs ++ dropContentType 0 ds :=
  dropContentType_append_of_notMem (bracket_notMem_escapeText cs) ds

/-- What is left out of children that follow the leading text is left out of each group apart. -/
lemma dropContentType_writeList {ns : List Node} (hparent : isVerbatim parent = false)
    (hfirst : ∀ n ∈ ns.head?, n.isText = false) (ds : List Char) :
    dropContentType 0 (Node.writeList parent ns ++ ds) =
      (tailGroups ns).flatMap (fun group => dropContentType 0 (Node.writeList parent group)) ++
        dropContentType 0 ds := by
  match ns with
  | [] => rfl
  | n :: ns =>
    have hn : IsClosed (n.write parent) := isClosed_write (hfirst n rfl) parent
    have hgroup : dropContentType 0 (Node.writeList parent (n :: ns.takeWhile Node.isText)) =
        dropContentType 0 (n.write parent) ++ escapeText (splitLead ns).1 := by
      have htexts := writeList_texts hparent
        (fun n (hn : n ∈ ns.takeWhile Node.isText) => List.mem_takeWhile_imp hn)
      have hnothing := dropContentType_escapeText (splitLead ns).1 []
      rw [List.append_nil] at hnothing
      rw [writeList_cons, dropContentType_append hn, htexts]
      rw [splitLead_eq] at hnothing ⊢
      rw [hnothing]
      exact congrArg _ (List.append_nil _)
    -- The texts after the child belong to its group, so the recursion goes on after all of them.
    have hlength : (splitLead ns).2.length < (n :: ns).length := by
      rw [splitLead_eq, List.length_cons]
      exact Nat.lt_succ_of_le (List.dropWhile_suffix _).length_le
    have ih := dropContentType_writeList hparent (head?_splitLead ns) ds
    rw [writeList_cons, tailGroups_cons, List.flatMap_cons, hgroup, writeList_eq hparent ns]
    simp only [List.append_assoc]
    rw [dropContentType_append hn, dropContentType_escapeText, ih, splitLead_eq]
termination_by ns.length
decreasing_by exact hlength

/-! ### Tags that are left out before an end tag -/

lemma blank_notMem_endTag (hblank : ' ' ∉ name.toList) : ' ' ∉ endTag name := by
  simpa [endTag] using hblank

/-- A tag that is left out has blanks, and an end tag has none. -/
lemma dropContentType_endTag (hblank : ' ' ∉ name.toList) :
    dropContentType 0 (endTag name) = endTag name := by
  refine dropContentType_eq_self_iff.mpr fun ds hsuffix rest hout => ?_
  obtain ⟨inside, -, rfl⟩ := hout
  refine blank_notMem_endTag hblank (hsuffix.subset ?_)
  exact List.mem_append_left _ (List.mem_append_left _ (by decide))

/-- A tag that is left out begins with its only opening bracket, so it does not reach into an end
tag. -/
lemma contentTypeTag_infix_of_append_endTag (hblank : ' ' ∉ name.toList)
    (h : contentTypeTag <:+: cs ++ endTag name) : contentTypeTag <:+: cs := by
  have hnot : ¬ contentTypeTag <:+: endTag name := fun htag =>
    blank_notMem_endTag hblank (htag.subset (by decide))
  rcases List.infix_append_iff.mp h with h | h | ⟨front, back, htag, hfront, hback⟩
  · exact h
  · exact absurd h hnot
  -- A tag across both parts would have the opening bracket of the end tag inside it.
  · cases back with
    | nil =>
      rw [List.append_nil] at htag
      exact htag ▸ hfront.isInfix
    | cons d back =>
      obtain rfl : d = '<' := (List.cons_prefix_cons.mp hback).1
      cases front with
      | nil => exact absurd (htag ▸ hback.isInfix) hnot
      | cons e front =>
        have htail : contentTypeTag.tail = front ++ '<' :: back := by
          rw [htag]
          rfl
        have hmem : '<' ∈ contentTypeTag.tail := by
          rw [htail]
          simp
        exact absurd hmem (by decide)

/-- Characters before an end tag stay as they are exactly if no tag to leave out begins in them. -/
lemma dropContentType_append_endTag_iff (hblank : ' ' ∉ name.toList) :
    dropContentType 0 (cs ++ endTag name) = cs ++ endTag name ↔ ¬ contentTypeTag <:+: cs := by
  rw [dropContentType_eq_self_iff]
  constructor
  · rintro hnone ⟨front, after, rfl⟩
    have hclosing : '>' ∈ after ++ endTag name := by simp [endTag]
    obtain ⟨rest, hrest⟩ := exists_leavesOut_iff.mpr ⟨_, rfl, hclosing⟩
    exact hnone _ ⟨front, by simp⟩ rest hrest
  · intro hnot ds hsuffix rest hrest
    obtain ⟨after, rfl, -⟩ := exists_leavesOut_iff.mp ⟨rest, hrest⟩
    have htag := (List.prefix_append contentTypeTag after).isInfix.trans hsuffix.isInfix
    exact hnot (contentTypeTag_infix_of_append_endTag hblank htag)

/-! ### Markup inside an element -/

/-- An element as it is written, with some markup between its tags. -/
def enclosed (name : String) (attributes : List Attribute) (inside : List Char) : String :=
  String.ofList (dropContentType 0 (startTag name attributes) ++ inside ++ endTag name)

lemma enclosed_inj : enclosed name attributes cs = enclosed name attributes ds ↔ cs = ds := by
  simp [enclosed, String.ofList_inj]

lemma outerMarkup_element (hend : hasEndTag name children = true) :
    (Node.element name attributes children).outerMarkup =
      String.ofList (dropContentType 0 (startTag name attributes) ++
        dropContentType 0 (Node.writeList name children ++ endTag name)) := by
  have hvoid : isVoid name = false := by
    simp only [hasEndTag, Bool.and_eq_true, Bool.not_eq_true'] at hend
    exact hend.1
  rw [Node.outerMarkup, write_element, hvoid, hend, if_neg Bool.false_ne_true, if_pos rfl,
    List.append_assoc, dropContentType_append (isClosed_startTag name attributes)]

lemma innerMarkup_element (name : String) (attributes : List Attribute) (children : List Node) :
    (Node.element name attributes children).innerMarkup? =
      some (String.ofList
        ((if isVerbatim name then (splitLead children).1 else escapeLead (splitLead children).1) ++
          (tailGroups (splitLead children).2).flatMap fun group =>
            dropContentType 0 (Node.writeList name group))) := rfl

/-- The leading text of an element is the same in the markup inside it and between its tags. -/
def LeadAgrees (name : String) (lead : List Char) : Prop :=
  if isVerbatim name then ¬ contentTypeTag <:+: lead else ∀ c ∈ lead, ¬ Vanishes c

instance (name : String) (lead : List Char) : Decidable (LeadAgrees name lead) :=
  haveI : Decidable (∀ c ∈ lead, ¬ Vanishes c) := List.decidableBAll _ lead
  inferInstanceAs
    (Decidable (if isVerbatim name then ¬ contentTypeTag <:+: lead else ∀ c ∈ lead, ¬ Vanishes c))

/-- Where texts are escaped only the leading text can differ. -/
lemma innerMarkup_of_escaped (attributes : List Attribute) (hverbatim : isVerbatim name = false)
    (hblank : ' ' ∉ name.toList) (hend : hasEndTag name children = true) :
    ∃ after, (Node.element name attributes children).innerMarkup? =
        some (String.ofList (escapeLead (splitLead children).1 ++ after)) ∧
      (Node.element name attributes children).outerMarkup =
        enclosed name attributes (escapeText (splitLead children).1 ++ after) := by
  have hgroups := dropContentType_writeList hverbatim (head?_splitLead children) (endTag name)
  refine ⟨_, by rw [innerMarkup_element, hverbatim, if_neg Bool.false_ne_true], ?_⟩
  rw [outerMarkup_element hend, writeList_eq hverbatim children, List.append_assoc,
    dropContentType_escapeText, hgroups, dropContentType_endTag hblank, enclosed]
  simp only [List.append_assoc]

lemma holdsPlain_of_isVerbatim (h : isVerbatim name = true) : holdsPlain name = true := by
  have hname : name = "script" ∨ name = "style" := by simpa [isVerbatim] using h
  rcases hname with rfl | rfl <;> simp [holdsPlain, contentMode]

/-- A script or a style sheet has nothing but its leading text. -/
lemma splitLead_of_isVerbatim (h : (Node.element name attributes children).IsRead)
    (hverbatim : isVerbatim name = true) :
    (splitLead children).2 = [] ∧ Node.writeList name children = (splitLead children).1 := by
  cases h with
  | markup hplain => exact absurd (hplain.symm.trans (holdsPlain_of_isVerbatim hverbatim)) (by decide)
  | empty => exact ⟨rfl, rfl⟩
  | plain hplain s =>
    refine ⟨rfl, ?_⟩
    show (if isVerbatim name then s.toList else _) ++ [] = s.toList ++ []
    rw [if_pos hverbatim]

lemma innerMarkup_of_verbatim (h : (Node.element name attributes children).IsRead)
    (hverbatim : isVerbatim name = true) (hend : hasEndTag name children = true) :
    (Node.element name attributes children).innerMarkup? =
        some (String.ofList (splitLead children).1) ∧
      ((Node.element name attributes children).outerMarkup =
          enclosed name attributes (splitLead children).1 ↔
        ¬ contentTypeTag <:+: (splitLead children).1) := by
  obtain ⟨hrest, hwrite⟩ := splitLead_of_isVerbatim h hverbatim
  constructor
  · rw [innerMarkup_element, hverbatim, if_pos rfl, hrest]
    exact congrArg (some ∘ String.ofList) (List.append_nil _)
  · rw [outerMarkup_element hend, hwrite, enclosed, String.ofList_inj, List.append_assoc,
      List.append_cancel_left_eq]
    exact dropContentType_append_endTag_iff h.blank_notMem

/-- The markup inside an element of a page is what stands between the tags of the written element
exactly if the leading text is the same in both: in a script or a style sheet, whose text stands as
it is, if there is no tag in it that repeats the content type, and in any other element if none of
its characters vanishes. All that follows the leading text is always the same. -/
theorem innerMarkup_enclosed_iff (page : String) {c : Cursor}
    (hinside : (Cursor.ofRoot (document page)).Inside c)
    (hnode : c.node = .element name attributes children) (hend : hasEndTag name children = true) :
    ∃ markup, c.node.innerMarkup? = some markup ∧
      (c.node.outerMarkup = enclosed name attributes markup.toList ↔
        LeadAgrees name (splitLead children).1) ∧
      (isVerbatim name = true → markup = String.ofList (splitLead children).1) ∧
      (isVerbatim name = false →
        ∃ after, markup = String.ofList (escapeLead (splitLead children).1 ++ after) ∧
          c.node.outerMarkup =
            enclosed name attributes (escapeText (splitLead children).1 ++ after)) := by
  have hread : (Node.element name attributes children).IsRead := by
    rcases (document_isRead page).inside hinside with h | ⟨s, hs⟩
    · exact hnode ▸ h
    · rw [hnode] at hs
      cases hs
  rw [hnode, LeadAgrees]
  cases hverbatim : isVerbatim name with
  | true =>
    obtain ⟨hinner, hiff⟩ := innerMarkup_of_verbatim hread hverbatim hend
    refine ⟨_, hinner, ?_, fun _ => rfl, fun h => absurd h (by decide)⟩
    rw [String.toList_ofList, if_pos rfl]
    exact hiff
  | false =>
    obtain ⟨after, hinner, houter⟩ :=
      innerMarkup_of_escaped attributes hverbatim hread.blank_notMem hend
    refine ⟨_, hinner, ?_, fun h => absurd h (by decide), fun _ => ⟨after, rfl, houter⟩⟩
    rw [houter, String.toList_ofList, enclosed_inj, List.append_cancel_right_eq,
      escapeText_eq_escapeLead_iff, if_neg Bool.false_ne_true]

/-! ### Single elements -/

/-- The first element of a page that has a name. -/
def firstNamed (page : Node) (name : String) : Option Cursor :=
  (Cursor.ofRoot page).selfAndDescendants.find? (·.node.name? = some name)

lemma exists_of_firstNamed {page : Node} {α : Type} {f : Cursor → α} {a : α}
    (h : (firstNamed page name).map f = some a) :
    ∃ c attributes children, (Cursor.ofRoot page).Inside c ∧
      c.node = .element name attributes children ∧ f c = a := by
  obtain ⟨c, hc, hf⟩ := Option.map_eq_some_iff.mp h
  have hname : c.node.name? = some name := by simpa using List.find?_some hc
  cases hnode : c.node with
  | element other attributes children =>
    rw [hnode] at hname
    obtain rfl := Option.some.inj hname
    exact ⟨c, attributes, children, List.mem_of_find?_eq_some hc, hnode, hf⟩
  | text | verbatim | comment => rw [hnode] at hname; cases hname

/-- A page with a paragraph. -/
def paragraphPage : String :=
  "<p>a > b<b>c</b>d<!--e--></p>"

/-- The markup inside a paragraph with a bracket in its text stands between its tags. -/
theorem innerMarkup_enclosed_iff_of_paragraph :
    ∃ c attributes children, (Cursor.ofRoot (document paragraphPage)).Inside c ∧
      c.node = .element "p" attributes children ∧ hasEndTag "p" children = true ∧
      ∃ markup, c.node.innerMarkup? = some markup ∧ markup = "a &gt; b<b>c</b>d<!--e-->" ∧
        c.node.outerMarkup = enclosed "p" attributes markup.toList := by
  have hfound : (firstNamed (document paragraphPage) "p").map
      (fun c => (c.node.innerMarkup?, (splitLead c.node.children).1)) =
        some (some "a &gt; b<b>c</b>d<!--e-->", "a > b".toList) := by
    decide +kernel
  obtain ⟨c, attributes, children, hinside, hnode, hvalue⟩ := exists_of_firstNamed hfound
  obtain ⟨hinner, hlead⟩ := Prod.mk.inj hvalue
  have hend : hasEndTag "p" children = true := by simp [hasEndTag, isVoid]
  have hagrees : LeadAgrees "p" (splitLead children).1 := by
    have hchildren : c.node.children = children := by
      rw [hnode]
      rfl
    rw [← hchildren, hlead]
    decide +kernel
  obtain ⟨markup, hmarkup, hiff, -⟩ := innerMarkup_enclosed_iff paragraphPage hinside hnode hend
  exact ⟨c, attributes, children, hinside, hnode, hend, markup, hmarkup,
    Option.some.inj (hmarkup.symm.trans hinner), hiff.mpr hagrees⟩

/-- A page with a script that writes a tag. -/
def scriptPage : String :=
  "<script>document.write('<meta http-equiv=\"Content-Type\" content=\"text/html\">')</script>"

/-- The markup inside a script has a tag that is left out between the tags of the written script. -/
theorem innerMarkup_of_written_tag :
    ∃ c attributes children, (Cursor.ofRoot (document scriptPage)).Inside c ∧
      c.node = .element "script" attributes children ∧ hasEndTag "script" children = true ∧
      ∃ markup, c.node.innerMarkup? = some markup ∧
        markup = "document.write('<meta http-equiv=\"Content-Type\" content=\"text/html\">')" ∧
        c.node.outerMarkup = enclosed "script" attributes "document.write('')".toList ∧
        c.node.outerMarkup ≠ enclosed "script" attributes markup.toList := by
  have hfound : (firstNamed (document scriptPage) "script").map
      (fun c => (c.node.innerMarkup?, c.node.attributes, c.node.outerMarkup)) =
        some (some "document.write('<meta http-equiv=\"Content-Type\" content=\"text/html\">')",
          [], enclosed "script" [] "document.write('')".toList) := by
    decide +kernel
  obtain ⟨c, attributes, children, hinside, hnode, hvalue⟩ := exists_of_firstNamed hfound
  obtain ⟨hinner, hvalue⟩ := Prod.mk.inj hvalue
  obtain ⟨hattributes, houter⟩ := Prod.mk.inj hvalue
  obtain rfl : attributes = [] := by
    rw [← hattributes, hnode]
    rfl
  refine ⟨c, [], children, hinside, hnode, by simp [hasEndTag, isVoid], _, hinner, rfl, houter, ?_⟩
  rw [houter, ne_eq, enclosed_inj]
  decide +kernel

end MangaShelf.Markup
