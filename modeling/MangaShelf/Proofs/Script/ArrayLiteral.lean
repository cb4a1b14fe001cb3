import Mathlib.Data.List.Forall2
import Mathlib.Data.List.TakeWhile
import MangaShelf.Proofs.Pattern.Leftmost
import MangaShelf.Proofs.Run
import MangaShelf.Proofs.Text.Integer

/-!
# Lists that are read back

A script assigns a list of addresses to a variable. Members can be quoted in either way or not at
all, have blanks around them, and escape their slashes. The reader without a pattern of the site
gives back the addresses as they are: `addresses_of_assigned`.
-/

namespace MangaShelf

/-! ### Cutting and joining texts -/

namespace Text

/-- What is cut off at both ends leaves what stands between. -/
lemma trimBoth_append {p : Char → Bool} {lead cs trail : List Char} (hlead : ∀ c ∈ lead, p c = true)
    (hcs : ∀ c ∈ cs, p c = false) (htrail : ∀ c ∈ trail, p c = true) :
    trimBoth p (lead ++ cs ++ trail) = cs := by
  rw [trimBoth, List.append_assoc, List.dropWhile_append_of_pos hlead]
  cases cs with
  | nil => rw [List.nil_append, List.dropWhile_eq_nil_iff.mpr htrail]; rfl
  | cons c cs =>
    have hfirst : (c :: cs ++ trail).dropWhile p = c :: cs ++ trail := by
      rw [List.cons_append, List.dropWhile_cons, hcs c List.mem_cons_self,
        if_neg Bool.false_ne_true]
    have hlast : (c :: cs).reverse.dropWhile p = (c :: cs).reverse :=
      dropWhile_of_forall_not fun d hd => hcs d (List.mem_reverse.mp hd)
    rw [hfirst, List.reverse_append,
      List.dropWhile_append_of_pos fun d hd => htrail d (List.mem_reverse.mp hd), hlast,
      List.reverse_reverse]

lemma pieces_of_notMem {sep : Char} {cs : List Char} (h : sep ∉ cs) :
    pieces (· == sep) cs = [cs] := by
  induction cs with
  | nil => rfl
  | cons c cs ih =>
    rw [List.mem_cons, not_or] at h
    rw [pieces, if_neg (by simpa using Ne.symm h.1), ih h.2]

lemma pieces_append {sep : Char} {cs : List Char} (h : sep ∉ cs) (rest : List Char) :
    pieces (· == sep) (cs ++ sep :: rest) = cs :: pieces (· == sep) rest := by
  induction cs with
  | nil => rw [List.nil_append, pieces, if_pos (beq_self_eq_true sep)]
  | cons c cs ih =>
    rw [List.mem_cons, not_or] at h
    rw [List.cons_append, pieces, if_neg (by simpa using Ne.symm h.1), ih h.2]

/-- The pieces of a text that is joined are those it is joined from. -/
lemma pieces_intercalate {sep : Char} {texts : List (List Char)} (hne : texts ≠ [])
    (h : ∀ cs ∈ texts, sep ∉ cs) : pieces (· == sep) ([sep].intercalate texts) = texts := by
  induction texts with
  | nil => exact absurd rfl hne
  | cons cs texts ih =>
    obtain ⟨hcs, htexts⟩ := List.forall_mem_cons.mp h
    by_cases hlast : texts = []
    · rw [hlast, List.intercalate_singleton, pieces_of_notMem hcs]
    · rw [List.intercalate_cons_of_ne_nil hlast, List.append_assoc, List.singleton_append,
        pieces_append hcs, ih hlast htexts]

lemma mem_intercalate {sep c : Char} {texts : List (List Char)} (h : c ∈ [sep].intercalate texts) :
    c = sep ∨ ∃ cs ∈ texts, c ∈ cs := by
  induction texts with
  | nil => cases h
  | cons cs texts ih =>
    by_cases hlast : texts = []
    · rw [hlast, List.intercalate_singleton] at h
      exact .inr ⟨cs, List.mem_cons_self, h⟩
    · rw [List.intercalate_cons_of_ne_nil hlast, List.append_assoc, List.singleton_append,
        List.mem_append, List.mem_cons] at h
      rcases h with h | h | h
      · exact .inr ⟨cs, List.mem_cons_self, h⟩
      · exact .inl h
      · exact (ih h).imp_right fun ⟨cs', hmem, hc⟩ => ⟨cs', List.mem_cons_of_mem cs hmem, hc⟩

end Text

namespace Script

open Pattern

/-! ### The pattern for a name -/

/-- The options of the pattern for a list: a list can go over several lines. -/
def listOptions : Options :=
  { Options.plain with dotAll := true }

/-- Any number of blanks. -/
def blanks : Pattern :=
  .repeated (blank listOptions) 0 none .greedy

/-- As few characters as possible, as the first group. -/
def insidePattern : Pattern :=
  .group 1 (.repeated (.test (.any true)) 0 none .lazy)

/-- The parts of the pattern between the name and what is inside the list, the last one first. -/
def openItems : List Item :=
  [.part (literal listOptions '['), .rounds blanks, .part (literal listOptions '='), .rounds blanks]

/-- The parts of the pattern from what is inside the list on, the last one first. -/
def closeItems : List Item :=
  [.part (literal listOptions ';'), .part (literal listOptions ']'), .part insidePattern]

/-- The parts of a name, the last one first. -/
def nameItems (name : List Char) : List Item :=
  (name.map fun c => .part (literal listOptions c)).reverse

/-- The pattern for the list that is assigned to a name. -/
def listPattern (name : List Char) : Pattern :=
  sequence (closeItems ++ (openItems ++ nameItems name))

/-- The text of the pattern between the name and what is inside the list. -/
def openText : List Char :=
  ['\\', 's', '*', '=', '\\', 's', '*', '\\', '[']

/-- The text of the pattern for what is inside the list. -/
def insideText : List Char :=
  ['(', '.', '*', '?', ')']

/-- The text of the pattern for the end of the list. -/
def closeText : List Char :=
  ['\\', ']', ';']

/-- The text of the default pattern with a name in its place. -/
def listText (name : List Char) : List Char :=
  escaped name ++ (openText ++ (insideText ++ closeText))

lemma toList_default (name : String) :
    (Text.replaceAll defaultPattern namePlace (escapePattern name)).toList =
      listText name.toList := by
  rw [Text.replaceAll, String.toList_ofList, toList_escapePattern]
  rfl

variable {s : ReaderState} {cs : List Char} {fuel : Nat} {done : List Item}

lemma items_open :
    (items (fuel + 6) listOptions done).run { s with rest := openText ++ cs } =
      (items fuel listOptions (openItems ++ done)).run { s with rest := cs } := by
  show (items (fuel + 6) listOptions done).run { s with
    rest := '\\' :: 's' :: '*' :: '=' :: '\\' :: 's' :: '*' :: '\\' :: '[' :: cs } = _
  rw [items_blank rfl, items_greedy rfl (by simp) (by simp), items_literal rfl (by decide),
    items_blank rfl, items_greedy rfl (by simp) (by simp), items_special rfl (by decide)]
  rfl

lemma items_inside (hopen : s.openGroups = []) (hnext : s.nextGroup = 1) (hroom : s.nesting = 0) :
    (items (fuel + 8) listOptions done).run { s with rest := insideText ++ cs } =
      (items (fuel + 6) listOptions (.part insidePattern :: done)).run
        { s with rest := cs, nextGroup := 2, atStart := false } := by
  let inner : ReaderState := { s with
    rest := ')' :: cs
    nextGroup := s.nextGroup + 1
    openGroups := s.nextGroup :: s.openGroups
    atStart := false
    nesting := s.nesting + 2 }
  have hall : (alternatives (fuel + 4) listOptions).run { inner with
      rest := '.' :: '*' :: '?' :: ')' :: cs } =
        .ok (.repeated (.test (.any true)) 0 none .lazy, inner) :=
    alternatives_eq_ok ((items_any rfl).trans ((items_lazy rfl).trans (items_close rfl)))
      (by simp [inner])
  refine (items_group (s := s) rfl (by simp) (by rw [hroom]; decide) hall rfl).trans ?_
  simp [inner, hopen, hnext, insidePattern]

lemma items_end :
    (items (fuel + 3) listOptions done).run { s with rest := closeText } =
      .ok (sequence (.part (literal listOptions ';') :: .part (literal listOptions ']') :: done),
        { s with rest := [] }) := by
  rw [closeText, items_special rfl (by decide), items_literal rfl (by decide), items_nil rfl]

/-- No part of the pattern looks behind. -/
lemma fixWidths_listPattern (name : List Char) (groups : List (Nat × Nat × Option Nat)) :
    fixWidths groups (listPattern name) = some (listPattern name) := by
  refine fixWidths_sequence fun i hi => ?_
  simp only [closeItems, openItems, nameItems, List.mem_append, List.mem_cons, List.not_mem_nil,
    or_false, List.mem_reverse, List.mem_map] at hi
  rcases hi with (rfl | rfl | rfl) | (rfl | rfl | rfl | rfl) | ⟨c, -, rfl⟩ <;> rfl

lemma length_le_listText (name : List Char) : name.length + 17 ≤ (listText name).length := by
  have hname : name.length ≤ (escaped name).length := by
    induction name with
    | nil => exact Nat.zero_le _
    | cons c name ih =>
      rw [escaped, List.flatMap_cons, List.length_append, List.length_cons, ← escaped]
      split <;> simp only [List.length_cons, List.length_nil] <;> omega
  simp only [listText, openText, insideText, closeText, List.length_append, List.length_cons,
    List.length_nil]
  omega

/-- The default pattern is read as the name itself and the list after it. -/
lemma compile_listText (name : List Char) :
    compileWith listOptions (listText name) = .ok ⟨listPattern name, 1⟩ := by
  -- A character of the name takes one unit of fuel, and the rest of the pattern takes fourteen.
  obtain ⟨fuel, hfuel⟩ : ∃ fuel, 4 * (listText name).length + 3 = fuel + 14 + name.length :=
    ⟨4 * (listText name).length + 3 - 14 - name.length, by
      have := length_le_listText name
      omega⟩
  let start := ReaderState.start listOptions []
  let stop : ReaderState := { start with nextGroup := 2, atStart := false }
  have hitems : (items (4 * (listText name).length + 3) listOptions []).run
      { start with rest := listText name } = .ok (listPattern name, stop) := by
    rw [hfuel, listText, items_escaped rfl, List.append_nil, items_open (s := start)]
    exact (items_inside rfl rfl rfl).trans (items_end (s := stop))
  exact compileWith_eq_ok (alternatives_eq_ok hitems (by simp [stop, start, ReaderState.start])) rfl
    rfl (by decide) rfl (fixWidths_listPattern name)

/-! ### Finding a list -/

variable {groups : List (Nat × Span)} {before inside after : List Char} {k : Continuation}
  {found : Place}

lemma has_blank (c : Char) :
    (CharTest.set false [.category .blank false listOptions.ascii] .exact).has c = Text.isBlank c := by
  simp [CharTest.has, Folding.forms, SetItem.has, Category.has, listOptions, Options.plain]

lemma run_blanks {c : Char} (hcs : ∀ d ∈ cs, Text.isBlank d = true) (hc : Text.isBlank c = false)
    (hfound : k (.amid groups (cs.reverse ++ before) (c :: after)) = some found) :
    blanks.run k (.amid groups before (cs ++ c :: after)) = some found := by
  refine run_greedy (fun d hd => (has_blank d).trans (hcs d hd)) (fun d hd => ?_) hfound
  obtain rfl := Option.some.inj hd
  exact (has_blank c).trans hc

lemma run_literal (c : Char) :
    (literal listOptions c).run k (.amid groups before (c :: after)) =
      k (.amid groups (c :: before) after) :=
  literals_append (o := listOptions) rfl [c]

/-- The first group takes the characters up to the first closing bracket. -/
lemma run_inside (hinside : ']' ∉ inside)
    (hfound : (literal listOptions ']').run k (.amid
      ((1, ⟨inside.length, inside ++ ']' :: after⟩) :: groups) (inside.reverse ++ before)
      (']' :: after)) = some found) :
    insidePattern.run ((literal listOptions ']').run k)
      (.amid groups before (inside ++ ']' :: after)) = some found := by
  -- The group is written down on the way out of it, before its closing bracket is asked for.
  let close : Continuation := fun s => (literal listOptions ']').run k
    { s with groups := (1, s.since (.amid groups before (inside ++ ']' :: after))) :: s.groups }
  show (repeated (.test (.any true)) 0 none .lazy).run close _ = some found
  refine run_lazy (c := ']') (fun d hd => ⟨rfl, ?_⟩)
    (fun s hs => run_literal_of_ne (o := listOptions) rfl hs) ?_
  · rintro rfl
    exact hinside hd
  · have hlength : (inside ++ ']' :: after).length - (']' :: after).length = inside.length := by
      simp
    show (literal listOptions ']').run k (.amid
      ((1, ⟨(inside ++ ']' :: after).length - (']' :: after).length, _⟩) :: groups) _ _) = _
    rw [hlength]
    exact hfound

/-- What the pattern asks for after the name. -/
def runList : Continuation :=
  blanks.run <| (literal listOptions '=').run <| blanks.run <| (literal listOptions '[').run <|
    insidePattern.run <| (literal listOptions ']').run <| (literal listOptions ';').run some

lemma run_listPattern (name : List Char) :
    (listPattern name).run some = literals listOptions name runList := by
  rw [listPattern, run_sequence, List.foldl_append, List.foldl_append, nameItems, foldl_literals]
  rfl

/-- The text that assigns a list to a name, from the name on. -/
def assignment (name gap gap' inside after : List Char) : List Char :=
  name ++ (gap ++ '=' :: (gap' ++ '[' :: (inside ++ ']' :: ';' :: after)))

variable {gap gap' : List Char}

/-- At an assignment the pattern runs to the end, with what is inside the list as its group. -/
lemma exists_run_assignment (name before after : List Char)
    (hgap : ∀ c ∈ gap, Text.isBlank c = true) (hgap' : ∀ c ∈ gap', Text.isBlank c = true)
    (hinside : ']' ∉ inside) :
    ∃ stop, (listPattern name).run some (.between before (assignment name gap gap' inside after)) =
      some stop ∧ stop.group? 1 = some inside := by
  let reached := ';' :: ']' :: (inside.reverse ++ '[' :: (gap'.reverse ++
    '=' :: (gap.reverse ++ (name.reverse ++ before))))
  refine ⟨.amid [(1, ⟨inside.length, inside ++ ']' :: ';' :: after⟩)] reached after, ?_, ?_⟩
  · rw [run_listPattern]
    show literals listOptions name runList
      (.amid [] before (assignment name gap gap' inside after)) = _
    rw [assignment, literals_append rfl]
    refine run_blanks hgap (by decide) ?_
    rw [run_literal]
    refine run_blanks hgap' (by decide) ?_
    rw [run_literal]
    refine run_inside hinside ?_
    rw [run_literal, run_literal]
  · simp [Place.group?, Span.text]

/-- The list is found where the name is mentioned first. -/
lemma exists_search_assignment {name before after : List Char}
    (hgap : ∀ c ∈ gap, Text.isBlank c = true) (hgap' : ∀ c ∈ gap', Text.isBlank c = true)
    (hinside : ']' ∉ inside)
    (hfirst : ∀ i < before.length,
      ¬ name <+: (before ++ assignment name gap gap' inside after).drop i) :
    ∃ found, search (listPattern name) (before ++ assignment name gap gap' inside after) =
      some found ∧ found.group? 1 = some inside := by
  obtain ⟨stop, hstop, hgroup⟩ :=
    exists_run_assignment name before.reverse after hgap hgap' hinside
  refine ⟨_, search_eq_some (fun i hi earlier => ?_) hstop, hgroup⟩
  rw [run_listPattern]
  show literals listOptions name runList (.amid [] earlier _) = none
  exact literals_of_not_prefix rfl (hfirst i hi)

/-! ### Members -/

/-- A character that stands for itself in a member. -/
def isPlain (c : Char) : Bool :=
  c != ',' && c != '\'' && c != '"' && c != '\\' && c != ']' && !Text.isBlank c

/-- A text as it can be written, with a backslash before any of its slashes. -/
inductive Spelled : List Char → List Char → Prop where
  | nil : Spelled [] []
  | char (c : Char) {text written : List Char} (h : Spelled text written) :
    Spelled (c :: text) (c :: written)
  | slash {text written : List Char} (h : Spelled text written) :
    Spelled ('/' :: text) ('\\' :: '/' :: written)

/-- A member of a list for a text: in either quotes or in none, and with blanks around it. -/
inductive IsMember (text : String) : List Char → Prop where
  | mk (lead quote written trail : List Char) (hplain : ∀ c ∈ text.toList, isPlain c = true)
    (hlead : ∀ c ∈ lead, Text.isBlank c = true) (hquote : quote ∈ [[], ['\''], ['"']])
    (hwritten : Spelled text.toList written) (htrail : ∀ c ∈ trail, Text.isBlank c = true) :
    IsMember text (lead ++ (quote ++ written ++ quote) ++ trail)

variable {text written : List Char}

/-- A text is spelled as itself. -/
lemma Spelled.refl (cs : List Char) : Spelled cs cs := by
  induction cs with
  | nil => exact .nil
  | cons c cs ih => exact .char c ih

lemma Spelled.mem (h : Spelled text written) {c : Char} (hc : c ∈ written) : c ∈ text ∨ c = '\\' := by
  induction h with
  | nil => exact .inl hc
  | char d _ ih =>
    rcases List.mem_cons.mp hc with rfl | hc
    · exact .inl List.mem_cons_self
    · exact (ih hc).imp_left (List.mem_cons_of_mem d)
  | slash _ ih =>
    rcases List.mem_cons.mp hc with rfl | hc
    · exact .inr rfl
    rcases List.mem_cons.mp hc with rfl | hc
    · exact .inl List.mem_cons_self
    · exact (ih hc).imp_left (List.mem_cons_of_mem '/')

/-- Taking the backslashes before slashes away gives the text back. -/
lemma Spelled.substitute_eq (h : Spelled text written) (hplain : '\\' ∉ text) :
    Text.substitute ['\\', '/'] ['/'] 0 written = text := by
  induction h with
  | nil => rfl
  | char c _ ih =>
    rw [List.mem_cons, not_or] at hplain
    rw [Text.substitute, if_neg (by simp [List.isPrefixOf, hplain.1]), ih hplain.2]
  | slash _ ih =>
    rw [List.mem_cons, not_or] at hplain
    exact congrArg ('/' :: ·) (ih hplain.2)

lemma isPlain_iff {c : Char} : isPlain c = true ↔
    c ≠ ',' ∧ c ≠ '\'' ∧ c ≠ '"' ∧ c ≠ '\\' ∧ c ≠ ']' ∧ Text.isBlank c = false := by
  simp [isPlain, and_assoc]

/-- A member is read as its text. -/
lemma IsMember.member_eq {text : String} {cs : List Char} (h : IsMember text cs) :
    member cs = text.toList := by
  obtain ⟨lead, quote, written, trail, hplain, hlead, hquote, hwritten, htrail⟩ := h
  have hquotes : ∀ c ∈ quote, c = '\'' ∨ c = '"' := by
    simp only [List.mem_cons, List.not_mem_nil, or_false] at hquote
    rcases hquote with rfl | rfl | rfl <;> simp
  have hclean : ∀ c ∈ written, c ≠ '\'' ∧ c ≠ '"' ∧ Text.isBlank c = false := by
    intro c hc
    rcases hwritten.mem hc with hc | rfl
    · obtain ⟨-, hsingle, hdouble, -, -, hblank⟩ := isPlain_iff.mp (hplain c hc)
      exact ⟨hsingle, hdouble, hblank⟩
    · decide
  have hblanks : ∀ c ∈ quote ++ written ++ quote, Text.isBlank c = false := by
    intro c hc
    rw [List.append_assoc, List.mem_append, List.mem_append] at hc
    rcases hc with hc | hc | hc
    · rcases hquotes c hc with rfl | rfl <;> rfl
    · exact (hclean c hc).2.2
    · rcases hquotes c hc with rfl | rfl <;> rfl
  rw [member, Text.trimBoth_append hlead hblanks htrail,
    Text.trimBoth_append (fun c hc => by simpa using hquotes c hc)
      (fun c hc => by simpa using ⟨(hclean c hc).1, (hclean c hc).2.1⟩)
      (fun c hc => by simpa using hquotes c hc)]
  exact hwritten.substitute_eq fun hmem => (isPlain_iff.mp (hplain _ hmem)).2.2.2.1 rfl

/-- A member holds neither a comma nor a closing bracket. -/
lemma IsMember.ne_of_mem {text : String} {cs : List Char} (h : IsMember text cs) {c : Char}
    (hc : c ∈ cs) : c ≠ ',' ∧ c ≠ ']' := by
  obtain ⟨lead, quote, written, trail, hplain, hlead, hquote, hwritten, htrail⟩ := h
  have hblank : ∀ {c}, Text.isBlank c = true → c ≠ ',' ∧ c ≠ ']' := by
    intro c hblank
    constructor <;> rintro rfl <;> cases hblank
  have hmark : ∀ {c}, c ∈ quote → c ≠ ',' ∧ c ≠ ']' := by
    intro c hc
    simp only [List.mem_cons, List.not_mem_nil, or_false] at hquote
    rcases hquote with rfl | rfl | rfl
    · cases hc
    · obtain rfl := List.mem_singleton.mp hc
      decide
    · obtain rfl := List.mem_singleton.mp hc
      decide
  simp only [List.mem_append] at hc
  rcases hc with (hc | (hc | hc) | hc) | hc
  · exact hblank (hlead c hc)
  · exact hmark hc
  · rcases hwritten.mem hc with hc | rfl
    · obtain ⟨hcomma, -, -, -, hbracket, -⟩ := isPlain_iff.mp (hplain c hc)
      exact ⟨hcomma, hbracket⟩
    · decide
  · exact hmark hc
  · exact hblank (htrail c hc)

/-! ### Reading a list -/

variable {urls : List String} {texts : List (List Char)}

lemma ne_of_mem_members (h : List.Forall₂ IsMember urls texts) {cs : List Char} (hcs : cs ∈ texts)
    {c : Char} (hc : c ∈ cs) : c ≠ ',' ∧ c ≠ ']' := by
  induction h with
  | nil => cases hcs
  | cons hmember _ ih =>
    rcases List.mem_cons.mp hcs with rfl | hcs
    · exact hmember.ne_of_mem hc
    · exact ih hcs

lemma map_member (h : List.Forall₂ IsMember urls texts) :
    texts.map (fun cs => String.ofList (member cs)) = urls := by
  induction h with
  | nil => rfl
  | cons hmember _ ih => rw [List.map_cons, ih, hmember.member_eq, String.ofList_toList]

/-- Joined members are read as their texts. -/
lemma members_intercalate (h : List.Forall₂ IsMember urls texts) :
    members ([','].intercalate texts) = urls.filter isWebLike := by
  by_cases hnone : texts = []
  · obtain rfl := hnone
    obtain rfl := List.forall₂_nil_right_iff.mp h
    decide
  · rw [members, Text.pieces_intercalate hnone fun cs hcs hc => (ne_of_mem_members h hcs hc).1 rfl,
      map_member h]

/-- A script assigns a list of addresses to a name, which it mentions there first. -/
inductive Assigns (name : String) : List String → String → Prop where
  | mk {urls : List String} (texts : List (List Char)) (before gap gap' after : List Char)
    (hgap : ∀ c ∈ gap, Text.isBlank c = true) (hgap' : ∀ c ∈ gap', Text.isBlank c = true)
    (hmembers : List.Forall₂ IsMember urls texts)
    (hfirst : ∀ i < before.length, ¬ name.toList <+:
      (before ++ assignment name.toList gap gap' ([','].intercalate texts) after).drop i) :
    Assigns name urls (String.ofList
      (before ++ assignment name.toList gap gap' ([','].intercalate texts) after))

/-- The addresses in a list that is assigned to a name are read back as they are and in order. -/
theorem addresses_of_assigned {name script : String} (h : Assigns name urls script) :
    addresses script name none = .ok (urls.filter isWebLike) := by
  obtain ⟨texts, before, gap, gap', after, hgap, hgap', hmembers, hfirst⟩ := h
  have hbracket : ']' ∉ [','].intercalate texts := by
    intro hmem
    rcases Text.mem_intercalate hmem with hsep | ⟨cs, hcs, hc⟩
    · cases hsep
    · exact (ne_of_mem_members hmembers hcs hc).2 rfl
  obtain ⟨found, hfound, hgroup⟩ := exists_search_assignment hgap hgap' hbracket hfirst
  have hinside : inside? (Text.replaceAll defaultPattern namePlace (escapePattern name))
      (String.ofList (before ++ assignment name.toList gap gap' ([','].intercalate texts) after)) =
        .ok (some ([','].intercalate texts)) := by
    have hcompiled := compile_listText name.toList
    rw [inside?, toList_default, String.toList_ofList]
    refine bind_eq_ok.mpr ⟨_, hcompiled, ?_⟩
    rw [hfound]
    exact congrArg Except.ok hgroup
  rw [addresses]
  simp only [Option.filter_none, Option.getD_none, hinside]
  rw [← members_intercalate hmembers]
  split
  next hempty => rw [List.isEmpty_iff.mp hempty]; rfl
  next => rfl

/-- Members in single quotes, in none and in double quotes. -/
def mixedTexts : List (List Char) :=
  [" 'http:\\/1' ".toList, "x".toList, "\"http:/2\"".toList]

/-- A script that assigns a list to the name `im.g` after one to another name. -/
def mixedScript : String :=
  String.ofList ("imag = ['http:/0'];".toList ++
    assignment "im.g".toList [' '] ['\n'] ([','].intercalate mixedTexts) [])

lemma isMember_mixed : List.Forall₂ IsMember ["http:/1", "x", "http:/2"] mixedTexts := by
  have hslash : Spelled "http:/1".toList "http:\\/1".toList :=
    .char 'h' (.char 't' (.char 't' (.char 'p' (.char ':' (.slash (.char '1' .nil))))))
  have hblank : ∀ c ∈ [' '], Text.isBlank c = true := List.all_eq_true.mp rfl
  have hnone : ∀ c ∈ [], Text.isBlank c = true := List.forall_mem_nil _
  refine .cons ?single (.cons ?bare (.cons ?double .nil))
  case single =>
    exact .mk [' '] ['\''] _ [' '] (List.all_eq_true.mp (by decide)) hblank (by decide) hslash hblank
  case bare =>
    exact .mk [] [] "x".toList [] (List.all_eq_true.mp (by decide)) hnone (by decide) (.refl _) hnone
  case double =>
    exact .mk [] ['"'] "http:/2".toList [] (List.all_eq_true.mp (by decide)) hnone (by decide)
      (.refl _) hnone

/-- Three members are read under a name with a special character, and one is no address. -/
theorem addresses_of_assigned_mixed :
    Assigns "im.g" ["http:/1", "x", "http:/2"] mixedScript ∧
      addresses mixedScript "im.g" none = .ok ["http:/1", "http:/2"] := by
  have h : Assigns "im.g" ["http:/1", "x", "http:/2"] mixedScript :=
    .mk mixedTexts "imag = ['http:/0'];".toList [' '] ['\n'] [] (List.all_eq_true.mp rfl)
      (List.all_eq_true.mp rfl) isMember_mixed (by decide +kernel)
  exact ⟨h, addresses_of_assigned h⟩

end Script

end MangaShelf
