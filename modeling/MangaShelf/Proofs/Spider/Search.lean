import Mathlib.Data.List.Infix
import MangaShelf.Config.Rules
import MangaShelf.Proofs.Pattern.Template
import MangaShelf.Proofs.Text.Percent

/-!
# Addresses of searches

The address of a search is the template of the site with one text in all the places that it keeps
for the query, and this text is the query as a component. It brings nothing into the address that
could end a part of it, and the query can be told from it: `searchUrl_of_parts`.
-/

namespace MangaShelf

namespace Text

variable {mark new text : List Char} {parts : List (List Char)}

/-! ### Marks in a text -/

/-- The parts of a text between all places where a mark stands. -/
structure PartsBetween (mark text : List Char) (parts : List (List Char)) : Prop where
  ne_nil : parts ≠ []
  unmarked : ∀ part ∈ parts, ¬ mark <:+: part
  joined : mark.intercalate parts = text

lemma intercalate_append {α : Type} (sep : List α) {xs ys : List (List α)} (hxs : xs ≠ [])
    (hys : ys ≠ []) :
    sep.intercalate (xs ++ ys) = sep.intercalate xs ++ sep ++ sep.intercalate ys := by
  induction xs with
  | nil => exact absurd rfl hxs
  | cons x xs ih =>
    by_cases hlast : xs = []
    · rw [hlast, List.singleton_append, List.intercalate_cons_of_ne_nil hys,
        List.intercalate_singleton]
    · have hne : xs ++ ys ≠ [] := fun h => hlast (List.append_eq_nil_iff.mp h).1
      rw [List.cons_append, List.intercalate_cons_of_ne_nil hne, ih hlast,
        List.intercalate_cons_of_ne_nil hlast]
      simp only [List.append_assoc]

/-- Every text has such parts. -/
lemma exists_partsBetween (hmark : mark ≠ []) (text : List Char) :
    ∃ parts, PartsBetween mark text parts := by
  by_cases h : mark <:+: text
  · -- any place of the mark will do: what is before and after it is shorter
    obtain ⟨before, after, htext⟩ := h
    obtain ⟨earlier, hearlier⟩ := exists_partsBetween hmark before
    obtain ⟨later, hlater⟩ := exists_partsBetween hmark after
    refine ⟨earlier ++ later, by simp [hearlier.ne_nil], fun part hpart => ?_, ?_⟩
    · rcases List.mem_append.mp hpart with hpart | hpart
      · exact hearlier.unmarked part hpart
      · exact hlater.unmarked part hpart
    · rw [intercalate_append mark hearlier.ne_nil hlater.ne_nil, hearlier.joined, hlater.joined,
        htext]
  · exact ⟨[text], List.cons_ne_nil _ _, by simpa using h, List.intercalate_singleton⟩
termination_by text.length
decreasing_by
  all_goals
    have hlength := congrArg List.length htext
    have hpos := List.length_pos_iff.mpr hmark
    simp only [List.length_append] at hlength
    omega

/-- A mark in the text parts it. -/
lemma PartsBetween.one_lt_length (h : PartsBetween mark text parts) (hmark : mark <:+: text) :
    1 < parts.length := by
  by_contra hfew
  have hpos := List.length_pos_iff.mpr h.ne_nil
  obtain ⟨part, rfl⟩ := List.length_eq_one_iff.mp (by omega : parts.length = 1)
  rw [← h.joined, List.intercalate_singleton] at hmark
  exact h.unmarked part (List.mem_singleton_self part) hmark

/-! ### Replacing marks -/

/-- What is left of a mark is passed over. -/
lemma substitute_passed (needle new passed cs : List Char) :
    substitute needle new passed.length (passed ++ cs) = substitute needle new 0 cs := by
  induction passed with
  | nil => rfl
  | cons c passed ih => exact ih

lemma substitute_of_unmarked {part : List Char} (h : ¬ mark <:+: part) :
    substitute mark new 0 part = part := by
  induction part with
  | nil => rfl
  | cons c part ih =>
    rw [List.infix_cons_iff, not_or] at h
    rw [substitute_cons_of_not h.1, ih h.2]

/-- A mark whose first character comes once in it does not begin inside a part before it. -/
lemma not_prefix_of_unmarked {first c : Char} {tail part : List Char} (hfirst : first ∉ tail)
    (h : ¬ first :: tail <:+: c :: part) (cs : List Char) :
    ¬ first :: tail <+: c :: (part ++ (first :: tail ++ cs)) := by
  rw [← List.cons_append]
  intro hprefix
  rcases List.prefix_or_prefix_of_prefix hprefix (List.prefix_append _ _) with hinside | hacross
  · exact h hinside.isInfix
  · obtain ⟨rest, hrest⟩ := hacross
    rw [← hrest, List.prefix_append_right_inj] at hprefix
    cases rest with
    | nil =>
      rw [List.append_nil] at hrest
      exact h (hrest ▸ List.infix_refl _)
    | cons d rest =>
      have hd : d = first := by
        rw [hrest] at hprefix
        exact (List.cons_prefix_cons.mp hprefix).1
      obtain ⟨-, htail⟩ := List.cons.inj hrest
      exact hfirst (htail ▸ by simp [hd])

lemma substitute_append_mark {first : Char} {tail part : List Char} (hfirst : first ∉ tail)
    (h : ¬ first :: tail <:+: part) (cs : List Char) :
    substitute (first :: tail) new 0 (part ++ (first :: tail ++ cs)) =
      part ++ new ++ substitute (first :: tail) new 0 cs := by
  induction part with
  | nil =>
    have hprefix : (first :: tail).isPrefixOf (first :: (tail ++ cs)) = true :=
      List.isPrefixOf_iff_prefix.mpr (List.prefix_append (first :: tail) cs)
    rw [List.nil_append, List.nil_append, List.cons_append, substitute, if_pos hprefix]
    exact congrArg (new ++ ·) (substitute_passed _ new tail cs)
  | cons c part ih =>
    have hnot := not_prefix_of_unmarked hfirst h cs
    rw [List.infix_cons_iff, not_or] at h
    rw [List.cons_append, substitute_cons_of_not hnot, ih h.2]
    rfl

/-- Each mark between the parts is replaced, and nothing else. -/
lemma substitute_intercalate {first : Char} {tail : List Char} (hfirst : first ∉ tail)
    (h : PartsBetween (first :: tail) text parts) :
    substitute (first :: tail) new 0 text = new.intercalate parts := by
  obtain ⟨hne, hunmarked, rfl⟩ := h
  induction parts with
  | nil => exact absurd rfl hne
  | cons part parts ih =>
    obtain ⟨hpart, hparts⟩ := List.forall_mem_cons.mp hunmarked
    by_cases hlast : parts = []
    · rw [hlast, List.intercalate_singleton, List.intercalate_singleton,
        substitute_of_unmarked hpart]
    · rw [List.intercalate_cons_of_ne_nil hlast, List.intercalate_cons_of_ne_nil hlast,
        List.append_assoc part, substitute_append_mark hfirst hpart, ih hlast hparts]

/-! ### What is between the parts -/

/-- Without what is left out, nothing tells where the parts are joined. -/
lemma filter_intercalate {p : Char → Bool} (hnew : ∀ c ∈ new, p c = false) :
    (new.intercalate parts).filter p = parts.flatten.filter p := by
  have hnothing : new.filter p = [] := List.filter_eq_nil_iff.mpr fun c hc => by simp [hnew c hc]
  induction parts with
  | nil => rfl
  | cons part parts ih =>
    by_cases hlast : parts = []
    · simp [hlast]
    · rw [List.intercalate_cons_of_ne_nil hlast, List.filter_append, List.filter_append, hnothing,
        ih, List.append_nil, List.flatten_cons, List.filter_append]

lemma length_intercalate (new : List Char) (parts : List (List Char)) :
    (new.intercalate parts).length = parts.flatten.length + (parts.length - 1) * new.length := by
  induction parts with
  | nil => simp
  | cons part parts ih =>
    by_cases hlast : parts = []
    · simp [hlast]
    · have hpos := List.length_pos_iff.mpr hlast
      rw [List.intercalate_cons_of_ne_nil hlast, List.length_append, List.length_append, ih,
        List.flatten_cons, List.length_append, List.length_cons]
      obtain ⟨n, hn⟩ : ∃ n, parts.length = n + 1 := ⟨parts.length - 1, by omega⟩
      rw [hn, Nat.add_sub_cancel, Nat.add_sub_cancel, Nat.succ_mul]
      omega

/-- What stands between at least two parts can be told from the whole. -/
lemma eq_of_intercalate_eq {new' : List Char} (hparts : 1 < parts.length)
    (h : new.intercalate parts = new'.intercalate parts) : new = new' := by
  -- the places come equally often in both, so what stands there is of one length
  have hlength : new.length = new'.length := by
    have htotal := congrArg List.length h
    rw [length_intercalate, length_intercalate, Nat.add_left_cancel_iff] at htotal
    exact Nat.eq_of_mul_eq_mul_left (by omega) htotal
  match parts with
  | part :: next :: later =>
    have hne : next :: later ≠ [] := List.cons_ne_nil _ _
    rw [List.intercalate_cons_of_ne_nil hne, List.intercalate_cons_of_ne_nil hne,
      List.append_assoc, List.append_assoc] at h
    exact (List.append_inj (List.append_cancel_left h) hlength).1

end Text

namespace Config.Spider

open Text (encodeUnits IsComponent isBlank PartsBetween percentBytes unitsOf utf8Text?)

/-- A character that ends a part of an address, a brace or a blank. -/
def isStructural (c : Char) : Bool :=
  "/?&#\x7b\x7d".toList.contains c || isBlank c

/-- A component has no structural character in it. -/
lemma isStructural_of_mem {e : List Char} (h : IsComponent e) {c : Char} (hc : c ∈ e) :
    isStructural c = false := by
  have hends : "/?&#\x7b\x7d".toList.map Char.toNat = [0x2F, 0x3F, 0x26, 0x23, 0x7B, 0x7D] :=
    congrArg (List.map Char.toNat) String.toList_ofList
  obtain hkept | rfl := h.mem hc
  · rw [isStructural, Bool.or_eq_false_iff]
    have hcode := Text.mem_unreserved_iff.mp hkept
    simp only [List.mem_cons, List.not_mem_nil, or_false] at hcode
    constructor
    · rw [← Bool.not_eq_true, List.contains_iff_mem, ← Text.mem_map_toNat, hends]
      simp only [List.mem_cons, List.not_mem_nil, or_false]
      omega
    · simp only [isBlank, Bool.or_eq_false_iff, Bool.and_eq_false_iff, decide_eq_false_iff_not,
        beq_eq_false_iff_ne]
      omega
  · decide

lemma searchUrl_eq (spider : Spider) (query : String) {parts : List (List Char)}
    (h : PartsBetween queryMark.toList spider.targetUrl.toList parts) :
    (spider.searchUrl query).toList = (Text.encodeComponent query).toList.intercalate parts := by
  rw [searchUrl, Text.replaceAll, String.toList_ofList]
  exact Text.substitute_intercalate (by decide) h

/-- The query can be told from its component. -/
lemma encodeComponent_injective : Function.Injective Text.encodeComponent := by
  intro query other h
  have hread (s : String) : utf8Text? (percentBytes (Text.encodeComponent s).toList) =
      some s.toList := by
    rw [Text.encodeComponent, String.toList_ofList,
      Text.percentBytes_percentEncode (by decide), Text.utf8Text?_flatMap]
  have heq := hread query
  rw [h, hread other] at heq
  exact String.toList_inj.mp (Option.some.inj heq).symm

/-- The address of a search is the template of the site with a component in each place for the
query and nowhere else. The component is what `encodeURIComponent` gives for the query, and read
back it gives the query. So the structural characters of the address are those of the template
between these places, and if there is such a place, another query has another address. -/
theorem searchUrl_of_parts (spider : Spider) (query : String) :
    (∃ parts, PartsBetween queryMark.toList spider.targetUrl.toList parts) ∧
    ∃ e, IsComponent e ∧
      encodeUnits (query.toList.flatMap unitsOf) = some e ∧
      utf8Text? (percentBytes e) = some query.toList ∧
      (∀ parts, PartsBetween queryMark.toList spider.targetUrl.toList parts →
        (spider.searchUrl query).toList = e.intercalate parts ∧
        (spider.searchUrl query).toList.filter isStructural =
          parts.flatten.filter isStructural) ∧
      (queryMark.toList <:+: spider.targetUrl.toList →
        ∀ other, spider.searchUrl other = spider.searchUrl query → other = query) := by
  have hcomponent : (Text.encodeComponent query).toList =
      Text.percentEncode Text.isUnreservedMark query.toList := by
    rw [Text.encodeComponent, String.toList_ofList]
  have hmark : queryMark.toList ≠ [] := by decide
  have hparts := Text.exists_partsBetween hmark spider.targetUrl.toList
  refine ⟨hparts, Text.percentEncode Text.isUnreservedMark query.toList,
    Text.isComponent_percentEncode _, Text.encodeUnits_flatMap _, ?_, fun parts h => ?_, ?_⟩
  · rw [Text.percentBytes_percentEncode (by decide), Text.utf8Text?_flatMap]
  · have hurl := searchUrl_eq spider query h
    rw [hcomponent] at hurl
    refine ⟨hurl, ?_⟩
    rw [hurl, Text.filter_intercalate]
    exact fun c hc => isStructural_of_mem (Text.isComponent_percentEncode _) hc
  · intro hplace other hother
    obtain ⟨parts, h⟩ := hparts
    have hurls := congrArg String.toList hother
    rw [searchUrl_eq spider other h, searchUrl_eq spider query h] at hurls
    have hcomponents := Text.eq_of_intercalate_eq (h.one_lt_length hplace) hurls
    exact encodeComponent_injective (String.toList_inj.mp hcomponents)

/-- A query with a slash and a letter that is no ASCII, in both places of a template. -/
theorem searchUrl_of_parts_of_title :
    let spider : Spider := ⟨"s", "S", none, "http://a/\x7bquery\x7d?q=\x7bquery\x7d", none⟩
    spider.searchUrl "a/é" = "http://a/a%2F%C3%A9?q=a%2F%C3%A9" ∧
      ∀ other, spider.searchUrl other = spider.searchUrl "a/é" → other = "a/é" := by
  intro spider
  obtain ⟨-, e, -, hunits, -, hparts, hother⟩ := searchUrl_of_parts spider "a/é"
  have hbetween : PartsBetween queryMark.toList spider.targetUrl.toList
      ["http://a/".toList, "?q=".toList, []] := ⟨by decide, by decide +kernel, by decide +kernel⟩
  have he : e = "a%2F%C3%A9".toList := by
    have hvalue : encodeUnits ("a/é".toList.flatMap unitsOf) = some "a%2F%C3%A9".toList := by
      decide +kernel
    exact Option.some.inj (hunits.symm.trans hvalue)
  refine ⟨String.toList_inj.mp ?_, hother ?_⟩
  · rw [(hparts _ hbetween).1, he]
    decide +kernel
  · exact ⟨"http://a/".toList, "?q=\x7bquery\x7d".toList, by decide +kernel⟩

end Config.Spider

end MangaShelf
