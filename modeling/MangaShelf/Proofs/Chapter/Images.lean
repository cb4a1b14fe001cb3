import Mathlib.Tactic.Choose
import MangaShelf.Markup.Document
import MangaShelf.Proofs.Chapter.Mishap

/-!
# Where page images come from

The pages of a chapter come from one source: the lists in the scripts of the page, or else the first
selector that finds an address. Collecting them fails only with a mishap of a source that is looked
at: `collect_from_first_source`.
-/

namespace MangaShelf

open Config (Arranger ArrayRule FieldRule PageRule)
open Extraction (Subject resultsOf)
open Markup (Cursor Node)

/-! ### Scripts -/

namespace Script

/-- The texts of the scripts of a page that contain all of some words, in document order. -/
def scriptsWith (page : Node) (words : String) : List String :=
  (((Cursor.ofRoot page).selfAndDescendants.filter fun c => c.name? == some "script").map
    (·.node.textContent)).filter fun script => (Text.words words).all fun w => Text.contains script w

lemma ofName_eq (name : String) (cs : List Cursor) :
    Selector.ofName (some name) cs = cs.filter fun c => c.name? == some name := by
  refine List.filter_congr fun c _ => ?_
  obtain ⟨node, before, after, up, place⟩ := c
  cases node <;> rfl

/-- The scripts of a page are searched in document order. -/
lemma matching_eq (page : Node) (words : String) :
    matching (.ofPage page) words = .ok (scriptsWith page words) := by
  have hcandidates : (Subject.ofPage page).candidates (some "script") =
      .ok (((Cursor.ofRoot page).selfAndDescendants.filter
        fun c => c.name? == some "script").map .element) := by
    rw [← ofName_eq]
    exact Subject.candidates_of_name _ (by decide) queries_script
  rw [matching, hcandidates, scriptsWith]
  simp only [bind, Except.bind, pure, Except.pure, List.map_map]
  rfl

/-- What is found in a script looks like web addresses, whatever the pattern is. -/
lemma isWebLike_of_addresses {script name : String} {pattern : Option String} {urls : List String}
    (h : addresses script name pattern = .ok urls) {url : String} (hurl : url ∈ urls) :
    isWebLike url = true := by
  unfold addresses at h
  dsimp only at h
  split at h
  next inside _ =>
    cases h
    split at hurl
    next => cases hurl
    next => exact (List.mem_filter.mp hurl).2
  next => cases h; cases hurl
  next => cases h; cases hurl
  next => cases h

end Script

namespace Page

/-- The addresses in the scripts of a page, script by script and in each for one name after the
other. -/
inductive Scripted (page : Node) (rule : ArrayRule) : List String → Prop where
  | mk {found : String → String → List String}
    (hfound : ∀ script ∈ Script.scriptsWith page rule.scriptMatch, ∀ name ∈ rule.variableNames,
      Script.addresses script name rule.matchPattern = .ok (found script name)) :
    Scripted page rule ((Script.scriptsWith page rule.scriptMatch).flatMap fun script =>
      rule.variableNames.flatMap (found script))

variable {page : Node} {rule : Option PageRule} {urls : List String}

lemma scripted_of_allAddresses {arrayRule : ArrayRule}
    (h : Script.allAddresses Script.addresses (.ofPage page) arrayRule = .ok urls) :
    Scripted page arrayRule urls := by
  rw [Script.allAddresses, Script.matching_eq] at h
  obtain ⟨_, ⟨⟩, h⟩ := bind_eq_ok.mp h
  obtain ⟨lists, hlists, h⟩ := bind_eq_ok.mp h
  obtain rfl := pure_eq_ok.mp h
  obtain ⟨all, hall, rfl⟩ := exists_map_of_mapM hlists
  have hnames : ∀ script ∈ Script.scriptsWith page arrayRule.scriptMatch,
      ∃ found : String → List String, (∀ name ∈ arrayRule.variableNames,
        Script.addresses script name arrayRule.matchPattern = .ok (found name)) ∧
      all script = arrayRule.variableNames.flatMap found := by
    intro script hscript
    obtain ⟨lists, hlists, h⟩ := bind_eq_ok.mp (hall script hscript)
    obtain ⟨found, hfound, rfl⟩ := exists_map_of_mapM hlists
    exact ⟨found, hfound, pure_eq_ok.mp h⟩
  choose! found hfound hjoined using hnames
  have hlists : ((Script.scriptsWith page arrayRule.scriptMatch).map all).flatten =
      (Script.scriptsWith page arrayRule.scriptMatch).flatMap fun script =>
        arrayRule.variableNames.flatMap (found script) :=
    congrArg List.flatten (List.map_congr_left hjoined)
  exact hlists ▸ .mk hfound

lemma Scripted.isWebLike {arrayRule : ArrayRule} (h : Scripted page arrayRule urls) {url : String}
    (hurl : url ∈ urls) : Script.isWebLike url = true := by
  obtain ⟨hfound⟩ := h
  obtain ⟨script, hscript, hurl⟩ := List.mem_flatMap.mp hurl
  obtain ⟨name, hname, hurl⟩ := List.mem_flatMap.mp hurl
  exact Script.isWebLike_of_addresses (hfound script hscript name hname) hurl

/-! ### Selectors -/

section

variable (page : Subject) (rule : Option PageRule)

/-- The first of some selectors that finds an address stands at a place among them, and finds these
addresses. -/
inductive FirstAt : List String → Nat → List String → Prop where
  | here {selector : String} {rest urls : List String} (h : foundBy page rule selector = .ok urls)
    (hne : urls ≠ []) : FirstAt (selector :: rest) 0 urls
  | later {selector : String} {rest urls : List String} {place : Nat}
    (hnone : foundBy page rule selector = .ok []) (h : FirstAt rest place urls) :
    FirstAt (selector :: rest) (place + 1) urls

end

section

variable {page : Subject} {r : PageRule} {tried : List String} {place : Nat}

lemma FirstAt.ne_nil (h : FirstAt page rule tried place urls) : urls ≠ [] := by
  induction h with
  | here _ hne => exact hne
  | later _ _ ih => exact ih

/-- The search for images ends with the addresses of the first selector that finds some, or with
none at all. -/
lemma firstFound_eq_ok :
    firstFound page rule tried = .ok urls ↔ (∃ place, FirstAt page rule tried place urls) ∨
      urls = [] ∧ ∀ selector ∈ tried, foundBy page rule selector = .ok [] := by
  induction tried with
  | nil =>
    constructor
    · rintro ⟨⟩
      exact .inr ⟨rfl, by simp⟩
    · rintro (⟨_, ⟨⟩⟩ | ⟨rfl, -⟩)
      rfl
  | cons selector rest ih =>
    rw [firstFound_cons, bind_eq_ok]
    constructor
    · rintro ⟨found, hfound, h⟩
      cases found with
      | nil =>
        rcases ih.mp h with ⟨place, hplace⟩ | ⟨rfl, hnone⟩
        · exact .inl ⟨place + 1, .later hfound hplace⟩
        · exact .inr ⟨rfl, List.forall_mem_cons.mpr ⟨hfound, hnone⟩⟩
      | cons url found =>
        cases h
        exact .inl ⟨0, .here hfound (List.cons_ne_nil url found)⟩
    · rintro (⟨place, hplace⟩ | ⟨rfl, hnone⟩)
      · cases hplace with
        | here h hne => exact ⟨urls, h, if_neg (by simp [hne])⟩
        | later hnone h => exact ⟨[], hnone, ih.mpr (.inl ⟨_, h⟩)⟩
      · obtain ⟨hfirst, hrest⟩ := List.forall_mem_cons.mp hnone
        exact ⟨[], hfirst, ih.mpr (.inr ⟨rfl, hrest⟩)⟩

lemma isWebLike_of_foundBy {selector : String} (h : foundBy page rule selector = .ok urls)
    {url : String} (hurl : url ∈ urls) : Script.isWebLike url = true := by
  obtain ⟨v, -, rfl⟩ := map_eq_ok.mp h
  split at hurl
  next => exact (List.mem_filter.mp hurl).2
  next => cases hurl

lemma FirstAt.isWebLike (h : FirstAt page rule tried place urls) {url : String}
    (hurl : url ∈ urls) : Script.isWebLike url = true := by
  induction h with
  | here h _ => exact isWebLike_of_foundBy h hurl
  | later _ _ ih => exact ih hurl

/-! ### The newest first -/

/-- A rule with its images from the other end. -/
def newestFirst (r : PageRule) : PageRule :=
  { r with arranger := some .newestFirst }

lemma webTexts_reverse (vs : List Json) : webTexts vs.reverse = (webTexts vs).reverse := by
  simp [webTexts]

/-- A selector finds the same addresses from the other end. -/
lemma foundBy_newestFirst {selector : String} (horder : r.arranger ≠ some .newestFirst)
    (h : foundBy page (some r) selector = .ok urls) :
    foundBy page (some (newestFirst r)) selector = .ok urls.reverse := by
  obtain ⟨v, hv, rfl⟩ := map_eq_ok.mp h
  obtain ⟨subjects, vs, hsubjects, hvs, rfl⟩ := (Extraction.extract_eq_ok_of_multiple rfl).mp hv
  have hreversed : Extraction.extract page (imageRule (some (newestFirst r)) selector) =
      .ok (.array vs.reverse) :=
    (Extraction.extract_eq_ok_of_multiple rfl).mpr ⟨subjects, vs, hsubjects, hvs, rfl⟩
  have hasfound : Arranger.arrange (imageRule (some r) selector).arranger vs = vs :=
    Extraction.arrange_of_ne horder vs
  refine map_eq_ok.mpr ⟨_, hreversed, ?_⟩
  rw [hasfound]
  exact (webTexts_reverse vs).symm

/-- The same selector is the first that finds an address. -/
lemma FirstAt.newestFirst (horder : r.arranger ≠ some .newestFirst)
    (h : FirstAt page (some r) tried place urls) :
    FirstAt page (some (newestFirst r)) tried place urls.reverse := by
  induction h with
  | here h hne => exact .here (foundBy_newestFirst horder h) (by simpa using hne)
  | later hnone _ ih => exact .later (foundBy_newestFirst horder hnone) ih

end

/-! ### Pages -/

lemma numbers_numbered (urls : List String) :
    (numbered urls).map (·.number) = List.range' 1 (numbered urls).length := by
  refine List.ext_getElem (by simp) fun i _ _ => ?_
  simp [numbered, Nat.add_comm]

@[simp] lemma urls_numbered (urls : List String) : (numbered urls).map (·.url) = urls := by
  rw [numbered, List.map_map]
  exact List.zipIdx_map_fst 0 urls

/-- Where the images of a page can come from: the lists in its scripts, or the selector at a place
among those of the rule. -/
inductive Origin where
  | scripts
  | selector (place : Nat)

/-- A source that is looked at, as none before it has an address, supplies its addresses. -/
inductive Supplies (page : Node) (rule : Option PageRule) : Origin → List String → Prop where
  | scripts {arrayRule : ArrayRule} {urls : List String}
    (hrule : rule.bind (·.arrayVar) = some arrayRule) (h : Scripted page arrayRule urls)
    (hne : urls ≠ []) : Supplies page rule .scripts urls
  | selector {place : Nat} {urls : List String}
    (hscripts : scripted Script.addresses (.ofPage page) rule = .ok [])
    (h : FirstAt (.ofPage page) rule (selectors rule) place urls) :
    Supplies page rule (.selector place) urls

/-- Pages are numbered from one and lead to web addresses, all from one source. There are none only
if no source has any, and those that a selector finds come from the same one with the newest
first. -/
structure FromFirstSource (page : Node) (rule : Option PageRule) (pages : List Page) : Prop where
  numbers : pages.map (·.number) = List.range' 1 pages.length
  webLike : ∀ p ∈ pages, Script.isWebLike p.url = true
  supplied : pages ≠ [] → ∃ origin, Supplies page rule origin (pages.map (·.url))
  exhausted : pages = [] → scripted Script.addresses (.ofPage page) rule = .ok [] ∧
    ∀ selector ∈ selectors rule, foundBy (.ofPage page) rule selector = .ok []
  reversed : ∀ r place, rule = some r → r.arranger ≠ some .newestFirst →
    Supplies page rule (.selector place) (pages.map (·.url)) → ∃ reversed,
      collect Script.addresses (.ofPage page) (some (newestFirst r)) = .ok reversed ∧
      reversed.map (·.url) = (pages.map (·.url)).reverse ∧
      Supplies page (some (newestFirst r)) (.selector place) (reversed.map (·.url))

variable {origin : Origin} {pages : List Page}

lemma numbered_eq_nil : numbered urls = [] ↔ urls = [] := by
  rw [← List.map_eq_nil_iff (f := (·.url)), urls_numbered]

lemma Supplies.isWebLike (h : Supplies page rule origin urls) {url : String} (hurl : url ∈ urls) :
    Script.isWebLike url = true := by
  cases h with
  | scripts _ h _ => exact h.isWebLike hurl
  | selector _ h => exact h.isWebLike hurl

lemma Supplies.ne_nil (h : Supplies page rule origin urls) : urls ≠ [] := by
  cases h with
  | scripts _ _ hne => exact hne
  | selector _ h => exact h.ne_nil

/-- The pages are those of a source that supplies addresses, or there is no address anywhere. -/
lemma collect_cases (h : collect Script.addresses (.ofPage page) rule = .ok pages) :
    ∃ urls, pages = numbered urls ∧ ((∃ origin, Supplies page rule origin urls) ∨ urls = [] ∧
      scripted Script.addresses (.ofPage page) rule = .ok [] ∧
      ∀ selector ∈ selectors rule, foundBy (.ofPage page) rule selector = .ok []) := by
  rw [collect_eq] at h
  obtain ⟨urls, hurls, h⟩ := bind_eq_ok.mp h
  cases urls with
  | nil =>
    obtain ⟨urls, hfound, rfl⟩ := map_eq_ok.mp h
    refine ⟨urls, rfl, ?_⟩
    rcases firstFound_eq_ok.mp hfound with ⟨place, hfirst⟩ | ⟨rfl, hnone⟩
    · exact .inl ⟨_, .selector hurls hfirst⟩
    · exact .inr ⟨rfl, hurls, hnone⟩
  | cons url urls =>
    cases h
    refine ⟨_, rfl, .inl ⟨.scripts, ?_⟩⟩
    unfold scripted at hurls
    split at hurls
    next arrayRule hrule =>
      exact .scripts hrule (scripted_of_allAddresses hurls) (List.cons_ne_nil url urls)
    next => cases hurls

lemma collect_of_firstAt {place : Nat}
    (hscripts : scripted Script.addresses (.ofPage page) rule = .ok [])
    (h : FirstAt (.ofPage page) rule (selectors rule) place urls) :
    collect Script.addresses (.ofPage page) rule = .ok (numbered urls) := by
  rw [collect_eq, hscripts]
  exact map_eq_ok.mpr ⟨urls, firstFound_eq_ok.mpr (.inl ⟨place, h⟩), rfl⟩

/-- Collecting the pages of a chapter ends well exactly without a mishap: the scripts are searched
with a sound pattern, and each selector that is tried can be applied. The pages are then those of
the first source that has any. -/
theorem collect_from_first_source (page : Node) (rule : Option PageRule) :
    ((∃ pages, collect Script.addresses (.ofPage page) rule = .ok pages) ↔
      ∀ failure, ¬ Mishap Script.addresses (.ofPage page) rule failure) ∧
    ∀ pages, collect Script.addresses (.ofPage page) rule = .ok pages →
      FromFirstSource page rule pages := by
  refine ⟨(failsFor_collect _ _ _).exists_ok_iff, fun pages h => ?_⟩
  obtain ⟨urls, rfl, hsource⟩ := collect_cases h
  constructor
  case numbers => exact numbers_numbered urls
  case webLike =>
    intro p hp
    have hurl : p.url ∈ urls := urls_numbered urls ▸ List.mem_map_of_mem hp
    rcases hsource with ⟨origin, hsupplies⟩ | ⟨rfl, -⟩
    · exact hsupplies.isWebLike hurl
    · cases hurl
  case supplied =>
    intro hne
    rw [urls_numbered]
    rcases hsource with hsupplies | ⟨rfl, -⟩
    · exact hsupplies
    · exact absurd rfl hne
  case exhausted =>
    intro hnone
    rcases hsource with ⟨origin, hsupplies⟩ | ⟨-, hall⟩
    · exact absurd (numbered_eq_nil.mp hnone) hsupplies.ne_nil
    · exact hall
  case reversed =>
    rintro r place rfl horder hsupplies
    rw [urls_numbered] at hsupplies ⊢
    cases hsupplies with
    | selector hscripts hfirst =>
      have hreversed := hfirst.newestFirst horder
      refine ⟨numbered urls.reverse, collect_of_firstAt hscripts hreversed, urls_numbered _, ?_⟩
      rw [urls_numbered]
      exact .selector hscripts hreversed

/-- A rule for the images of a page whose path has an operator with malformed arguments. -/
def malformedImageRule : PageRule :=
  { FieldRule.empty with
    selector := some "p"
    parsesJson := true
    jsonPath := some "$.\x60sub(x)\x60"
    arrayVar := none
    selectors := [] }

/-- A page with one image. -/
def imagePage : Node :=
  Markup.document "<p src=\"http://a/1.jpg\">[1]</p>"

/-- A path with a malformed operator finds nothing in the text of the image, but its address is not
collected. -/
theorem collect_of_malformed_operator :
    collect Script.addresses (.ofPage imagePage)
        (some { malformedImageRule with parsesJson := false }) = .ok [⟨1, "http://a/1.jpg"⟩] ∧
      ∀ pages, collect Script.addresses (.ofPage imagePage) (some malformedImageRule) ≠
        .ok pages := by
  exact ⟨toOption_eq_some.mp (by decide +kernel), ne_ok_of_toOption (by decide +kernel)⟩

end Page

end MangaShelf
