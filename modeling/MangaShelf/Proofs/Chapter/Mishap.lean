import Mathlib.Tactic.Lemma
import MangaShelf.Proofs.Chapter.Resolution
import MangaShelf.Proofs.Extraction.Embedded
import MangaShelf.Proofs.Extraction.Shape
import MangaShelf.Proofs.Selector.Order

/-!
# What can go wrong on the way to a chapter

Most of what a page gets wrong ends in an empty part of a result. The mishaps here do not: each part
of the way to the pages of a chapter fails with such a mishap only, and it does not end well where
there is one: `failsFor_resolve`.
-/

namespace MangaShelf

open Config (Arranger FieldRule PageRule ProfilePage ProfileRules Spider)
open Extraction (Subject)

/-- A failure that the pages or the rules of a site bring about. -/
inductive Failure.OfSite : Failure → Prop where
  | tooDeep : OfSite .tooDeep
  | reference (fault : Url.ReferenceFault) : OfSite (.reference fault)
  | path (fault : JsonPath.Fault) : OfSite (.path fault)
  | selector {fault : Selector.Fault} (h : fault ≠ .rejected) : OfSite (.selector fault)
  | pattern (fault : Pattern.Fault) : OfSite (.pattern fault)

/-! ### Extraction -/

namespace Extraction

lemma ofSite_of_candidates {s : Subject} {selector : Option String} {failure : Failure}
    (h : s.candidates selector = .error failure) : failure.OfSite := by
  unfold Subject.candidates at h
  split at h
  next => cases h
  next => cases h
  next =>
    dsimp only at h
    split at h
    next => cases h
    next => cases h
    next fault hrejected _ =>
      cases h
      exact .selector fun heq => hrejected (heq ▸ rfl)

lemma Fails.ofSite {s : Subject} {rule : FieldRule} {failure : Failure} (h : Fails s rule failure) :
    failure.OfSite := by
  cases h with
  | tooDeep => exact .tooDeep
  | path => exact .path _

/-- What goes wrong when a rule is applied to a subject: its selector is one that is neither run nor
rejected, or embedded JSON cannot be read on a candidate. -/
inductive Mishap (s : Subject) (rule : FieldRule) : Failure → Prop where
  | selector {failure : Failure} (h : s.candidates rule.selector = .error failure) :
    Mishap s rule failure
  | embedded {subjects : List Subject} {c : Subject} {failure : Failure}
    (hsubjects : s.candidates rule.selector = .ok subjects) (hc : c ∈ readBy rule subjects)
    (h : Fails c rule failure) : Mishap s rule failure

lemma Mishap.ofSite {s : Subject} {rule : FieldRule} {failure : Failure}
    (h : Mishap s rule failure) : failure.OfSite := by
  cases h with
  | selector h => exact ofSite_of_candidates h
  | embedded _ _ h => exact h.ofSite

lemma failsFor_read (s : Subject) (rule : FieldRule) : FailsFor (Fails s rule) (read s rule) := by
  constructor
  · intro failure hfailure
    rcases fromJson_cases s rule with hpassed | ⟨v, hv⟩ | ⟨other, hother⟩
    · rw [read, hpassed] at hfailure
      cases hfailure
    · rw [read_of_decides hv] at hfailure
      cases hfailure
    · rw [read_of_fails hother] at hfailure
      cases hfailure
      exact hother
  · intro failure hfails v hv
    rw [read_of_fails hfails] at hv
    cases hv

lemma failsFor_extract (s : Subject) (rule : FieldRule) :
    FailsFor (Mishap s rule) (extract s rule) := by
  have hbind : extract s rule = (s.candidates rule.selector >>= fun subjects =>
      (resultsOf rule (readBy rule subjects)).map (gathered rule)) := by
    cases hsubjects : s.candidates rule.selector with
    | error failure => rw [extract_of_no_candidates hsubjects]; rfl
    | ok subjects => rw [extract_of_candidates hsubjects]; rfl
  have hall := (FailsFor.error_eq (s.candidates rule.selector)).bind fun subjects _ =>
    ((FailsFor.mapM (readBy rule subjects) fun c _ => failsFor_read c rule).bind_const
      fun read _ => FailsFor.ok (read.flatMap results)).map (gathered rule)
  rw [hbind]
  refine hall.congr fun failure => ⟨?_, ?_⟩
  · rintro (h | ⟨subjects, hsubjects, ⟨c, hc, h⟩ | h⟩)
    · exact .selector h
    · exact .embedded hsubjects hc h
    · exact h.elim
  · rintro (h | ⟨hsubjects, hc, h⟩)
    · exact .inl h
    · exact .inr ⟨_, hsubjects, .inl ⟨_, hc, h⟩⟩

end Extraction

/-! ### Chapter lists -/

namespace Chapter

/-- What goes wrong when the chapters on the page at the address `base` are collected. -/
inductive ListMishap (page : Subject) (rule : FieldRule) (base : String) : Failure → Prop where
  | selector {failure : Failure} (hgiven : rule.selector.getD "" ≠ "")
    (h : page.candidates rule.selector = .error failure) : ListMishap page rule base failure
  | embedded {subjects : List Subject} {c : Subject} {failure : Failure}
    (hgiven : rule.selector.getD "" ≠ "") (hsubjects : page.candidates rule.selector = .ok subjects)
    (hc : c ∈ subjects) (h : Extraction.Fails c (linkRule rule) failure) :
    ListMishap page rule base failure
  /-- A link cannot be resolved. -/
  | link {found : List (String × String)} {title url : String} {failure : Failure}
    (hgiven : rule.selector.getD "" ≠ "") (hfound : links page rule = .ok found)
    (hlink : (title, url) ∈ found) (h : absolute (Text.trim url) base = .error failure) :
    ListMishap page rule base failure

lemma ofSite_of_absolute {url base : String} {failure : Failure}
    (h : absolute url base = .error failure) : failure.OfSite := by
  unfold absolute at h
  split at h
  next => cases h
  next fault _ =>
    cases h
    exact .reference fault

lemma ListMishap.ofSite {page : Subject} {rule : FieldRule} {base : String} {failure : Failure}
    (h : ListMishap page rule base failure) : failure.OfSite := by
  cases h with
  | selector _ h => exact Extraction.ofSite_of_candidates h
  | embedded _ _ _ h => exact h.ofSite
  | link _ _ _ h => exact ofSite_of_absolute h

/-- The links that a rule finds are kept back by its selector and by embedded JSON. -/
lemma failsFor_links (page : Subject) (rule : FieldRule) :
    FailsFor (fun failure => page.candidates rule.selector = .error failure ∨
      ∃ subjects, page.candidates rule.selector = .ok subjects ∧
        ∃ c ∈ subjects, Extraction.Fails c (linkRule rule) failure) (links page rule) := by
  have hall := (FailsFor.error_eq (page.candidates rule.selector)).bind fun subjects _ =>
    (FailsFor.mapM subjects fun c _ =>
      (Extraction.failsFor_read c (linkRule rule)).bind_const
        fun v _ => FailsFor.ok (linksOf c v)).bind_const fun found _ => FailsFor.ok found.flatten
  exact hall.congr (by simp)

/-- Numbering fails for the links that cannot be resolved. -/
lemma failsFor_numbered (base : String) (first : Nat) (links : List (String × String)) :
    FailsFor (fun failure => ∃ link ∈ links, absolute (Text.trim link.2) base = .error failure)
      (numbered base first links) := by
  induction links generalizing first with
  | nil => exact (FailsFor.ok []).congr (by simp)
  | cons link rest ih =>
    obtain ⟨title, url⟩ := link
    have hall := (FailsFor.error_eq (absolute (Text.trim url) base)).bind_const fun resolved _ =>
      (ih (first + 1)).bind_const fun later _ =>
        FailsFor.ok (⟨first, title, resolved⟩ :: later)
    exact hall.congr (by simp)

lemma failsFor_collect (page : Subject) (rule : FieldRule) (base : String) :
    FailsFor (ListMishap page rule base) (collect page (some rule) base) := by
  unfold collect
  dsimp only
  split
  next hnone =>
    refine (FailsFor.ok []).congr fun failure => ⟨False.elim, ?_⟩
    rintro (⟨hgiven, -⟩ | ⟨hgiven, -⟩ | ⟨hgiven, -⟩) <;> exact hgiven hnone
  next hgiven =>
    have hall := (failsFor_links page rule).bind fun found _ =>
      failsFor_numbered base 1 (Arranger.arrange rule.arranger found)
    refine hall.congr fun failure => ⟨?_, ?_⟩
    · rintro ((h | ⟨subjects, hsubjects, c, hc, h⟩) | ⟨found, hfound, link, hlink, h⟩)
      · exact .selector hgiven h
      · exact .embedded hgiven hsubjects hc h
      · exact .link hgiven hfound (Extraction.mem_arrange.mp hlink) h
    · rintro (⟨-, h⟩ | ⟨-, hsubjects, hc, h⟩ | ⟨-, hfound, hlink, h⟩)
      · exact .inl (.inl h)
      · exact .inl (.inr ⟨_, hsubjects, _, hc, h⟩)
      · exact .inr ⟨_, hfound, _, Extraction.mem_arrange.mpr hlink, h⟩

end Chapter

/-! ### Page images -/

namespace Script

lemma ofSite_of_addresses {script name : String} {pattern : Option String} {failure : Failure}
    (h : addresses script name pattern = .error failure) : failure.OfSite := by
  unfold addresses at h
  dsimp only at h
  split at h
  next => cases h
  next => cases h
  next => cases h
  next fault _ =>
    cases h
    exact .pattern fault

/-- A selector that can be run finds candidates on every subject. -/
lemma exists_candidates {selector : String} {queries : List Selector.Query} (hne : selector ≠ "")
    (h : Selector.queries selector = .ok queries) (s : Subject) :
    ∃ subjects, s.candidates (some selector) = .ok subjects := by
  unfold Subject.candidates
  split
  next hnone => cases hnone
  next hempty => exact absurd (Option.some.inj hempty) hne
  next query hquery =>
    obtain rfl := Option.some.inj hquery
    cases s with
    | element c => simp [Selector.select, h, bind, Except.bind, pure, Except.pure, Except.map]
    | text s => simp [h, Except.map]
    | value v => exact ⟨[], rfl⟩

lemma queries_script : Selector.queries "script" = .ok [.ofName "script"] := by
  have hshape : (Selector.queries "script").toOption.map (·.map fun q =>
      (q.first.name, q.first.conditions.isEmpty, q.further.isEmpty, q.taken)) =
        some [(some "script", true, true, .elements)] := by
    decide +kernel
  obtain ⟨queries, hqueries, hall⟩ := Option.map_eq_some_iff.mp hshape
  obtain ⟨⟨⟨name, conditions⟩, further, taken⟩, rfl, hone⟩ := List.map_eq_singleton_iff.mp hall
  simp only [Prod.mk.injEq, List.isEmpty_iff] at hone
  obtain ⟨rfl, rfl, rfl, rfl⟩ := hone
  exact toOption_eq_some.mp hqueries

/-- Scripts are found on every page. -/
lemma exists_matching (page : Subject) (words : String) :
    ∃ scripts, matching page words = .ok scripts := by
  obtain ⟨subjects, hsubjects⟩ := exists_candidates (by decide) queries_script page
  rw [matching, hsubjects]
  exact ⟨_, rfl⟩

end Script

namespace Page

/-- The addresses that scripts give to a page rule. -/
def scripted (read : Script.ArrayReader) (page : Subject) (rule : Option PageRule) :
    Except Failure (List String) :=
  match rule.bind (·.arrayVar) with
  | some arrayRule => Script.allAddresses read page arrayRule
  | none => .ok []

/-- The addresses that a selector finds. -/
def foundBy (page : Subject) (rule : Option PageRule) (selector : String) :
    Except Failure (List String) :=
  (Extraction.extract page (imageRule rule selector)).map fun v =>
    match v with
    | .array vs => webTexts vs
    | _ => []

/-- A selector is tried if none before it finds an address. -/
inductive Tried (page : Subject) (rule : Option PageRule) (selector : String) :
    List String → Prop where
  | first {rest : List String} : Tried page rule selector (selector :: rest)
  | next {other : String} {rest : List String} (hnone : foundBy page rule other = .ok [])
    (h : Tried page rule selector rest) : Tried page rule selector (other :: rest)

/-- What goes wrong when the images of a chapter page are collected: a script cannot be searched,
or an extraction fails that is tried because the scripts have no addresses. -/
inductive Mishap (read : Script.ArrayReader) (page : Subject) (rule : Option PageRule) :
    Failure → Prop where
  | script {arrayRule : Config.ArrayRule} {scripts : List String} {script name : String}
    {failure : Failure} (hrule : rule.bind (·.arrayVar) = some arrayRule)
    (hscripts : Script.matching page arrayRule.scriptMatch = .ok scripts)
    (hscript : script ∈ scripts) (hname : name ∈ arrayRule.variableNames)
    (h : read script name arrayRule.matchPattern = .error failure) : Mishap read page rule failure
  | image {selector : String} {failure : Failure} (hnone : scripted read page rule = .ok [])
    (htried : Tried page rule selector (selectors rule))
    (h : Extraction.Mishap page (imageRule rule selector) failure) : Mishap read page rule failure

lemma Mishap.ofSite {page : Subject} {rule : Option PageRule} {failure : Failure}
    (h : Mishap Script.addresses page rule failure) : failure.OfSite := by
  cases h with
  | script _ _ _ _ h => exact Script.ofSite_of_addresses h
  | image _ _ h => exact h.ofSite

variable (read : Script.ArrayReader) (page : Subject) (rule : Option PageRule)

lemma failsFor_scripted :
    FailsFor (fun failure => ∃ arrayRule, rule.bind (·.arrayVar) = some arrayRule ∧
      ∃ scripts, Script.matching page arrayRule.scriptMatch = .ok scripts ∧
        ∃ script ∈ scripts, ∃ name ∈ arrayRule.variableNames,
          read script name arrayRule.matchPattern = .error failure) (scripted read page rule) := by
  unfold scripted
  cases hrule : rule.bind (·.arrayVar) with
  | none => exact (FailsFor.ok []).congr (by simp)
  | some arrayRule =>
    obtain ⟨scripts, hscripts⟩ := Script.exists_matching page arrayRule.scriptMatch
    have hall := (FailsFor.mapM scripts fun script _ =>
      (FailsFor.mapM arrayRule.variableNames fun name _ =>
        FailsFor.error_eq (read script name arrayRule.matchPattern)).bind_const
          fun found _ => FailsFor.ok found.flatten).bind_const
            fun found _ => FailsFor.ok found.flatten
    have heq : Script.allAddresses read page arrayRule = (do
        let found ← scripts.mapM fun script => do
          return (← arrayRule.variableNames.mapM fun name =>
            read script name arrayRule.matchPattern).flatten
        return found.flatten) := by
      rw [Script.allAddresses, hscripts]
      rfl
    dsimp only
    rw [heq]
    exact hall.congr (by simp [hscripts])

lemma firstFound_cons (selector : String) (rest : List String) :
    firstFound page rule (selector :: rest) = (foundBy page rule selector >>= fun urls =>
      if urls.isEmpty then firstFound page rule rest else .ok urls) := by
  rw [firstFound, foundBy]
  cases hv : Extraction.extract page (imageRule rule selector) with
  | error failure => rfl
  | ok v => cases v <;> rfl

lemma failsFor_foundBy (selector : String) :
    FailsFor (Extraction.Mishap page (imageRule rule selector)) (foundBy page rule selector) :=
  (Extraction.failsFor_extract page (imageRule rule selector)).map _

/-- What is done only as long as there are no addresses. -/
lemma failsFor_ifEmpty {α : Type} {P : Failure → Prop} {x : Except Failure α} (h : FailsFor P x)
    (urls : List String) (a : α) :
    FailsFor (fun failure => urls = [] ∧ P failure) (if urls.isEmpty then x else .ok a) := by
  cases urls with
  | nil => exact h.congr (by simp)
  | cons url urls => exact (FailsFor.ok a).congr (by simp)

/-- The search for images fails on the selectors that are tried. -/
lemma failsFor_firstFound (tried : List String) :
    FailsFor (fun failure => ∃ selector, Tried page rule selector tried ∧
      Extraction.Mishap page (imageRule rule selector) failure) (firstFound page rule tried) := by
  induction tried with
  | nil =>
    refine (FailsFor.ok []).congr fun failure => ⟨False.elim, ?_⟩
    rintro ⟨selector, htried, -⟩
    cases htried
  | cons first rest ih =>
    rw [firstFound_cons]
    refine ((failsFor_foundBy page rule first).bind fun urls _ =>
      failsFor_ifEmpty ih urls urls).congr fun failure => ⟨?_, ?_⟩
    · rintro (h | ⟨urls, hurls, rfl, selector, htried, h⟩)
      · exact ⟨first, .first, h⟩
      · exact ⟨selector, .next hurls htried, h⟩
    · rintro ⟨selector, htried, h⟩
      cases htried with
      | first => exact .inl h
      | next hnone htried => exact .inr ⟨[], hnone, rfl, selector, htried, h⟩

/-- The selectors are only tried when the scripts have no addresses. -/
lemma collect_eq :
    collect read page rule = (scripted read page rule >>= fun urls =>
      if urls.isEmpty then (firstFound page rule (selectors rule)).map numbered
      else .ok (numbered urls)) := by
  unfold collect scripted
  cases rule.bind (·.arrayVar) <;> rfl

lemma failsFor_collect : FailsFor (Mishap read page rule) (collect read page rule) := by
  rw [collect_eq]
  refine ((failsFor_scripted read page rule).bind fun urls _ =>
    failsFor_ifEmpty ((failsFor_firstFound page rule (selectors rule)).map numbered) urls
      (numbered urls)).congr fun failure => ⟨?_, ?_⟩
  · rintro (⟨arrayRule, hrule, scripts, hscripts, script, hscript, name, hname, h⟩ |
      ⟨urls, hurls, rfl, selector, htried, h⟩)
    · exact .script hrule hscripts hscript hname h
    · exact .image hurls htried h
  · rintro (⟨hrule, hscripts, hscript, hname, h⟩ | ⟨hnone, htried, h⟩)
    · exact .inl ⟨_, hrule, _, hscripts, _, hscript, _, hname, h⟩
    · exact .inr ⟨[], hnone, rfl, _, htried, h⟩

end Page

/-! ### Resolutions -/

namespace Chapter

/-- What goes wrong when a profile page at the address `base` is read. -/
inductive ProfileMishap (rules : ProfileRules) (base html : String) : Failure → Prop where
  | title {rule : FieldRule} {failure : Failure} (hrule : rules.name = some rule)
    (h : Extraction.Mishap (pageOf html)
      (rule.prepared { text := some true } { multiple := some false }) failure) :
    ProfileMishap rules base html failure
  | chapters {failure : Failure} (h : ListMishap (pageOf html) rules.chapters base failure) :
    ProfileMishap rules base html failure

/-- The address against which a wanted address is resolved: that of the profile page, or none
without an id. -/
def baseFor (p : ProfilePage) (id : Option String) : Except Failure String :=
  match Extraction.given id with
  | none => .ok ""
  | some id => p.findAddress id

/-- What is known before the page of the chapter is asked for, and the aim that is taken. -/
def sighted (source : Source) (p : ProfilePage) (id : Option String) (wanted : Wanted) :
    Except Failure (Resolution × Aim) :=
  match Extraction.given id with
  | none => do return (.empty, ← aim "" [] wanted)
  | some id => do
    let base ← p.findAddress id
    let answer ← source.text base
    let (known, chapters) ← learn p.target base answer
    return (known, ← aimAfter base answer chapters wanted)

/-- The chapters that numbers count: those on the profile page, and none without an id. Without the
page there is nothing to count. -/
def counted (source : Source) (p : ProfilePage) (id : Option String) :
    Except Failure (Option (List Chapter)) :=
  match Extraction.given id with
  | none => return some []
  | some id => do
    let base ← p.findAddress id
    match ← source.text base with
    | none => return none
    | some html => (readProfile p.target base html).map fun profile => some profile.chapters

/-- A number is wanted that is not among those of some chapters and that cannot be written. -/
def Beyond (chapters : List Chapter) (wanted : Wanted) : Prop :=
  Extraction.given wanted.url = none ∧ ∃ n, wanted.number = some n ∧
    ¬ (1 ≤ n ∧ n ≤ chapters.length) ∧ (Json.int n).isOverlong = true

/-- What goes wrong when a chapter is resolved. -/
inductive Mishap (read : Script.ArrayReader) (source : Source) (p : ProfilePage)
    (id : Option String) (wanted : Wanted) : Failure → Prop where
  /-- The address of the profile page cannot be put together. -/
  | address {manga : String} {failure : Failure} (hid : Extraction.given id = some manga)
    (h : p.findAddress manga = .error failure) : Mishap read source p id wanted failure
  | profileRequest {manga base : String} {failure : Failure}
    (hid : Extraction.given id = some manga) (hbase : p.findAddress manga = .ok base)
    (h : source.text base = .error failure) : Mishap read source p id wanted failure
  | profile {manga base html : String} {failure : Failure} (hid : Extraction.given id = some manga)
    (hbase : p.findAddress manga = .ok base) (htext : source.text base = .ok (some html))
    (h : ProfileMishap p.target base html failure) : Mishap read source p id wanted failure
  /-- The address of the wanted chapter cannot be resolved. -/
  | wanted {url base : String} {failure : Failure} (hurl : Extraction.given wanted.url = some url)
    (hbase : baseFor p id = .ok base) (h : absolute url base = .error failure) :
    Mishap read source p id wanted failure
  /-- No title can be made of the number of the wanted chapter. -/
  | number {chapters : List Chapter} (hcounted : counted source p id = .ok (some chapters))
    (h : Beyond chapters wanted) : Mishap read source p id wanted .tooManyDigits
  | chapterRequest {known : Resolution} {title url : String} {failure : Failure}
    (hsighted : sighted source p id wanted = .ok (known, ⟨title, some url⟩))
    (h : source.text url = .error failure) : Mishap read source p id wanted failure
  | pages {known : Resolution} {title url html : String} {failure : Failure}
    (hsighted : sighted source p id wanted = .ok (known, ⟨title, some url⟩))
    (htext : source.text url = .ok (some html))
    (h : Page.Mishap read (pageOf html) p.target.pageImage failure) :
    Mishap read source p id wanted failure

lemma ofSite_of_apply {r : Config.IdSubstitution} {id : String} {failure : Failure}
    (h : r.apply id = .error failure) : failure.OfSite := by
  unfold Config.IdSubstitution.apply at h
  split at h
  next => cases h
  next => cases h
  next fault _ =>
    cases h
    exact .pattern fault

lemma ofSite_of_findAddress {p : ProfilePage} {id : String} {failure : Failure}
    (h : p.findAddress id = .error failure) : failure.OfSite := by
  rw [ProfilePage.findAddress, Config.profileAddress] at h
  cases hreplace : p.replace with
  | none =>
    rw [hreplace] at h
    cases h
  | some r =>
    rw [hreplace, Config.normalizeId] at h
    cases happly : r.apply id with
    | ok normal =>
      rw [happly] at h
      cases h
    | error other =>
      rw [happly] at h
      cases h
      exact ofSite_of_apply happly

lemma ProfileMishap.ofSite {rules : ProfileRules} {base html : String} {failure : Failure}
    (h : ProfileMishap rules base html failure) : failure.OfSite := by
  cases h with
  | title _ h => exact h.ofSite
  | chapters h => exact h.ofSite

/-- A source that answers leaves only what a site brings about, and a number that cannot be
written. -/
lemma Mishap.ofSite {source : Source} {p : ProfilePage} {id : Option String} {wanted : Wanted}
    {failure : Failure} (h : Mishap Script.addresses source p id wanted failure) :
    (failure.OfSite ∨ ∃ url, source.text url = .error failure) ∨
      failure = .tooManyDigits ∧ ∃ n, wanted.number = some n ∧ (Json.int n).isOverlong = true := by
  cases h with
  | address _ h => exact .inl (.inl (ofSite_of_findAddress h))
  | profileRequest _ _ h => exact .inl (.inr ⟨_, h⟩)
  | profile _ _ _ h => exact .inl (.inl h.ofSite)
  | wanted _ _ h => exact .inl (.inl (ofSite_of_absolute h))
  | number _ h =>
    obtain ⟨-, n, hn, -, hlong⟩ := h
    exact .inr ⟨rfl, n, hn, hlong⟩
  | chapterRequest _ h => exact .inl (.inr ⟨_, h⟩)
  | pages _ _ h => exact .inl (.inl h.ofSite)

variable (read : Script.ArrayReader) (source : Source) (rules : ProfileRules) (base : String)

lemma failsFor_titleOn (html : String) :
    FailsFor (fun failure => ∃ rule, rules.name = some rule ∧ Extraction.Mishap (pageOf html)
      (rule.prepared { text := some true } { multiple := some false }) failure)
      (titleOn (pageOf html) rules) := by
  unfold titleOn
  cases hrule : rules.name with
  | none => exact (FailsFor.ok "").congr (by simp)
  | some rule =>
    have hall := (Extraction.failsFor_extract (pageOf html)
      (rule.prepared { text := some true } { multiple := some false })).bind_const
        fun v _ => FailsFor.ok (v.asString?.getD "")
    exact hall.congr (by simp)

lemma failsFor_readProfile (html : String) :
    FailsFor (ProfileMishap rules base html) (readProfile rules base html) := by
  have hall := (failsFor_titleOn rules html).bind_const fun title _ =>
    (failsFor_collect (pageOf html) rules.chapters base).bind_const fun chapters _ =>
      FailsFor.ok (⟨title, chapters⟩ : Profile)
  refine hall.congr fun failure => ⟨?_, ?_⟩
  · rintro (⟨rule, hrule, h⟩ | h | h)
    · exact .title hrule h
    · exact .chapters h
    · exact h.elim
  · rintro (⟨hrule, h⟩ | h)
    · exact .inl ⟨_, hrule, h⟩
    · exact .inr (.inl h)

lemma failsFor_learn (answer : Option String) :
    FailsFor (fun failure => ∃ html, answer = some html ∧ ProfileMishap rules base html failure)
      (learn rules base answer) := by
  cases answer with
  | none => exact (FailsFor.ok _).congr (by simp)
  | some html =>
    exact ((failsFor_readProfile rules base html).map _).congr (by simp)

lemma failsFor_unlistedTitle (n : Int) :
    FailsFor (fun failure => failure = .tooManyDigits ∧ (Json.int n).isOverlong = true)
      (unlistedTitle n) := by
  unfold unlistedTitle
  split
  next hlong => exact (FailsFor.error_eq _).congr (by simp [hlong, eq_comm])
  next hshort => exact (FailsFor.ok _).congr (by simp [hshort])

/-- Aiming fails for a wanted address and for a number that cannot be written. -/
lemma failsFor_aim (chapters : List Chapter) (wanted : Wanted) :
    FailsFor (fun failure => (∃ url, Extraction.given wanted.url = some url ∧
        absolute url base = .error failure) ∨
      failure = .tooManyDigits ∧ Beyond chapters wanted) (aim base chapters wanted) := by
  unfold aim Beyond
  cases hurl : Extraction.given wanted.url with
  | some url =>
    refine ((FailsFor.error_eq (absolute url base)).bind_const (Q := fun _ => False)
      fun target _ => ?_).congr (by simp)
    cases chapters.find? (·.url = target) with
    | none => exact FailsFor.ok _
    | some c => exact FailsFor.ok _
  | none =>
    cases hnumber : wanted.number with
    | none => exact (FailsFor.ok _).congr (by simp)
    | some n =>
      dsimp only
      by_cases hn : 1 ≤ n ∧ n ≤ chapters.length
      · have hc : chapters[n.toNat - 1]? = some _ := List.getElem?_eq_getElem (by omega)
        rw [if_neg (by omega), hc]
        refine (FailsFor.ok _).congr fun failure => ⟨False.elim, ?_⟩
        rintro (⟨url, ⟨⟩, -⟩ | ⟨-, -, _, ⟨⟩, hnot, -⟩)
        exact hnot hn
      · rw [listed_eq_none hn]
        have hall := (failsFor_unlistedTitle n).bind_const fun title _ =>
          FailsFor.ok (⟨title, none⟩ : Aim)
        refine hall.congr fun failure => ⟨?_, ?_⟩
        · rintro (⟨rfl, hlong⟩ | h)
          · exact .inr ⟨rfl, rfl, n, rfl, hn, hlong⟩
          · exact h.elim
        · rintro (⟨url, ⟨⟩, -⟩ | ⟨hfailure, -, _, ⟨⟩, -, hlong⟩)
          exact .inl ⟨hfailure, hlong⟩

lemma failsFor_aimAfter (answer : Option String) (chapters : List Chapter) (wanted : Wanted) :
    FailsFor (fun failure => (∃ url, Extraction.given wanted.url = some url ∧
        absolute url base = .error failure) ∨
      failure = .tooManyDigits ∧ answer.isSome ∧ Beyond chapters wanted)
      (aimAfter base answer chapters wanted) := by
  unfold aimAfter
  split
  next hnone =>
    refine (FailsFor.ok _).congr ?_
    simp [Option.isNone_iff_eq_none.mp hnone.1, Option.isNone_iff_eq_none.mp hnone.2]
  next hgiven =>
    refine (failsFor_aim base chapters wanted).congr fun failure => or_congr_right ?_
    refine and_congr_right fun _ => ⟨fun h => ⟨?_, h⟩, fun h => h.2⟩
    rw [h.1] at hgiven
    simpa [Option.isSome_iff_ne_none] using hgiven

lemma failsFor_found (url? : Option String) :
    FailsFor (fun failure => ∃ url, url? = some url ∧ (source.text url = .error failure ∨
      ∃ html, source.text url = .ok (some html) ∧
        Page.Mishap read (pageOf html) rules.pageImage failure)) (found read rules source url?) := by
  cases url? with
  | none => exact (FailsFor.ok none).congr (by simp)
  | some url =>
    refine ((FailsFor.error_eq (source.text url)).bind (Q := fun answer failure =>
      ∃ html, answer = some html ∧ Page.Mishap read (pageOf html) rules.pageImage failure)
      fun answer _ => ?_).congr fun failure => ⟨?_, ?_⟩
    · cases answer with
      | none => exact (FailsFor.ok none).congr (by simp)
      | some html =>
        exact ((Page.failsFor_collect read (pageOf html) rules.pageImage).map some).congr (by simp)
    · rintro (h | ⟨_, htext, html, rfl, h⟩)
      · exact ⟨url, rfl, .inl h⟩
      · exact ⟨url, rfl, .inr ⟨html, htext, h⟩⟩
    · rintro ⟨_, ⟨⟩, h | ⟨html, htext, h⟩⟩
      · exact .inl h
      · exact .inr ⟨_, htext, html, rfl, h⟩

/-- What goes wrong before the page of the chapter is asked for. -/
lemma failsFor_sighted (p : ProfilePage) (id : Option String) (wanted : Wanted) :
    FailsFor (fun failure =>
      ((∃ manga, Extraction.given id = some manga ∧ (p.findAddress manga = .error failure ∨
        ∃ base, p.findAddress manga = .ok base ∧ (source.text base = .error failure ∨
          ∃ html, source.text base = .ok (some html) ∧
            ProfileMishap p.target base html failure))) ∨
      ∃ chapters, counted source p id = .ok (some chapters) ∧ failure = .tooManyDigits ∧
        Beyond chapters wanted) ∨
      ∃ url base, Extraction.given wanted.url = some url ∧ baseFor p id = .ok base ∧
        absolute url base = .error failure) (sighted source p id wanted) := by
  unfold sighted baseFor counted
  cases hid : Extraction.given id with
  | none =>
    have hall := (failsFor_aim "" [] wanted).bind_const fun target _ =>
      FailsFor.ok (Resolution.empty, target)
    refine hall.congr fun failure => ?_
    simp [pure, Except.pure, or_comm]
  | some manga =>
    have hall := (FailsFor.error_eq (p.findAddress manga)).bind fun base _ =>
      (FailsFor.error_eq (source.text base)).bind fun answer _ =>
        (failsFor_learn p.target base answer).bind fun told _ =>
          (failsFor_aimAfter base answer told.2 wanted).bind_const fun target _ =>
            FailsFor.ok (told.1, target)
    -- an address that cannot be resolved is in the way even where an earlier part fails
    refine (hall.or (Q := fun failure => ∃ url base, Extraction.given wanted.url = some url ∧
      p.findAddress manga = .ok base ∧ absolute url base = .error failure) ?_).congr ?_
    · rintro failure ⟨url, base, hurl, hbase, h⟩ result hok
      obtain ⟨base', hbase', hok⟩ := bind_eq_ok.mp hok
      obtain rfl := Except.ok.inj (hbase.symm.trans hbase')
      obtain ⟨answer, -, hok⟩ := bind_eq_ok.mp hok
      obtain ⟨told, -, hok⟩ := bind_eq_ok.mp hok
      obtain ⟨target, haim, -⟩ := bind_eq_ok.mp hok
      exact (failsFor_aimAfter base answer told.2 wanted).not_ok failure (.inl ⟨url, hurl, h⟩)
        target haim
    · intro failure
      constructor
      · rintro ((h | ⟨base, hbase, h | ⟨answer, htext, ⟨html, rfl, h⟩ |
          ⟨told, htold, (⟨url, hurl, h⟩ | ⟨hfailure, hsome, h⟩) | h⟩⟩⟩) | h)
        · exact .inl (.inl ⟨manga, rfl, .inl h⟩)
        · exact .inl (.inl ⟨manga, rfl, .inr ⟨base, hbase, .inl h⟩⟩)
        · exact .inl (.inl ⟨manga, rfl, .inr ⟨base, hbase, .inr ⟨html, htext, h⟩⟩⟩)
        · exact .inr ⟨url, base, hurl, hbase, h⟩
        · obtain ⟨html, rfl⟩ := Option.isSome_iff_exists.mp hsome
          obtain ⟨profile, hprofile, rfl⟩ := map_eq_ok.mp htold
          refine .inl (.inr ⟨profile.chapters, ?_, hfailure, h⟩)
          exact bind_eq_ok.mpr ⟨base, hbase, bind_eq_ok.mpr
            ⟨some html, htext, map_eq_ok.mpr ⟨profile, hprofile, rfl⟩⟩⟩
        · exact h.elim
        · exact .inr h
      · rintro ((⟨_, ⟨⟩, h | ⟨base, hbase, h | ⟨html, htext, h⟩⟩⟩ |
          ⟨chapters, hcounted, hfailure, h⟩) | h)
        · exact .inl (.inl h)
        · exact .inl (.inr ⟨base, hbase, .inl h⟩)
        · exact .inl (.inr ⟨base, hbase, .inr ⟨_, htext, .inl ⟨html, rfl, h⟩⟩⟩)
        · obtain ⟨base, hbase, hcounted⟩ := bind_eq_ok.mp hcounted
          obtain ⟨answer, htext, hcounted⟩ := bind_eq_ok.mp hcounted
          cases answer with
          | none => cases hcounted
          | some html =>
            obtain ⟨profile, hprofile, hchapters⟩ := map_eq_ok.mp hcounted
            obtain rfl := Option.some.inj hchapters
            refine .inl (.inr ⟨base, hbase, .inr ⟨_, htext, .inr ⟨_, map_eq_ok.mpr
              ⟨profile, hprofile, rfl⟩, .inl (.inr ⟨hfailure, rfl, h⟩)⟩⟩⟩)
        · exact .inr h

lemma given_eq_some {s : Option String} {t : String} :
    Extraction.given s = some t ↔ s = some t ∧ t ≠ "" := by
  rw [Extraction.given, Option.filter_eq_some_iff]
  simp

section

variable {spider : Spider} {p : ProfilePage} (hp : spider.site.bind (·.profileById) = some p)
  (id : Option String) (wanted : Wanted)

include hp

/-- A resolution takes sight of the chapter and finds its images. -/
lemma resolve_outcome :
    (resolve read spider id wanted source).outcome =
      (sighted source p id wanted >>= fun told =>
        (found read p.target source told.2.url).map fun pages =>
          { told.1 with chapterTitle := told.2.title, pages := pages.getD told.1.pages }) := by
  unfold sighted
  cases hid : Extraction.given id with
  | none =>
    rw [resolve, hp]
    dsimp only
    rw [resolveAt, hid, Fetching.bind_outcome, Fetching.lift_outcome]
    cases haim : aim "" [] wanted with
    | error failure => rfl
    | ok target => exact congrArg Run.outcome (finish_apply _ target)
  | some manga =>
    obtain ⟨rfl, hne⟩ := given_eq_some.mp hid
    dsimp only
    cases haddress : p.findAddress manga with
    | error failure =>
      rw [resolve_apply_of_no_address hp hne haddress]
      rfl
    | ok base =>
      have hfound := findAddress_eq haddress
      obtain rfl := Except.ok.inj (haddress.symm.trans hfound)
      rw [resolve_eq_bind hp hne hfound]
      simp only [Fetching.bind_outcome, Fetching.text_outcome, Fetching.lift_outcome, finish_apply,
        bind_assoc]
      rfl

/-- A resolution fails with a mishap only, and it does not end well where there is one. -/
lemma failsFor_resolve :
    FailsFor (Mishap read source p id wanted) (resolve read spider id wanted source).outcome := by
  rw [resolve_outcome read source hp]
  refine ((failsFor_sighted source p id wanted).bind fun told _ =>
    (failsFor_found read source p.target told.2.url).map _).congr fun failure => ⟨?_, ?_⟩
  · rintro (((⟨manga, hid, h | ⟨base, hbase, h | ⟨html, htext, h⟩⟩⟩ |
        ⟨chapters, hcounted, rfl, h⟩) | ⟨url, base, hurl, hbase, h⟩) |
      ⟨⟨known, title, target⟩, hsighted, url, hurl, h | ⟨html, htext, h⟩⟩)
    · exact .address hid h
    · exact .profileRequest hid hbase h
    · exact .profile hid hbase htext h
    · exact .number hcounted h
    · exact .wanted hurl hbase h
    · obtain rfl : target = some url := hurl
      exact .chapterRequest hsighted h
    · obtain rfl : target = some url := hurl
      exact .pages hsighted htext h
  · rintro (⟨hid, h⟩ | ⟨hid, hbase, h⟩ | ⟨hid, hbase, htext, h⟩ | ⟨hurl, hbase, h⟩ |
      ⟨hcounted, h⟩ | ⟨hsighted, h⟩ | ⟨hsighted, htext, h⟩)
    · exact .inl (.inl (.inl ⟨_, hid, .inl h⟩))
    · exact .inl (.inl (.inl ⟨_, hid, .inr ⟨_, hbase, .inl h⟩⟩))
    · exact .inl (.inl (.inl ⟨_, hid, .inr ⟨_, hbase, .inr ⟨_, htext, h⟩⟩⟩))
    · exact .inl (.inr ⟨_, _, hurl, hbase, h⟩)
    · exact .inl (.inl (.inr ⟨_, hcounted, rfl, h⟩))
    · exact .inr ⟨_, hsighted, _, rfl, .inl h⟩
    · exact .inr ⟨_, hsighted, _, rfl, .inr ⟨_, htext, h⟩⟩

end

end Chapter

end MangaShelf
