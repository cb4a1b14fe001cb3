import Mathlib.Tactic.Lemma
import MangaShelf.Chapter.Resolution
import MangaShelf.Proofs.Run

/-!
# Runs of a resolution

However a resolution ends, it asks for the profile of the manga, learns what the answer tells, takes
aim at a chapter and finishes there: `resolve_apply`. Finishing asks for the page of the chapter at
most, and it adds nothing but the title and the pages: `finish_apply`.
-/

namespace MangaShelf.Chapter

open Config (ProfilePage ProfileRules Spider)

variable {read : Script.ArrayReader} {source : Source} {rules : ProfileRules}

lemma given_of_ne_empty {s : String} (hs : s ≠ "") : Extraction.given (some s) = some s := by
  simp [Extraction.given, hs]

/-! ### Chapters by number -/

/-- A number that counts none of the chapters finds none. -/
lemma listed_eq_none {chapters : List Chapter} {n : Int} (hn : ¬ (1 ≤ n ∧ n ≤ chapters.length)) :
    (if n < 1 then none else chapters[n.toNat - 1]?) = none := by
  split
  · rfl
  · rw [List.getElem?_eq_none_iff]
    omega

/-! ### The page of the chapter -/

/-- The images on the page of a chapter, if there is an address and the source has a page there. -/
def found (read : Script.ArrayReader) (rules : ProfileRules) (source : Source) :
    Option String → Except Failure (Option (List Page))
  | none => .ok none
  | some url => do
    match ← source.text url with
    | none => return none
    | some html => (Page.collect read (pageOf html) rules.pageImage).map some

/-- Finishing asks for the page that is aimed at and for no other one. It shows the title that is
aimed at; the pages stay when there are no new ones. -/
lemma finish_apply (r : Resolution) (aim : Aim) :
    finish read rules r aim source =
      ⟨aim.url.toList, (found read rules source aim.url).map fun pages =>
        { r with chapterTitle := aim.title, pages := pages.getD r.pages }⟩ := by
  obtain ⟨title, url⟩ := aim
  cases url with
  | none => rfl
  | some url =>
    rw [finish, found]
    cases hanswer : source.text url with
    | error failure => exact Fetching.bind_apply_of_error hanswer
    | ok answer =>
      dsimp only
      rw [Fetching.bind_apply_of_ok hanswer]
      cases answer with
      | none => rfl
      | some html =>
        dsimp only
        show _ = Run.mk [url] (((Page.collect read (pageOf html) rules.pageImage).map some).map _)
        cases hpages : Page.collect read (pageOf html) rules.pageImage with
        | error failure => rfl
        | ok pages => rfl

lemma finish_requested (r : Resolution) (aim : Aim) :
    (finish read rules r aim source).requested = aim.url.toList := by
  rw [finish_apply]

lemma finish_outcome_eq_ok {r r' : Resolution} {aim : Aim}
    (h : (finish read rules r aim source).outcome = .ok r') :
    ∃ pages, r' = { r with chapterTitle := aim.title, pages := pages } ∧
      (aim.url = none → pages = r.pages) := by
  rw [finish_apply] at h
  obtain ⟨pages, hpages, rfl⟩ := map_eq_ok.mp h
  refine ⟨_, rfl, fun hnone => ?_⟩
  rw [hnone] at hpages
  rw [← Except.ok.inj hpages]
  rfl

/-! ### The profile of the manga -/

/-- What is known once the profile of a manga is read. -/
def Profile.resolution (profile : Profile) : Resolution :=
  { Resolution.empty with
    mangaTitle := profile.title
    chapterCount := some profile.chapters.length }

/-- What the answer for a profile page tells: what is known of the manga, and its chapters. -/
def learn (rules : ProfileRules) (base : String) :
    Option String → Except Failure (Resolution × List Chapter)
  | none => .ok (.empty, [])
  | some html =>
    (readProfile rules base html).map fun profile => (profile.resolution, profile.chapters)

/-- The aim after an answer for the profile page: without the page, only an address leads
further. -/
def aimAfter (base : String) (answer : Option String) (chapters : List Chapter) (wanted : Wanted) :
    Except Failure Aim :=
  if answer.isNone ∧ (Extraction.given wanted.url).isNone then .ok ⟨"", none⟩
  else aim base chapters wanted

lemma pages_of_learn {base : String} {answer : Option String} {known : Resolution}
    {chapters : List Chapter} (h : learn rules base answer = .ok (known, chapters)) :
    known.pages = [] := by
  cases answer with
  | none =>
    cases h
    rfl
  | some html =>
    obtain ⟨profile, -, hknown⟩ := map_eq_ok.mp h
    cases hknown
    rfl

/-- An address aims at itself, resolved, and shows the title of the first chapter that has it. -/
lemma aim_of_url {base url target : String} {chapters : List Chapter} (number : Option Int)
    (hurl : url ≠ "") (h : absolute url base = .ok target) :
    aim base chapters ⟨number, some url⟩ =
      .ok ⟨((chapters.find? (·.url = target)).map shownTitle).getD "", some target⟩ := by
  rw [aim, given_of_ne_empty hurl]
  refine bind_eq_ok.mpr ⟨target, h, ?_⟩
  cases chapters.find? (·.url = target) <;> rfl

/-! ### Addresses of profile pages -/

lemma findAddress_eq {p : ProfilePage} {id base : String} (h : p.findAddress id = .ok base) :
    p.findAddress id = .ok (p.address id) := by
  rw [ProfilePage.address, h]
  rfl

lemma findAddress_of_ne_empty {p : ProfilePage} {id : String} (h : p.address id ≠ "") :
    p.findAddress id = .ok (p.address id) := by
  cases hfound : p.findAddress id with
  | ok base => rw [← hfound, findAddress_eq hfound]
  | error failure =>
    rw [ProfilePage.address, hfound] at h
    exact absurd rfl h

/-! ### Runs -/

lemma resolve_of_no_profile {spider : Spider} (hp : spider.site.bind (·.profileById) = none)
    (id : Option String) (wanted : Wanted) :
    resolve read spider id wanted source = ⟨[], .ok .empty⟩ := by
  rw [resolve, hp]
  rfl

section

variable {spider : Spider} {p : ProfilePage} {id : String} {wanted : Wanted} {answer : Option String}
  {known : Resolution} {chapters : List Chapter} {target : Aim} {r : Resolution}
  (hp : spider.site.bind (·.profileById) = some p) (hid : id ≠ "")

include hp hid

/-- A run that ends well has an address of the profile page to ask for. -/
lemma findAddress_of_resolve (h : (resolve read spider (some id) wanted source).outcome = .ok r) :
    p.findAddress id = .ok (p.address id) := by
  rw [resolve, hp] at h
  dsimp only at h
  rw [resolveAt, given_of_ne_empty hid] at h
  obtain ⟨base, hbase, -⟩ := Fetching.bind_outcome_eq_ok.mp h
  exact findAddress_eq hbase

/-- Without an address of the profile page nothing is asked for. -/
lemma resolve_apply_of_no_address {failure : Failure} (haddress : p.findAddress id = .error failure) :
    resolve read spider (some id) wanted source = ⟨[], .error failure⟩ := by
  rw [resolve, hp]
  dsimp only
  rw [resolveAt, given_of_ne_empty hid]
  dsimp only
  rw [haddress, Fetching.lift_error_bind]
  rfl

/-- A resolution asks for the profile page, learns from the answer, takes aim and finishes. -/
lemma resolve_eq_bind (haddress : p.findAddress id = .ok (p.address id)) :
    resolve read spider (some id) wanted = (do
      let answer ← Fetching.text (p.address id)
      let (known, chapters) ← Fetching.lift (learn p.target (p.address id) answer)
      let target ← Fetching.lift (aimAfter (p.address id) answer chapters wanted)
      finish read p.target known target) := by
  rw [resolve, hp]
  dsimp only
  rw [resolveAt, given_of_ne_empty hid]
  dsimp only
  rw [haddress, Fetching.lift_ok_bind]
  congr 1
  funext answer
  cases answer with
  | none =>
    rw [learn, Fetching.lift_ok_bind]
    cases hurl : Extraction.given wanted.url with
    | none => simp [aimAfter, hurl, finish, Resolution.empty]
    | some url => simp [aimAfter, hurl]
  | some html =>
    rw [learn]
    cases hprofile : readProfile p.target (p.address id) html with
    | error failure => simp [Except.map, hprofile]
    | ok profile => simp [Except.map, hprofile, aimAfter, Profile.resolution]

/-- What a source answers, what is learnt from it and the aim determine a run. -/
lemma resolve_apply (haddress : p.findAddress id = .ok (p.address id))
    (htext : source.text (p.address id) = .ok answer)
    (hlearn : learn p.target (p.address id) answer = .ok (known, chapters))
    (haim : aimAfter (p.address id) answer chapters wanted = .ok target) :
    resolve read spider (some id) wanted source =
      ⟨p.address id :: target.url.toList, (found read p.target source target.url).map fun pages =>
        { known with chapterTitle := target.title, pages := pages.getD [] }⟩ := by
  rw [resolve_eq_bind hp hid haddress, Fetching.bind_apply_of_ok htext,
    Fetching.bind_apply_of_ok hlearn]
  dsimp only
  rw [Fetching.bind_apply_of_ok haim, finish_apply, pages_of_learn hlearn]
  rfl

/-- A profile page that cannot be read ends a run. -/
lemma resolve_apply_of_error {failure : Failure}
    (haddress : p.findAddress id = .ok (p.address id))
    (htext : source.text (p.address id) = .ok answer)
    (hlearn : learn p.target (p.address id) answer = .error failure) :
    resolve read spider (some id) wanted source = ⟨[p.address id], .error failure⟩ := by
  rw [resolve_eq_bind hp hid haddress, Fetching.bind_apply_of_ok htext, hlearn,
    Fetching.lift_error_bind]
  rfl

/-- The course of a run that ends well. -/
lemma exists_course (h : (resolve read spider (some id) wanted source).outcome = .ok r) :
    ∃ answer known chapters target pages,
      source.text (p.address id) = .ok answer ∧
      learn p.target (p.address id) answer = .ok (known, chapters) ∧
      aimAfter (p.address id) answer chapters wanted = .ok target ∧
      found read p.target source target.url = .ok pages ∧
      r = { known with chapterTitle := target.title, pages := pages.getD [] } := by
  have haddress := findAddress_of_resolve hp hid h
  have hrun := h
  rw [resolve_eq_bind hp hid haddress] at hrun
  obtain ⟨answer, htext, hrun⟩ := Fetching.bind_outcome_eq_ok.mp hrun
  obtain ⟨⟨known, chapters⟩, hlearn, hrun⟩ := Fetching.bind_outcome_eq_ok.mp hrun
  obtain ⟨target, haim, -⟩ := Fetching.bind_outcome_eq_ok.mp hrun
  rw [resolve_apply hp hid haddress htext hlearn haim] at h
  obtain ⟨pages, hpages, hr⟩ := map_eq_ok.mp h
  exact ⟨answer, known, chapters, target, pages, htext, hlearn, haim, hpages, hr⟩

/-- A resolution that gets a profile page reads it, takes aim and finishes. -/
lemma resolve_of_profile {html : String} (htext : source.text (p.address id) = .ok (some html))
    (h : (resolve read spider (some id) wanted source).outcome = .ok r) :
    ∃ profile target,
      readProfile p.target (p.address id) html = .ok profile ∧
      aim (p.address id) profile.chapters wanted = .ok target ∧
      (finish read p.target profile.resolution target source).outcome = .ok r ∧
      (resolve read spider (some id) wanted source).requested =
        p.address id :: (finish read p.target profile.resolution target source).requested := by
  have haddress := findAddress_of_resolve hp hid h
  rw [resolve_eq_bind hp hid haddress, Fetching.bind_apply_of_ok htext] at h ⊢
  obtain ⟨told, hlearn, h⟩ := Fetching.bind_outcome_eq_ok.mp h
  obtain ⟨profile, hprofile, rfl⟩ :=
    (map_eq_ok (x := readProfile p.target (p.address id) html)).mp hlearn
  obtain ⟨target, haim, h⟩ := Fetching.bind_outcome_eq_ok.mp h
  refine ⟨profile, target, hprofile, haim, h, ?_⟩
  rw [Fetching.bind_apply_of_ok hlearn]
  dsimp only
  rw [Fetching.bind_apply_of_ok haim]
  rfl

end

end MangaShelf.Chapter
