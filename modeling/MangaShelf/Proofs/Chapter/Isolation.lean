import MangaShelf.Proofs.Chapter.Agreement

/-!
# What a resolution depends on

The profile page alone tells the title of the manga and the number of its chapters, and the page of
the chapter alone tells the pages. Where one of the two is missing, the part that the other one
tells is as it would be: `resolve_isolated`.
-/

namespace MangaShelf

open Config (ProfilePage ProfileRules Spider)

namespace Source

/-- The source without the page at an address. -/
def without (source : Source) (url : String) : Source :=
  { source with text := fun asked => if asked = url then .ok none else source.text asked }

/-- Two sources have the same pages, except at one address. -/
def AgreeBut (url : String) (source source' : Source) : Prop :=
  ∀ asked, asked ≠ url → source'.text asked = source.text asked

lemma text_without (source : Source) (url : String) : (source.without url).text url = .ok none :=
  if_pos rfl

lemma agreeBut_without (source : Source) (url : String) :
    AgreeBut url source (source.without url) := fun _ hne => if_neg hne

end Source

namespace Chapter

variable {read read' : Script.ArrayReader} {spider : Spider} {p : ProfilePage} {id : String}
  {wanted wanted' : Wanted} {source source' : Source} {r r' : Resolution}

lemma found_congr {rules : ProfileRules} {url : String}
    (h : source'.text url = source.text url) :
    found read rules source' (some url) = found read rules source (some url) := by
  rw [found, found, h]

/-! ### What the profile page tells -/

/-- What is shown of the manga depends on the profile page alone. -/
lemma manga_eq (hid : id ≠ "")
    (hsame : ∀ p, spider.site.bind (·.profileById) = some p →
      source'.text (p.address id) = source.text (p.address id))
    (hr : (resolve read spider (some id) wanted source).outcome = .ok r)
    (hr' : (resolve read' spider (some id) wanted' source').outcome = .ok r') :
    r'.mangaTitle = r.mangaTitle ∧ r'.chapterCount = r.chapterCount := by
  cases hp : spider.site.bind (·.profileById) with
  | none =>
    rw [resolve_of_no_profile hp] at hr hr'
    cases hr
    cases hr'
    exact ⟨rfl, rfl⟩
  | some p =>
    obtain ⟨answer, known, chapters, target, pages, htext, hlearn, -, -, rfl⟩ :=
      exists_course hp hid hr
    obtain ⟨answer', known', chapters', target', pages', htext', hlearn', -, -, rfl⟩ :=
      exists_course hp hid hr'
    rw [hsame p hp, htext] at htext'
    cases htext'
    rw [hlearn] at hlearn'
    cases hlearn'
    exact ⟨rfl, rfl⟩

/-! ### What the page of the chapter tells -/

/-- An absolute address is aimed at whatever the profile page is. -/
lemma aimAfter_of_absolute (base : String) (answer : Option String) (chapters : List Chapter)
    {url : String} (hwanted : wanted.url = some url) (hurl : Url.isAbsolute url) :
    ∃ title, aimAfter base answer chapters wanted = .ok ⟨title, some url⟩ := by
  obtain ⟨number, _⟩ := wanted
  obtain rfl : _ = some url := hwanted
  have hne : url ≠ "" := by
    rintro rfl
    exact absurd hurl (by decide)
  have hresolved : absolute url base = .ok url := by simp [absolute, Url.absolute, hurl]
  have hafter : aimAfter base answer chapters ⟨number, some url⟩ =
      aim base chapters ⟨number, some url⟩ := by
    simp [aimAfter, given_of_ne_empty hne]
  exact ⟨_, hafter.trans (aim_of_url number hne hresolved)⟩

/-- With an absolute address the pages are those of the page at this address. -/
lemma pages_of_absolute (hp : spider.site.bind (·.profileById) = some p) (hid : id ≠ "")
    {url : String} (hwanted : wanted.url = some url) (hurl : Url.isAbsolute url)
    (hr : (resolve read spider (some id) wanted source).outcome = .ok r) :
    ∃ pages, found read p.target source (some url) = .ok pages ∧ r.pages = pages.getD [] := by
  obtain ⟨answer, known, chapters, target, pages, -, -, haim, hfound, rfl⟩ :=
    exists_course hp hid hr
  obtain ⟨title, haim'⟩ := aimAfter_of_absolute _ answer chapters hwanted hurl
  rw [haim'] at haim
  cases haim
  exact ⟨pages, hfound, rfl⟩

/-- Without the profile page such an address still leads to the same pages. -/
lemma exists_resolve_without_profile (hp : spider.site.bind (·.profileById) = some p)
    (hid : id ≠ "") {url : String} (hwanted : wanted.url = some url) (hurl : Url.isAbsolute url)
    (hne : url ≠ p.address id)
    (hr : (resolve read spider (some id) wanted source).outcome = .ok r) :
    ∃ r', (resolve read spider (some id) wanted (source.without (p.address id))).outcome = .ok r' ∧
      r'.pages = r.pages := by
  obtain ⟨pages, hfound, hpages⟩ := pages_of_absolute hp hid hwanted hurl hr
  obtain ⟨title, haim⟩ := aimAfter_of_absolute (p.address id) none [] hwanted hurl
  rw [resolve_apply hp hid (findAddress_of_resolve hp hid hr) (source.text_without (p.address id)) rfl
      haim,
    found_congr (source.agreeBut_without _ url hne), hfound]
  exact ⟨_, rfl, hpages.symm⟩

/-- Without the page of the chapter the pages are missing, and nothing else changes. -/
lemma resolve_without_target (hp : spider.site.bind (·.profileById) = some p) (hid : id ≠ "")
    {target : String} (hne : target ≠ p.address id)
    (hr : (resolve read spider (some id) wanted source).outcome = .ok r)
    (hrequested : (resolve read spider (some id) wanted source).requested =
      [p.address id, target]) :
    resolve read spider (some id) wanted (source.without target) =
      ⟨[p.address id, target], .ok { r with pages := [] }⟩ := by
  obtain ⟨answer, known, chapters, ⟨title, url⟩, pages, htext, hlearn, haim, -, rfl⟩ :=
    exists_course hp hid hr
  have haddress := findAddress_of_resolve hp hid hr
  rw [resolve_apply hp hid haddress htext hlearn haim] at hrequested
  cases url with
  | none => cases hrequested
  | some url =>
    obtain rfl : url = target := by simpa using hrequested
    rw [← source.agreeBut_without url _ hne.symm] at htext
    rw [resolve_apply hp hid haddress htext hlearn haim, found, source.text_without]
    rfl

/-! ### Both pages -/

/-- The requests of a run that ends well, and the pages that it ends with. -/
lemma requested_and_pages (hp : spider.site.bind (·.profileById) = some p) (hid : id ≠ "")
    (hr : (resolve read spider (some id) wanted source).outcome = .ok r) :
    (resolve read spider (some id) wanted source).requested = [p.address id] ∧ r.pages = [] ∨
      ∃ target,
        (resolve read spider (some id) wanted source).requested = [p.address id, target] ∧
        (source.text target = .ok none ∧ r.pages = [] ∨
          ∃ html, source.text target = .ok (some html) ∧
            Page.collect read (pageOf html) p.target.pageImage = .ok r.pages) := by
  obtain ⟨answer, known, chapters, ⟨title, url⟩, pages, htext, hlearn, haim, hfound, rfl⟩ :=
    exists_course hp hid hr
  rw [resolve_apply hp hid (findAddress_of_resolve hp hid hr) htext hlearn haim]
  cases url with
  | none =>
    cases hfound
    exact .inl ⟨rfl, rfl⟩
  | some target =>
    refine .inr ⟨target, rfl, ?_⟩
    obtain ⟨chapterAnswer, hanswer, hfound⟩ := bind_eq_ok.mp hfound
    cases chapterAnswer with
    | none =>
      cases hfound
      exact .inl ⟨hanswer, rfl⟩
    | some html =>
      obtain ⟨pages, hpages, rfl⟩ := map_eq_ok.mp hfound
      exact .inr ⟨html, hanswer, hpages⟩

lemma requested_eq_nil_iff (hid : id ≠ "")
    (hr : (resolve read spider (some id) wanted source).outcome = .ok r) :
    (resolve read spider (some id) wanted source).requested = [] ↔
      spider.site.bind (·.profileById) = none := by
  cases hp : spider.site.bind (·.profileById) with
  | none => simp [resolve_of_no_profile hp]
  | some p =>
    rcases requested_and_pages hp hid hr with ⟨hrequested, -⟩ | ⟨target, hrequested, -⟩ <;>
      simp [hrequested]

/-- What a resolution that ends well depends on. It asks for the profile page and then for at most
one other page, that of the chapter. What it shows of the manga depends on the profile page alone.
The pages are those on the page of the chapter: without this page there are none and all else
stays, and for a chapter at an absolute address they do not depend on the profile page. -/
theorem resolve_isolated (hid : id ≠ "")
    (hr : (resolve read spider (some id) wanted source).outcome = .ok r) :
    ((resolve read spider (some id) wanted source).requested = [] ↔
      spider.site.bind (·.profileById) = none) ∧
    ((resolve read spider (some id) wanted source).requested = [] → r.pages = []) ∧
    (∀ (read' : Script.ArrayReader) (wanted' : Wanted) (source' : Source) (r' : Resolution),
      (∀ p, spider.site.bind (·.profileById) = some p →
        source'.text (p.address id) = source.text (p.address id)) →
      (resolve read' spider (some id) wanted' source').outcome = .ok r' →
      r'.mangaTitle = r.mangaTitle ∧ r'.chapterCount = r.chapterCount) ∧
    ∀ p, spider.site.bind (·.profileById) = some p →
      ((resolve read spider (some id) wanted source).requested = [p.address id] ∧ r.pages = [] ∨
        ∃ target,
          (resolve read spider (some id) wanted source).requested = [p.address id, target] ∧
          (source.text target = .ok none ∧ r.pages = [] ∨
            ∃ html, source.text target = .ok (some html) ∧
              Page.collect read (pageOf html) p.target.pageImage = .ok r.pages) ∧
          (target ≠ p.address id →
            resolve read spider (some id) wanted (source.without target) =
              ⟨[p.address id, target], .ok { r with pages := [] }⟩)) ∧
      ∀ url, wanted.url = some url → Url.isAbsolute url → url ≠ p.address id →
        (∀ (source' : Source) (r' : Resolution), source.AgreeBut (p.address id) source' →
          (resolve read spider (some id) wanted source').outcome = .ok r' → r'.pages = r.pages) ∧
        ∃ r', (resolve read spider (some id) wanted (source.without (p.address id))).outcome =
          .ok r' ∧ r'.pages = r.pages := by
  have hnothing := requested_eq_nil_iff hid hr
  refine ⟨hnothing, fun hnil => ?_, fun _ _ _ _ hsame hr' => manga_eq hid hsame hr hr',
    fun p hp => ⟨?_, fun url hwanted hurl hne => ⟨fun source' r' hagree hr' => ?_,
      exists_resolve_without_profile hp hid hwanted hurl hne hr⟩⟩⟩
  · rw [resolve_of_no_profile (hnothing.mp hnil)] at hr
    cases hr
    rfl
  · rcases requested_and_pages hp hid hr with hnone | ⟨target, hrequested, hpages⟩
    · exact .inl hnone
    · exact .inr ⟨target, hrequested, hpages, fun hne =>
        resolve_without_target hp hid hne hr hrequested⟩
  · obtain ⟨pages, hfound, hpages⟩ := pages_of_absolute hp hid hwanted hurl hr
    obtain ⟨pages', hfound', hpages'⟩ := pages_of_absolute hp hid hwanted hurl hr'
    rw [found_congr (hagree url hne), hfound] at hfound'
    rw [hpages, hpages', Except.ok.inj hfound']

/-- The same page is everywhere: it has a name, one chapter and one image. -/
def illustrated : Source :=
  ⟨fun _ => .ok (some "<h1>N</h1><a href=/1>T</a><img src=http://a.test/1.png>"),
    fun _ => .ok none, fun _ => .ok none⟩

/-- Without the page of the first chapter only the image is missing. -/
theorem resolve_isolated_of_first_chapter :
    (resolve Script.addresses plainSpider (some "m") ⟨some 1, none⟩ illustrated).outcome =
      .ok ⟨[⟨1, "http://a.test/1.png"⟩], "T", "N", some 1⟩ ∧
    (resolve Script.addresses plainSpider (some "m") ⟨some 1, none⟩
        (illustrated.without "http://a.test/1")).outcome =
      .ok ⟨[], "T", "N", some 1⟩ := by
  have hr : (resolve Script.addresses plainSpider (some "m") ⟨some 1, none⟩ illustrated).outcome =
      .ok ⟨[⟨1, "http://a.test/1.png"⟩], "T", "N", some 1⟩ :=
    toOption_eq_some.mp (by decide +kernel)
  have hrequested :
      (resolve Script.addresses plainSpider (some "m") ⟨some 1, none⟩ illustrated).requested =
        [plainProfile.address "m", "http://a.test/1"] := by
    decide +kernel
  obtain ⟨-, -, -, hprofile⟩ := resolve_isolated (by decide) hr
  rcases (hprofile plainProfile rfl).1 with ⟨-, hpages⟩ | ⟨target, htarget, -, hwithout⟩
  · cases hpages
  · obtain rfl : "http://a.test/1" = target := by simpa using hrequested.symm.trans htarget
    rw [hwithout (by decide +kernel)]
    exact ⟨hr, rfl⟩

end Chapter

end MangaShelf
