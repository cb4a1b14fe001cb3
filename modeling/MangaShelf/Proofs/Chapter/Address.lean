import MangaShelf.Proofs.Chapter.Agreement
import MangaShelf.Proofs.Url.Reference

/-!
# Chapters by address

The address of a listed chapter leads where its number leads. The addresses in a list of chapters
are resolved already, so resolving one again finds it in the list; what is shown is the title of the
first chapter with that address: `resolve_by_url`.
-/

namespace MangaShelf

open Config (FieldRule ProfilePage Spider)
open Extraction (Subject)

/-- A source lists these chapters on the profile page of a manga. -/
def Source.Lists (source : Source) (p : ProfilePage) (id : String) (chapters : List Chapter) :
    Prop :=
  ∃ html, source.text (p.address id) = .ok (some html) ∧
    Chapter.collect (Chapter.pageOf html) (some p.target.chapters) (p.address id) = .ok chapters

namespace Chapter

/-! ### Addresses in a list of chapters -/

lemma absolute_eq_ok {url base resolved : String} :
    absolute url base = .ok resolved ↔ Url.absolute url base = .ok resolved := by
  unfold absolute
  cases Url.absolute url base <;> simp

lemma absolute_of_numbered {base : String} {first : Nat} {links : List (String × String)}
    {chapters : List Chapter} (h : numbered base first links = .ok chapters) {c : Chapter}
    (hc : c ∈ chapters) : ∃ link, absolute link base = .ok c.url := by
  induction links generalizing first chapters with
  | nil =>
    cases h
    cases hc
  | cons link rest ih =>
    obtain ⟨url, hurl, h⟩ := bind_eq_ok.mp h
    obtain ⟨later, hlater, h⟩ := bind_eq_ok.mp h
    rw [pure_eq_ok.mp h] at hc
    rcases List.mem_cons.mp hc with rfl | hc
    · exact ⟨_, hurl⟩
    · exact ih hlater hc

/-- The chapters of a page have addresses that are resolved. -/
lemma absolute_of_collect {page : Subject} {rule : Option FieldRule} {base : String}
    {chapters : List Chapter} (h : collect page rule base = .ok chapters) {c : Chapter}
    (hc : c ∈ chapters) : ∃ link, absolute link base = .ok c.url := by
  obtain ⟨links, hlinks⟩ := exists_numbered_of_collect h
  exact absolute_of_numbered hlinks hc

/-! ### Numbers next to addresses -/

/-- Next to an address a number does not count. -/
lemma aim_number_irrelevant (base : String) (chapters : List Chapter) {url : String}
    (hurl : url ≠ "") (number number' : Option Int) :
    aim base chapters ⟨number, some url⟩ = aim base chapters ⟨number', some url⟩ := by
  simp only [aim, given_of_ne_empty hurl]

lemma resolve_number_irrelevant (read : Script.ArrayReader) (spider : Spider) (id : Option String)
    {url : String} (hurl : url ≠ "") (number number' : Option Int) :
    resolve read spider id ⟨number, some url⟩ = resolve read spider id ⟨number', some url⟩ := by
  have haim := fun base chapters => aim_number_irrelevant base chapters hurl number number'
  simp only [resolve, resolveAt, haim]

/-- The first of the listed chapters with the address of a chapter. -/
lemma exists_first {chapters : List Chapter} {i : Nat} {c : Chapter} (hc : chapters[i]? = some c) :
    ∃ first, chapters.find? (·.url = c.url) = some first ∧
      ((∀ earlier ∈ chapters.take i, earlier.url ≠ c.url) → first = c) := by
  have hmem : c ∈ chapters := List.mem_of_getElem? hc
  obtain ⟨first, hfirst⟩ : ∃ first, chapters.find? (·.url = c.url) = some first :=
    Option.isSome_iff_exists.mp (List.find?_isSome.mpr ⟨c, hmem, by simp⟩)
  refine ⟨first, hfirst, fun hearlier => ?_⟩
  obtain ⟨hi, hget⟩ := List.getElem?_eq_some_iff.mp hc
  have hfirst' : chapters.find? (·.url = c.url) = some c := by
    refine List.find?_eq_some_iff_getElem.mpr ⟨by simp, i, hi, hget, fun j hj => ?_⟩
    have hlt : j < chapters.length := by omega
    simpa using hearlier _ (List.mem_take_iff_getElem.mpr ⟨j, by omega, rfl⟩)
  exact Option.some.inj (hfirst.symm.trans hfirst')

/-! ### Two ways to a chapter -/

/-- A chapter by its address and the same chapter by its number: the same requests, and the same
outcome but for the title, which is that of the first chapter with the address. Where no earlier
chapter has the address, there is no difference. A number that comes with an address is not
looked at. -/
theorem resolve_by_url (read : Script.ArrayReader) (spider : Spider) :
    (∀ (p : ProfilePage) (id : String) (source : Source) (chapters : List Chapter) (n : Int)
        (c : Chapter) (number : Option Int),
      spider.site.bind (·.profileById) = some p → Url.IsWebAddress (p.address id) → id ≠ "" →
      source.Lists p id chapters → 1 ≤ n → chapters[n.toNat - 1]? = some c → c.url ≠ "" →
      let byUrl := resolve read spider (some id) ⟨number, some c.url⟩ source
      let byNumber := resolve read spider (some id) ⟨some n, none⟩ source
      byUrl.requested = byNumber.requested ∧
      (∃ first, chapters.find? (·.url = c.url) = some first ∧
        byUrl.outcome =
          byNumber.outcome.map fun r => { r with chapterTitle := first.shownTitle }) ∧
      ((∀ earlier ∈ chapters.take (n.toNat - 1), earlier.url ≠ c.url) → byUrl = byNumber)) ∧
    ∀ (id : Option String) (url : String) (number number' : Option Int), url ≠ "" →
      resolve read spider id ⟨number, some url⟩ = resolve read spider id ⟨number', some url⟩ := by
  refine ⟨fun p id source chapters n c number hp hbase hid hlists hn hc hurl => ?_,
    fun id url number number' hurl => resolve_number_irrelevant read spider id hurl number number'⟩
  obtain ⟨html, htext, hcollect⟩ := hlists
  have haddress := findAddress_of_ne_empty hbase.ne_empty
  obtain ⟨first, hfirst, honly⟩ := exists_first hc
  obtain ⟨link, hlink⟩ := absolute_of_collect hcollect (List.mem_of_getElem? hc)
  have hresolved : absolute c.url (p.address id) = .ok c.url :=
    absolute_eq_ok.mpr (Url.absolute_absolute hbase (absolute_eq_ok.mp hlink))
  have hbyUrl : aimAfter (p.address id) (some html) chapters ⟨number, some c.url⟩ =
      .ok ⟨first.shownTitle, some c.url⟩ := by
    simp [aimAfter, aim_of_url number hurl hresolved, hfirst]
  have hbyNumber : aimAfter (p.address id) (some html) chapters ⟨some n, none⟩ =
      .ok ⟨c.shownTitle, some c.url⟩ := by
    simp [aimAfter, aim_of_number hn hc]
  dsimp only
  cases htitle : titleOn (pageOf html) p.target with
  | error failure =>
    have hlearn : learn p.target (p.address id) (some html) = .error failure := by
      simp [learn, readProfile, htitle, Bind.bind, Except.bind, Except.map]
    rw [resolve_apply_of_error hp hid haddress htext hlearn,
      resolve_apply_of_error hp hid haddress htext hlearn]
    exact ⟨rfl, ⟨first, hfirst, rfl⟩, fun _ => rfl⟩
  | ok title =>
    have hlearn : learn p.target (p.address id) (some html) =
        .ok (Profile.resolution ⟨title, chapters⟩, chapters) := by
      simp [learn, readProfile, htitle, hcollect, Bind.bind, Except.bind, Except.map, pure,
        Except.pure]
    rw [resolve_apply hp hid haddress htext hlearn hbyUrl,
      resolve_apply hp hid haddress htext hlearn hbyNumber]
    refine ⟨rfl, ⟨first, hfirst, ?_⟩, fun hearlier => by rw [honly hearlier]⟩
    cases found read p.target source (some c.url) <;> rfl

/-- Profile pages with the links to the chapters in a list. -/
def listProfile : ProfilePage :=
  { plainProfile with
    target := { plainProfile.target with
      chapters := { FieldRule.empty with selector := some "p", parsesJson := true } } }

/-- A site with such profile pages. -/
def listSpider : Spider :=
  { plainSpider with
    site := plainSpider.site.map fun site => { site with profileById := some listProfile } }

/-- Two chapters have the same address. -/
def sameAddress : Source :=
  ⟨fun _ => .ok (some "<h1>N</h1><p>[\"/1\",\"/1\"]</p>"), fun _ => .ok none, fun _ => .ok none⟩

/-- The second chapter has the address of the first one, whose title is shown for that address. -/
theorem resolve_by_url_of_same_address :
    (resolve Script.addresses listSpider (some "m") ⟨some 2, none⟩ sameAddress).outcome =
      .ok ⟨[], "Chapter 2", "N", some 2⟩ ∧
    (resolve Script.addresses listSpider (some "m") ⟨none, some "http://a.test/1"⟩
        sameAddress).outcome =
      .ok ⟨[], "Chapter 1", "N", some 2⟩ ∧
    (resolve Script.addresses listSpider (some "m") ⟨none, some "http://a.test/1"⟩
        sameAddress).requested =
      (resolve Script.addresses listSpider (some "m") ⟨some 2, none⟩ sameAddress).requested := by
  have hbyNumber :
      (resolve Script.addresses listSpider (some "m") ⟨some 2, none⟩ sameAddress).outcome =
        .ok ⟨[], "Chapter 2", "N", some 2⟩ :=
    toOption_eq_some.mp (by decide +kernel)
  have hbase : Url.IsWebAddress (listProfile.address "m") :=
    ⟨"http".toList, by decide, "a.test/m".toList, by decide +kernel, by decide⟩
  have hlists : sameAddress.Lists listProfile "m"
      [⟨1, "", "http://a.test/1"⟩, ⟨2, "", "http://a.test/1"⟩] :=
    ⟨_, rfl, toOption_eq_some.mp (by decide +kernel)⟩
  obtain ⟨hrequested, ⟨first, hfirst, houtcome⟩, -⟩ :=
    (resolve_by_url Script.addresses listSpider).1 listProfile "m" sameAddress _ 2 _ none rfl
      hbase (by decide) hlists (by decide) rfl (by decide)
  obtain rfl := Option.some.inj hfirst
  rw [hbyNumber] at houtcome
  exact ⟨hbyNumber, houtcome, hrequested⟩

end Chapter

end MangaShelf
