import MangaShelf.Proofs.Catalog.Batches
import MangaShelf.Proofs.Record.Mishap

/-!
# Looking a spider up

What is asked of one spider goes through stages: there is an active connection, it has a manifest,
the manifest has an entry with the id of the spider, and the entry has a document. The first stage
that fails ends the request and says how it is refused. A `Lookup` tells what has been asked for up
to there; `spider_eq_iff` says that a spider is looked up just so.
-/

namespace MangaShelf

open Config (Checked Crawler Manifest Spider)

/-- The source has an answer whatever it is asked for, be it that there is nothing. -/
structure Source.Answers (source : Source) : Prop where
  text : ∀ url, ∃ text?, source.text url = .ok text?
  json : ∀ url, ∃ payload?, source.json url = .ok payload?
  bytes : ∀ url, ∃ bytes?, source.bytes url = .ok bytes?

namespace Catalog

/-- There is a document at an address, and it passes its check with a value. -/
def DocumentAt {α : Type} (check : Json → Checked α) (source : Source) (url : String) (a : α) :
    Prop :=
  ∃ payload, source.json url = .ok (some payload) ∧ check payload = .ok a

/-- A spider from a document that may stand inside another object. -/
def checkWrapped (payload : Json) : Checked Spider :=
  Spider.check (unwrap payload)

/-- How the spider of an id is looked up: what is asked for, and the spider or the refusal that this
leads to. -/
inductive Lookup (connection : Option String) (source : Source) (id : String) :
    List String → Except Refusal Spider → Prop where
  | notRegistered (h : connection = none ∨ connection = some "") :
    Lookup connection source id [] (.error .notRegistered)
  | noManifest {url : String} (hurl : connection = some url) (hne : url ≠ "")
    (h : ∀ m, ¬ DocumentAt Manifest.check source url m) :
    Lookup connection source id [url] (.error .manifestUnavailable)
  | notListed {url : String} {m : Manifest} (hurl : connection = some url) (hne : url ≠ "")
    (hm : DocumentAt Manifest.check source url m)
    (h : ∀ crawler ∈ m.crawlers, crawler.id ≠ id) :
    Lookup connection source id [url] (.error (.spiderNotFound id))
  | noDocument {url : String} {before after : List Crawler} {crawler : Crawler}
    (hurl : connection = some url) (hne : url ≠ "")
    (hm : DocumentAt Manifest.check source url ⟨before ++ crawler :: after⟩)
    (hbefore : ∀ other ∈ before, other.id ≠ id) (hid : crawler.id = id)
    (h : ∀ s, ¬ DocumentAt checkWrapped source crawler.link s) :
    Lookup connection source id [url, crawler.link] (.error (.spiderUnavailable id))
  | found {url : String} {before after : List Crawler} {crawler : Crawler} {s : Spider}
    (hurl : connection = some url) (hne : url ≠ "")
    (hm : DocumentAt Manifest.check source url ⟨before ++ crawler :: after⟩)
    (hbefore : ∀ other ∈ before, other.id ≠ id) (hid : crawler.id = id)
    (h : DocumentAt checkWrapped source crawler.link s) :
    Lookup connection source id [url, crawler.link] (.ok s)

/-! ### Documents -/

section

variable {α : Type} {check : Json → Checked α} {source : Source} {url : String}

/-- The value of the document at an address, if it can be fetched and passes its check. -/
def load (check : Json → Checked α) (url : String) : Fetching (Option α) := do
  return (← Fetching.json url).bind fun payload => (check payload).toOption

lemma load_of_documentAt {a : α} (h : DocumentAt check source url a) :
    load check url source = ⟨[url], .ok (some a)⟩ := by
  obtain ⟨payload, hpayload, hcheck⟩ := h
  have hjson : (Fetching.json url source).outcome = .ok (some payload) := hpayload
  rw [load, Fetching.bind_apply_of_ok hjson, Option.bind_some, hcheck]
  rfl

lemma load_of_forall_not (hsource : source.Answers) (h : ∀ a, ¬ DocumentAt check source url a) :
    load check url source = ⟨[url], .ok none⟩ := by
  obtain ⟨payload?, hpayload⟩ := hsource.json url
  have hjson : (Fetching.json url source).outcome = .ok payload? := hpayload
  rw [load, Fetching.bind_apply_of_ok hjson]
  cases payload? with
  | none => rfl
  | some payload =>
    cases hcheck : check payload with
    | ok a => exact absurd ⟨payload, hpayload, hcheck⟩ (h a)
    | invalid issues =>
      rw [Option.bind_some, hcheck]
      rfl

/-- A spider is loaded from the document at its address. -/
lemma loadSpider_eq (url : String) : loadSpider url = load checkWrapped url := rfl

end

/-! ### Stages -/

section

variable {context : Context} {source : Source} {url id : String}

lemma given_eq_none {connection : Option String} :
    Extraction.given connection = none ↔ connection = none ∨ connection = some "" := by
  cases connection with
  | none => simp [Extraction.given]
  | some url => by_cases h : url = "" <;> simp [Extraction.given, Option.filter, h]

/-- Without a connection nothing is asked for. -/
lemma manifest_of_not_given (h : Extraction.given context.connection = none) :
    manifest context none source = ⟨[], .error (.refused .notRegistered)⟩ := by
  rw [manifest, h]
  rfl

lemma manifest_of_given (hurl : context.connection = some url) (hne : url ≠ "") :
    manifest context none = (do
      match ← load Manifest.check url with
      | none => refuse .manifestUnavailable
      | some m => return m) := by
  have hgiven : Extraction.given context.connection = some url :=
    Chapter.given_eq_some.mpr ⟨hurl, hne⟩
  rw [manifest, hgiven]
  rfl

lemma manifest_of_documentAt {m : Manifest} (hurl : context.connection = some url) (hne : url ≠ "")
    (hm : DocumentAt Manifest.check source url m) :
    manifest context none source = ⟨[url], .ok m⟩ := by
  rw [manifest_of_given hurl hne, Fetching.bind_apply_of_run_ok (load_of_documentAt hm)]
  rfl

lemma manifest_of_forall_not (hsource : source.Answers) (hurl : context.connection = some url)
    (hne : url ≠ "") (h : ∀ m, ¬ DocumentAt Manifest.check source url m) :
    manifest context none source = ⟨[url], .error (.refused .manifestUnavailable)⟩ := by
  rw [manifest_of_given hurl hne, Fetching.bind_apply_of_run_ok (load_of_forall_not hsource h)]
  rfl

/-- The active manifest is there, or what asks for it is refused. -/
lemma manifest_outcome (hsource : source.Answers) (context : Context) :
    (∃ refusal, (manifest context none source).outcome = .error (.refused refusal)) ∨
      ∃ m, (manifest context none source).outcome = .ok m := by
  cases hgiven : Extraction.given context.connection with
  | none => exact .inl ⟨_, congrArg Run.outcome (manifest_of_not_given hgiven)⟩
  | some url =>
    obtain ⟨hurl, hne⟩ := Chapter.given_eq_some.mp hgiven
    by_cases hmanifest : ∃ m, DocumentAt Manifest.check source url m
    · obtain ⟨m, hm⟩ := hmanifest
      exact .inr ⟨m, congrArg Run.outcome (manifest_of_documentAt hurl hne hm)⟩
    · have hnone := manifest_of_forall_not hsource hurl hne (not_exists.mp hmanifest)
      exact .inl ⟨_, congrArg Run.outcome hnone⟩

/-- Once there is a manifest, its first entry with the id is what counts. -/
lemma spider_of_manifest {m : Manifest} (hmanifest : manifest context none source = ⟨[url], .ok m⟩) :
    spider context id source =
      match m.find? id with
      | none => ⟨[url], .error (.refused (.spiderNotFound id))⟩
      | some crawler =>
        match load checkWrapped crawler.link source with
        | ⟨asked, .ok (some s)⟩ => ⟨url :: asked, .ok s⟩
        | ⟨asked, .ok none⟩ => ⟨url :: asked, .error (.refused (.spiderUnavailable id))⟩
        | ⟨asked, .error failure⟩ => ⟨url :: asked, .error failure⟩ := by
  rw [spider, Fetching.bind_apply_of_run_ok hmanifest]
  cases m.find? id with
  | none => rfl
  | some crawler =>
    dsimp only
    rw [loadSpider_eq]
    rcases hload : load checkWrapped crawler.link source with ⟨asked, failure | _ | s⟩
    · rw [Fetching.bind_apply_of_run_error hload]
      rfl
    · rw [Fetching.bind_apply_of_run_ok hload]
      simp [refuse, Fetching.fail]
    · rw [Fetching.bind_apply_of_run_ok hload]
      simp

lemma find?_of_first {before after : List Crawler} {crawler : Crawler}
    (hbefore : ∀ other ∈ before, other.id ≠ id) (hid : crawler.id = id) :
    Manifest.find? ⟨before ++ crawler :: after⟩ id = some crawler := by
  rw [Manifest.find?, List.find?_eq_some_iff_append]
  exact ⟨by simpa using hid, before, after, rfl, by simpa using hbefore⟩

lemma exists_first {m : Manifest} {crawler : Crawler} (h : m.find? id = some crawler) :
    ∃ before after, m = ⟨before ++ crawler :: after⟩ ∧ (∀ other ∈ before, other.id ≠ id) ∧
      crawler.id = id := by
  rw [Manifest.find?, List.find?_eq_some_iff_append] at h
  obtain ⟨hid, before, after, hlist, hbefore⟩ := h
  exact ⟨before, after, by cases m; exact congrArg Manifest.mk hlist, by simpa using hbefore,
    by simpa using hid⟩

/-! ### Lookups -/

/-- A spider is looked up as a lookup tells. -/
lemma Lookup.spider_apply (hsource : source.Answers) {asked : List String}
    {result : Except Refusal Spider} (h : Lookup context.connection source id asked result) :
    spider context id source = ⟨asked, result.mapError .refused⟩ := by
  cases h with
  | notRegistered h =>
    have hmanifest : manifest context none source = _ :=
      manifest_of_not_given (given_eq_none.mpr h)
    rw [spider, Fetching.bind_apply_of_run_error hmanifest]
    rfl
  | noManifest hurl hne h =>
    have hmanifest := manifest_of_forall_not hsource hurl hne h
    rw [spider, Fetching.bind_apply_of_run_error hmanifest]
    rfl
  | @notListed url m hurl hne hm h =>
    have hnone : m.find? id = none := by
      rw [Manifest.find?, List.find?_eq_none]
      simpa using h
    rw [spider_of_manifest (manifest_of_documentAt hurl hne hm), hnone]
    rfl
  | noDocument hurl hne hm hbefore hid h =>
    rw [spider_of_manifest (manifest_of_documentAt hurl hne hm), find?_of_first hbefore hid]
    dsimp only
    rw [load_of_forall_not hsource h]
    rfl
  | found hurl hne hm hbefore hid h =>
    rw [spider_of_manifest (manifest_of_documentAt hurl hne hm), find?_of_first hbefore hid]
    dsimp only
    rw [load_of_documentAt h]
    rfl

/-- Every spider is looked up in one of these ways. -/
lemma exists_lookup (connection : Option String) (source : Source) (id : String) :
    ∃ asked result, Lookup connection source id asked result := by
  by_cases hnone : connection = none ∨ connection = some ""
  · exact ⟨_, _, .notRegistered hnone⟩
  · rw [not_or] at hnone
    obtain ⟨url, rfl⟩ := Option.ne_none_iff_exists'.mp hnone.1
    have hne : url ≠ "" := fun hempty => hnone.2 (congrArg some hempty)
    by_cases hmanifest : ∃ m, DocumentAt Manifest.check source url m
    · obtain ⟨m, hm⟩ := hmanifest
      cases hfind : m.find? id with
      | none =>
        refine ⟨_, _, .notListed rfl hne hm ?_⟩
        simpa [Manifest.find?] using hfind
      | some crawler =>
        obtain ⟨before, after, rfl, hbefore, hid⟩ := exists_first hfind
        by_cases hdocument : ∃ s, DocumentAt checkWrapped source crawler.link s
        · obtain ⟨s, hs⟩ := hdocument
          exact ⟨_, _, .found rfl hne hm hbefore hid hs⟩
        · exact ⟨_, _, .noDocument rfl hne hm hbefore hid (not_exists.mp hdocument)⟩
    · exact ⟨_, _, .noManifest rfl hne (not_exists.mp hmanifest)⟩

/-- There is one way only to look a spider up, and it is what is done. -/
lemma spider_eq_iff (hsource : source.Answers) {asked : List String}
    {result : Except Refusal Spider} :
    spider context id source = ⟨asked, result.mapError .refused⟩ ↔
      Lookup context.connection source id asked result := by
  refine ⟨fun h => ?_, fun h => h.spider_apply hsource⟩
  obtain ⟨asked', result', hlookup⟩ := exists_lookup context.connection source id
  rw [hlookup.spider_apply hsource] at h
  obtain rfl : asked' = asked := congrArg Run.requested h
  have hresult : result'.mapError Failure.refused = result.mapError .refused :=
    congrArg Run.outcome h
  cases result <;> cases result' <;> cases hresult <;> exact hlookup

/-- The status of a refusal tells how far the lookup has come. -/
lemma Lookup.status_of_error {connection : Option String} {asked : List String} {refusal : Refusal}
    (h : Lookup connection source id asked (.error refusal)) :
    refusal.status =
      if asked = [] then 400 else if refusal = .spiderNotFound id then 404 else 500 := by
  cases h with
  | notRegistered => rfl
  | noManifest | notListed | noDocument => simp [Refusal.status]

/-! ### What is asked of the spider -/

/-- Who is refused at a stage asks for nothing more. -/
lemma Lookup.manga_of_error (hsource : source.Answers) {asked : List String} {refusal : Refusal}
    (h : Lookup context.connection source id asked (.error refusal)) (mangaId : String)
    (fields : List RequestField) :
    manga context id mangaId fields source = ⟨asked, .error (.refused refusal)⟩ := by
  rw [manga, Fetching.bind_apply_of_run_error (h.spider_apply hsource)]

lemma Lookup.chapter_of_error (hsource : source.Answers) {asked : List String} {refusal : Refusal}
    (h : Lookup context.connection source id asked (.error refusal)) (mangaId : String)
    (wanted : Chapter.Wanted) :
    chapter context id mangaId wanted source = ⟨asked, .error (.refused refusal)⟩ := by
  rw [chapter, Fetching.bind_apply_of_run_error (h.spider_apply hsource)]

lemma Lookup.manga_of_ok (hsource : source.Answers) {asked : List String} {s : Spider}
    (h : Lookup context.connection source id asked (.ok s)) (mangaId : String)
    (fields : List RequestField) :
    manga context id mangaId fields source =
      ⟨asked ++ (s.details mangaId fields source).requested,
        (s.details mangaId fields source).outcome⟩ := by
  rw [manga, Fetching.bind_apply_of_run_ok (h.spider_apply hsource)]

lemma Lookup.chapter_of_ok (hsource : source.Answers) {asked : List String} {s : Spider}
    (h : Lookup context.connection source id asked (.ok s)) (mangaId : String)
    (wanted : Chapter.Wanted) :
    chapter context id mangaId wanted source =
      ⟨asked ++ (Chapter.resolve context.readArray s (some mangaId) wanted source).requested,
        (Chapter.resolve context.readArray s (some mangaId) wanted source).outcome⟩ := by
  rw [chapter, Fetching.bind_apply_of_run_ok (h.spider_apply hsource)]

/-- What a site brings about is no refusal. -/
lemma not_refused_of_ofSite (hsource : source.Answers) {failure : Failure} {refusal : Refusal}
    (h : failure.OfSite ∨ ∃ url, source.text url = .error failure) :
    failure ≠ .refused refusal := by
  rintro rfl
  rcases h with h | ⟨url, htext⟩
  · cases h
  · obtain ⟨text?, htext'⟩ := hsource.text url
    rw [htext] at htext'
    cases htext'

/-- A spider that has been found refuses nothing. -/
lemma details_not_refused (hsource : source.Answers) (s : Spider) (mangaId : String)
    (fields : List RequestField) (refusal : Refusal) :
    (s.details mangaId fields source).outcome ≠ .error (.refused refusal) := by
  intro h
  cases hp : s.site.bind (·.profileById) with
  | none =>
    rw [Spider.details, hp] at h
    cases h
  | some p =>
    have hmishap := (Spider.failsFor_details s source hp mangaId fields).of_error _ h
    exact not_refused_of_ofSite hsource hmishap.ofSite rfl

lemma resolve_not_refused (hsource : source.Answers) (s : Spider) (mangaId : Option String)
    (wanted : Chapter.Wanted) (refusal : Refusal) :
    (Chapter.resolve Script.addresses s mangaId wanted source).outcome ≠
      .error (.refused refusal) := by
  intro h
  cases hp : s.site.bind (·.profileById) with
  | none =>
    rw [Chapter.resolve_of_no_profile hp] at h
    cases h
  | some p =>
    have hmishap :=
      (Chapter.failsFor_resolve Script.addresses source hp mangaId wanted).of_error _ h
    rcases hmishap.ofSite with hsite | ⟨hlong, -⟩
    · exact not_refused_of_ofSite hsource hsite rfl
    · cases hlong

end

end Catalog

end MangaShelf
