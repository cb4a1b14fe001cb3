import MangaShelf.Proofs.Catalog.Lookup
import MangaShelf.Proofs.Web.Reading
import MangaShelf.Proofs.Web.Registration

/-!
# Refused requests

What is asked of one spider is refused at the first stage of its lookup that fails, with nothing
asked for beyond this stage, and the reply explains the refusal: `refused_by_stage`. A request that
is not valid does not come that far. Its reply is the same whatever there is to be fetched.
-/

namespace MangaShelf.Web

open Catalog (Lookup Refusal)
open Config (Issue Spider)

/-! ### Requests for one spider -/

namespace Request

/-- The request is valid and for the spider of an id. -/
inductive AsksFor (r : Request) (id : String) : Prop where
  | manga {q : MangaQuery} (hpath : Route.ofPath? r.path = some .manga)
    (hmethod : r.method = Route.manga.method) (hbody : checkBody MangaQuery.ofMembers r = .ok q)
    (hid : q.spiderId = id) : AsksFor r id
  | chapter {route : Route} {q : ChapterQuery} (hroute : route = .chapterPages ∨ route = .chapter)
    (hpath : Route.ofPath? r.path = some route) (hmethod : r.method = route.method)
    (hquery : r.chapterQuery = .ok q)
    (hwanted : q.number ≠ none ∨ ∃ url, q.url = some url ∧ url ≠ "") (hid : q.spiderId = id) :
    AsksFor r id

/-- The request is for a spider but not valid; how it is answered. -/
inductive Invalid (r : Request) : Reply → Prop where
  | body {issues : List Issue} (hpath : Route.ofPath? r.path = some .manga)
    (hmethod : r.method = Route.manga.method)
    (hbody : checkBody MangaQuery.ofMembers r = .error (.invalid issues)) :
    Invalid r (.invalid issues)
  | query {route : Route} {issues : List Issue} (hroute : route = .chapterPages ∨ route = .chapter)
    (hpath : Route.ofPath? r.path = some route) (hmethod : r.method = route.method)
    (hquery : r.chapterQuery = .invalid issues) : Invalid r (.invalid issues)
  /-- There is no number of a chapter, and no address of one. -/
  | nothingWanted {route : Route} {q : ChapterQuery}
    (hroute : route = .chapterPages ∨ route = .chapter)
    (hpath : Route.ofPath? r.path = some route) (hmethod : r.method = route.method)
    (hquery : r.chapterQuery = .ok q) (hnumber : q.number = none)
    (hurl : q.url = none ∨ q.url = some "") :
    Invalid r (.detail 422 "Either chapter or chapterUrl is required")

variable {r : Request}

lemma Invalid.status {reply : Reply} (h : r.Invalid reply) : reply.status = 422 := by
  cases h <;> rfl

/-- A body that does not pass its check lists what is wrong, or it cannot be read at all. -/
lemma invalid_or_unreadable {α : Type} {read : List (String × Json) → Config.Checked α}
    {reply : Reply} (h : checkBody read r = .error reply) :
    (∃ issues, reply = .invalid issues) ∨ r.payload = .unreadable := by
  unfold checkBody at h
  cases hpayload : r.payload with
  | unreadable => exact .inr rfl
  | nothing | value _ | otherBytes | malformed _ =>
    rw [hpayload] at h
    dsimp only at h
    split at h
    · cases h
    · exact .inl ⟨_, (Except.error.inj h).symm⟩

/-- A request for a spider is valid, not valid, or has a body that cannot be read. -/
lemma asksFor_or_invalid {route : Route}
    (hroute : route = .manga ∨ route = .chapterPages ∨ route = .chapter)
    (hpath : Route.ofPath? r.path = some route) (hmethod : r.method = route.method) :
    (∃ id, r.AsksFor id) ∨ (∃ reply, r.Invalid reply) ∨ r.payload = .unreadable := by
  rcases hroute with rfl | hroute
  · cases hbody : checkBody MangaQuery.ofMembers r with
    | ok q => exact .inl ⟨_, .manga hpath hmethod hbody rfl⟩
    | error reply =>
      rcases invalid_or_unreadable hbody with ⟨issues, rfl⟩ | hunreadable
      · exact .inr (.inl ⟨_, .body hpath hmethod hbody⟩)
      · exact .inr (.inr hunreadable)
  · cases hquery : r.chapterQuery with
    | invalid issues => exact .inr (.inl ⟨_, .query hroute hpath hmethod hquery⟩)
    | ok q =>
      cases hnumber : q.number with
      | some n =>
        exact .inl ⟨_, .chapter hroute hpath hmethod hquery (.inl (by simp [hnumber])) rfl⟩
      | none =>
        cases hgiven : Extraction.given q.url with
        | some url =>
          have hurl := Chapter.given_eq_some.mp hgiven
          exact .inl ⟨_, .chapter hroute hpath hmethod hquery (.inr ⟨url, hurl⟩) rfl⟩
        | none =>
          have hurl := Catalog.given_eq_none.mp hgiven
          exact .inr (.inl ⟨_, .nothingWanted hroute hpath hmethod hquery hnumber hurl⟩)

end Request

/-! ### Replies -/

section

variable {setup : Setup} {source : Source} {registry : Registry} {r : Request}

lemma handle_manga (hpath : Route.ofPath? r.path = some .manga)
    (hmethod : r.method = Route.manga.method) :
    handle setup source registry r =
      (registry, match checkBody MangaQuery.ofMembers r with
        | .error reply => reply
        | .ok q => .ofRun (answerManga (setup.context registry) q source)) := by
  simp only [handle_eq, hpath, answerAt, hmethod, if_true, answer]
  cases checkBody MangaQuery.ofMembers r with
  | error reply => exact congrArg (·, reply) (closed_start registry reply)
  | ok q => exact congrArg (·, _) (closed_start registry _)

variable (setup registry) in
/-- The two routes for chapters differ in how a resolution is answered. -/
lemma exists_handle_chapter {route : Route} (hroute : route = .chapterPages ∨ route = .chapter)
    (hpath : Route.ofPath? r.path = some route) (hmethod : r.method = route.method) :
    ∃ answer : Resolution → Fetching Reply, ∀ source : Source,
      handle setup source registry r =
        (registry, .ofRun (resolveQuery (setup.context registry) r answer source)) := by
  rcases hroute with rfl | rfl
  · refine ⟨fun resolution => return pagesReply resolution, fun source => ?_⟩
    simp only [handle_eq, hpath, answerAt, hmethod, if_true, answer]
    exact congrArg (·, _) (closed_start registry _)
  · refine ⟨fun resolution => do
      return .ofStream (← Catalog.chapterStream (setup.context registry) resolution none),
      fun source => ?_⟩
    simp only [handle_eq, hpath, answerAt, hmethod, if_true, answer]
    exact congrArg (·, _) (closed_start registry _)

/-- A request that is not valid is answered without a look at what there is to be fetched. -/
lemma Request.Invalid.handle_eq {reply : Reply} (h : r.Invalid reply) (setup : Setup)
    (source : Source) (registry : Registry) : handle setup source registry r = (registry, reply) := by
  cases h with
  | body hpath hmethod hbody => rw [handle_manga hpath hmethod, hbody]
  | query hroute hpath hmethod hquery =>
    obtain ⟨answer, hanswer⟩ := exists_handle_chapter setup registry hroute hpath hmethod
    rw [hanswer, resolveQuery, hquery]
    rfl
  | nothingWanted hroute hpath hmethod hquery hnumber hurl =>
    obtain ⟨answer, hanswer⟩ := exists_handle_chapter setup registry hroute hpath hmethod
    rw [hanswer, resolveQuery, hquery]
    simp only [hnumber, Catalog.given_eq_none.mpr hurl, Option.isNone_none, Bool.and_self, if_true]
    rfl

/-- The reply that explains a refusal. -/
def Reply.refused (refusal : Refusal) : Reply :=
  ⟨refusal.status, .json (.object [("error", .string refusal.message)])⟩

/-- A valid request is refused where the lookup of its spider ends. -/
lemma Request.AsksFor.handle_of_error {id : String} (h : r.AsksFor id) (hsource : source.Answers)
    {asked : List String} {refusal : Refusal}
    (hlookup : Lookup (setup.context registry).connection source id asked (.error refusal)) :
    handle setup source registry r = (registry, .refused refusal) := by
  cases h with
  | @manga q hpath hmethod hbody hid =>
    subst hid
    have hmanga := congrArg Run.outcome
      (hlookup.manga_of_error hsource q.mangaId (q.fields.getD []))
    rw [handle_manga hpath hmethod, hbody]
    dsimp only
    rw [answerManga, Fetching.bind_apply_of_error hmanga]
    rfl
  | @chapter route q hroute hpath hmethod hquery hwanted hid =>
    subst hid
    have hchapter := congrArg Run.outcome
      (hlookup.chapter_of_error hsource q.mangaId ⟨q.number, q.url⟩)
    have hsome : (q.number.isNone && (Extraction.given q.url).isNone) = false := by
      rw [Bool.and_eq_false_iff]
      refine hwanted.imp (fun hnumber => ?_) fun ⟨url, hurl⟩ => ?_
      · rwa [Option.isNone_eq_false_iff, Option.isSome_iff_ne_none]
      · rw [Chapter.given_eq_some.mpr hurl]
        rfl
    obtain ⟨answer, hanswer⟩ := exists_handle_chapter setup registry hroute hpath hmethod
    rw [hanswer, resolveQuery, hquery]
    dsimp only
    rw [hsome, if_neg Bool.false_ne_true, Fetching.bind_apply_of_error hchapter]
    rfl

end

/-- Whatever is stored and whatever the source answers: a spider is looked up in one way, and a stage
that fails there refuses all that is asked of the spider, with what has been asked for up to this
stage, and explains itself in the reply. A spider that is found is asked for what is wanted of it and
refuses nothing. Requests that are not valid have the status 422, and nothing is fetched for them;
a valid one leaves that to the lookup. -/
theorem refused_by_stage (setup : Setup) (registry : Registry) {source : Source}
    (hsource : source.Answers) (id : String) :
    (∃ asked result, Lookup (registry.active setup.manifestUrl) source id asked result) ∧
    (∀ asked result, Lookup (registry.active setup.manifestUrl) source id asked result ↔
      Catalog.spider (setup.context registry) id source = ⟨asked, result.mapError .refused⟩) ∧
    (∀ asked refusal, Lookup (registry.active setup.manifestUrl) source id asked (.error refusal) →
      refusal.status =
        (if asked = [] then 400 else if refusal = .spiderNotFound id then 404 else 500) ∧
      (∀ mangaId fields, Catalog.manga (setup.context registry) id mangaId fields source =
        ⟨asked, .error (.refused refusal)⟩) ∧
      (∀ mangaId wanted, Catalog.chapter (setup.context registry) id mangaId wanted source =
        ⟨asked, .error (.refused refusal)⟩) ∧
      ∀ r : Request, r.AsksFor id →
        handle setup source registry r = (registry, .refused refusal)) ∧
    (∀ asked spider, Lookup (registry.active setup.manifestUrl) source id asked (.ok spider) →
      (∀ mangaId fields, Catalog.manga (setup.context registry) id mangaId fields source =
          ⟨asked ++ (spider.details mangaId fields source).requested,
            (spider.details mangaId fields source).outcome⟩ ∧
        ∀ refusal, (spider.details mangaId fields source).outcome ≠ .error (.refused refusal)) ∧
      ∀ mangaId wanted, Catalog.chapter (setup.context registry) id mangaId wanted source =
          ⟨asked ++
              (Chapter.resolve setup.readArray spider (some mangaId) wanted source).requested,
            (Chapter.resolve setup.readArray spider (some mangaId) wanted source).outcome⟩ ∧
        (setup.readArray = Script.addresses → ∀ refusal,
          (Chapter.resolve setup.readArray spider (some mangaId) wanted source).outcome ≠
            .error (.refused refusal))) ∧
    (∀ (r : Request) (reply : Reply), r.Invalid reply →
      reply.status = 422 ∧ ∀ source, handle setup source registry r = (registry, reply)) ∧
    ∀ (r : Request) (route : Route), route = .manga ∨ route = .chapterPages ∨ route = .chapter →
      Route.ofPath? r.path = some route → r.method = route.method →
        (∃ id, r.AsksFor id) ∨ (∃ reply, r.Invalid reply) ∨ r.payload = .unreadable := by
  refine ⟨Catalog.exists_lookup _ source id, fun asked result => ?_, fun asked refusal h => ?_,
    fun asked spider h => ⟨fun mangaId fields => ?_, fun mangaId wanted => ?_⟩,
    fun r reply h => ?_, fun r route => Request.asksFor_or_invalid⟩
  · exact (@Catalog.spider_eq_iff (setup.context registry) source id hsource asked result).symm
  · exact ⟨h.status_of_error, h.manga_of_error hsource, h.chapter_of_error hsource,
      fun r hr => hr.handle_of_error hsource h⟩
  · exact ⟨h.manga_of_ok hsource mangaId fields,
      Catalog.details_not_refused hsource spider mangaId fields⟩
  · refine ⟨h.chapter_of_ok hsource mangaId wanted, fun hread => ?_⟩
    rw [hread]
    exact Catalog.resolve_not_refused hsource spider (some mangaId) wanted
  · exact ⟨h.status, fun source => h.handle_eq setup source registry⟩

/-- A connection whose manifest has two entries with one id. Only the second one has a document. -/
def twoEntries : Source where
  text _ := .ok none
  json url := .ok (
    if url = "http://a.test" then
      some (Config.Manifest.mk [⟨"a", "A", "http://a.test/1"⟩, ⟨"a", "B", "http://a.test/2"⟩]).toJson
    else if url = "http://a.test/2" then some (Chapter.plainSpider.toJson .document)
    else none)
  bytes _ := .ok none

/-- The first entry counts, although the second one has a document. -/
theorem refused_by_stage_of_two_entries :
    let setup : Setup := ⟨some "http://a.test", 1, Script.addresses⟩
    Catalog.chapter (setup.context .empty) "a" "m" ⟨some 1, none⟩ twoEntries =
        ⟨["http://a.test", "http://a.test/1"], .error (.refused (.spiderUnavailable "a"))⟩ ∧
      handle setup twoEntries .empty (firstChapter .chapterPages) =
        (.empty, .refused (.spiderUnavailable "a")) := by
  intro setup
  have hanswers : twoEntries.Answers := ⟨fun _ => ⟨_, rfl⟩, fun _ => ⟨_, rfl⟩, fun _ => ⟨_, rfl⟩⟩
  have hmanifest : Catalog.DocumentAt Config.Manifest.check twoEntries "http://a.test"
      ⟨[] ++ ⟨"a", "A", "http://a.test/1"⟩ :: [⟨"a", "B", "http://a.test/2"⟩]⟩ :=
    ⟨_, rfl, rfl⟩
  have hnone : ∀ s, ¬ Catalog.DocumentAt Catalog.checkWrapped twoEntries "http://a.test/1" s := by
    rintro s ⟨payload, hpayload, -⟩
    cases hpayload
  have hlookup : Lookup (some "http://a.test") twoEntries "a" ["http://a.test", "http://a.test/1"]
      (.error (.spiderUnavailable "a")) :=
    .noDocument rfl (by decide) hmanifest (by simp) rfl hnone
  have hquery : (firstChapter .chapterPages).chapterQuery = .ok ⟨"a", "m", some 1, none⟩ := rfl
  have hasks : (firstChapter .chapterPages).AsksFor "a" :=
    .chapter (.inl rfl) rfl rfl hquery (.inl (by simp)) rfl
  obtain ⟨-, -, hrefused, -⟩ := refused_by_stage setup .empty hanswers "a"
  obtain ⟨-, -, hchapter, hhandle⟩ := hrefused _ _ hlookup
  exact ⟨hchapter "m" ⟨some 1, none⟩, hhandle _ hasks⟩

end MangaShelf.Web
