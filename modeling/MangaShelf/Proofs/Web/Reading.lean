import Mathlib.Algebra.Group.Nat.Defs
import Mathlib.Data.List.Forall2
import Mathlib.Data.List.Pairwise
import MangaShelf.Proofs.Catalog.Batches
import MangaShelf.Proofs.Chapter.Agreement
import MangaShelf.Proofs.Media.DataUri
import MangaShelf.Proofs.Web.Routing

/-!
# Reading a chapter

A chapter can be asked for in two ways: as a list of its pages, and as a stream of their images.
Both answers are about the same pages, and the images can be had back from the stream:
`events_of_pages`.
-/

namespace MangaShelf

/-! ### Pages -/

namespace Page

/-- Pages are numbered one after the other. -/
def Ordered (pages : List Page) : Prop :=
  pages.Pairwise fun p q => p.number < q.number

lemma ordered_nil : Ordered [] := List.Pairwise.nil

lemma ordered_numbered (urls : List String) : Ordered (numbered urls) := by
  rw [Ordered, numbered, List.pairwise_map, List.pairwise_iff_getElem]
  intro i j hi hj hlt
  simpa using hlt

lemma ordered_collect {read : Script.ArrayReader} {page : Extraction.Subject}
    {rule : Option Config.PageRule} {pages : List Page} (h : collect read page rule = .ok pages) :
    Ordered pages := by
  have hpages (fromScripts : List String)
      (h : (if fromScripts.isEmpty then do
          return numbered (← firstFound page rule (selectors rule))
        else return numbered fromScripts : Except Failure (List Page)) = .ok pages) :
      Ordered pages := by
    split at h
    next =>
      obtain ⟨urls, -, h⟩ := bind_eq_ok.mp h
      rw [pure_eq_ok.mp h]
      exact ordered_numbered urls
    next =>
      rw [pure_eq_ok.mp h]
      exact ordered_numbered fromScripts
  unfold collect at h
  split at h
  next =>
    obtain ⟨fromScripts, -, h⟩ := bind_eq_ok.mp h
    exact hpages fromScripts h
  next => exact hpages [] h

end Page

namespace Chapter

variable {read : Script.ArrayReader} {source : Source} {r r' : Resolution}

lemma ordered_finish {rules : Config.ProfileRules} {aim : Aim} (hr : Page.Ordered r.pages)
    (h : (finish read rules r aim source).outcome = .ok r') : Page.Ordered r'.pages := by
  unfold finish at h
  cases hurl : aim.url with
  | none =>
    rw [hurl] at h
    rw [pure_eq_ok.mp h]
    exact hr
  | some url =>
    rw [hurl] at h
    obtain ⟨answer, -, h⟩ := Fetching.bind_outcome_eq_ok.mp h
    cases answer with
    | none =>
      rw [pure_eq_ok.mp h]
      exact hr
    | some html =>
      obtain ⟨pages, hpages, h⟩ := Fetching.bind_outcome_eq_ok.mp h
      rw [pure_eq_ok.mp h]
      exact Page.ordered_collect hpages

lemma ordered_resolveAt {profilePage : Config.ProfilePage} {id : Option String} {wanted : Wanted}
    (h : (resolveAt read profilePage id wanted source).outcome = .ok r) : Page.Ordered r.pages := by
  unfold resolveAt at h
  cases hid : Extraction.given id with
  | none =>
    rw [hid] at h
    obtain ⟨target, -, h⟩ := Fetching.bind_outcome_eq_ok.mp h
    exact ordered_finish Page.ordered_nil h
  | some id =>
    rw [hid] at h
    obtain ⟨base, -, h⟩ := Fetching.bind_outcome_eq_ok.mp h
    obtain ⟨answer, -, h⟩ := Fetching.bind_outcome_eq_ok.mp h
    cases answer with
    | none =>
      dsimp only at h
      by_cases hnone : (Extraction.given wanted.url).isNone
      · rw [if_pos hnone] at h
        rw [pure_eq_ok.mp h]
        exact Page.ordered_nil
      · rw [if_neg hnone] at h
        obtain ⟨target, -, h⟩ := Fetching.bind_outcome_eq_ok.mp h
        exact ordered_finish Page.ordered_nil h
    | some html =>
      obtain ⟨profile, -, h⟩ := Fetching.bind_outcome_eq_ok.mp h
      obtain ⟨target, -, h⟩ := Fetching.bind_outcome_eq_ok.mp h
      exact ordered_finish Page.ordered_nil h

/-- The pages of a resolution are numbered one after the other. -/
lemma ordered_resolve {spider : Config.Spider} {id : Option String} {wanted : Wanted}
    (h : (resolve read spider id wanted source).outcome = .ok r) : Page.Ordered r.pages := by
  unfold resolve at h
  cases hpage : spider.site.bind (·.profileById) with
  | none =>
    rw [hpage] at h
    rw [pure_eq_ok.mp h]
    exact Page.ordered_nil
  | some profilePage =>
    rw [hpage] at h
    exact ordered_resolveAt h

end Chapter

/-! ### Events of pages -/

namespace Catalog

/-- The source has an image for a page, and the image is handed on: it is neither empty nor too
large. -/
def hasImage (limit : Int) (source : Source) (p : Page) : Bool :=
  match source.bytes p.url with
  | .ok (some bytes) => !bytes.isEmpty && bytes.length ≤ limit
  | _ => false

/-- How many chapters there are, as a value. -/
def countValue : Option Nat → Json
  | none => .null
  | some n => .int n

/-- The event is for a page: its data are the number of the page, the bytes that the source has for it
and what is shown around them. As long as the numbers do not have too many digits, the data are read
back. -/
def IsPageEvent (source : Source) (chapterCount : Option Nat) (mangaTitle chapterTitle : String)
    (p : Page) (e : String) : Prop :=
  ∃ (bytes : List UInt8) (uri : String) (payload : Json),
    source.bytes p.url = .ok (some bytes) ∧ Media.Shows uri bytes ∧
    payload = .object [("page", .int p.number), ("image", .string uri),
      ("maxChapter", countValue chapterCount), ("mangaTitle", .string mangaTitle),
      ("chapterTitle", .string chapterTitle)] ∧
    e = "data: " ++ payload.render ++ "\n\n" ∧
    (p.number < 10 ^ Json.maxDigits → (∀ n ∈ chapterCount, n < 10 ^ Json.maxDigits) →
      carried e = some payload)

variable (context : Context) {source : Source} (r : Resolution)

lemma hasImage_of_bytes {limit : Int} {p : Page} {bytes : List UInt8}
    (h : source.bytes p.url = .ok (some bytes)) :
    hasImage limit source p = !(bytes.isEmpty || decide (limit < bytes.length)) := by
  rw [hasImage, h, Bool.not_or, ← decide_not]
  simp only [Int.not_lt]

lemma plain_countValue (depth : Nat) {count : Option Nat} (h : ∀ n ∈ count, n < 10 ^ Json.maxDigits) :
    (countValue count).Plain depth := by
  cases count with
  | none => exact .null
  | some n => exact Json.plain_nat depth (h n rfl)

/-- The event of a page whose image the source has. -/
lemma isPageEvent_pageEvent {p : Page} {bytes : List UInt8}
    (hbytes : source.bytes p.url = .ok (some bytes)) :
    IsPageEvent source r.chapterCount r.mangaTitle r.chapterTitle p (pageEvent r p bytes) := by
  have hevent : pageEvent r p bytes = event (.object [("page", .int p.number),
      ("image", .string (Media.dataUri p.url bytes)), ("maxChapter", countValue r.chapterCount),
      ("mangaTitle", .string r.mangaTitle), ("chapterTitle", .string r.chapterTitle)]) := by
    rw [pageEvent]
    cases r.chapterCount <;> rfl
  refine ⟨bytes, _, _, hbytes, Media.shows_dataUri p.url bytes, rfl, hevent, fun hnumber hcount => ?_⟩
  rw [hevent]
  apply carried_event
  refine .object (by simp) ?_
  simp only [List.forall_mem_cons, List.not_mem_nil, false_imp_iff, implies_true, and_true]
  exact ⟨Json.plain_nat _ hnumber, .string _, plain_countValue _ hcount, .string _, .string _⟩

/-- A page has one event if its image is handed on, and none otherwise. -/
lemma readOne_outcome {p : Page} (hbytes : ∃ bytes?, source.bytes p.url = .ok bytes?) :
    ∃ e, (readOne context r p source).outcome =
        .ok (if hasImage context.maxImageBytes source p then [e] else []) ∧
      (hasImage context.maxImageBytes source p →
        IsPageEvent source r.chapterCount r.mangaTitle r.chapterTitle p e) := by
  obtain ⟨bytes?, hbytes⟩ := hbytes
  rw [readOne, Fetching.bind_apply_of_ok hbytes]
  cases bytes? with
  | none =>
    have hnone : hasImage context.maxImageBytes source p = false := by rw [hasImage, hbytes]
    exact ⟨"", by rw [hnone]; rfl, by simp [hnone]⟩
  | some bytes =>
    refine ⟨pageEvent r p bytes, ?_, fun _ => isPageEvent_pageEvent r hbytes⟩
    rw [hasImage_of_bytes hbytes]
    dsimp only
    cases bytes.isEmpty || decide (context.maxImageBytes < bytes.length) <;> rfl

lemma IsPageEvent.ne_doneEvent {chapterCount : Option Nat} {mangaTitle chapterTitle : String}
    {p : Page} {e : String} (h : IsPageEvent source chapterCount mangaTitle chapterTitle p e) :
    e ≠ doneEvent := by
  obtain ⟨-, -, payload, -, -, -, rfl, -⟩ := h
  exact event_ne_doneEvent payload

lemma flatMap_of_kept {α β : Type} (kept : α → Bool) (f : α → β) (as : List α) :
    as.flatMap (fun a => if kept a then [f a] else []) = (as.filter kept).map f := by
  induction as with
  | nil => rfl
  | cons a as ih =>
    rw [List.flatMap_cons, ih, List.filter_cons]
    split <;> rfl

/-- The stream of a chapter has one event for each page whose image is handed on, in order. -/
lemma chapterStream_outcome (hsource : ∀ url, ∃ bytes?, source.bytes url = .ok bytes?) :
    ∃ events,
      (chapterStream context r none source).outcome = .ok ⟨events ++ [doneEvent], none⟩ ∧
      doneEvent ∉ events ∧
      List.Forall₂ (IsPageEvent source r.chapterCount r.mangaTitle r.chapterTitle)
        (r.pages.filter (hasImage context.maxImageBytes source)) events := by
  choose e he hevent using fun p : Page => readOne_outcome context r (hsource p.url)
  refine ⟨(r.pages.filter (hasImage context.maxImageBytes source)).map e, ?_, fun hdone => ?_, ?_⟩
  · rw [chapterStream, streamOf_apply none fun p _ => he p]
    simp only [Patience.reached, Patience.lasts, if_true, flatMap_of_kept]
  · obtain ⟨p, hp, hlast⟩ := List.mem_map.mp hdone
    exact (hevent p (List.mem_filter.mp hp).2).ne_doneEvent hlast
  · rw [List.forall₂_map_right_iff, List.forall₂_same]
    exact fun p hp => hevent p (List.mem_filter.mp hp).2

end Catalog

/-! ### The two answers -/

namespace Web

/-- The reply of a computation is a success only if the computation ends well. -/
lemma Reply.ofRun_status {run : Run Reply} (h : (ofRun run).status = 200) :
    ∃ reply, run.outcome = .ok reply ∧ reply.status = 200 := by
  unfold ofRun at h
  split at h
  next reply hreply => exact ⟨reply, hreply, h⟩
  next failure hfailure =>
    cases failure with
    | refused refusal => cases refusal <;> cases h
    | reference _ | request _ | selector _ | path _ | pattern _ | charset _ | tooDeep
    | tooManyDigits | notIterable _ => cases h

variable {setup : Setup} {source : Source} {registry : Registry} {r r' : Request}

lemma chapterQuery_congr (h : r'.query = r.query) : r'.chapterQuery = r.chapterQuery := by
  simp only [Request.chapterQuery, Request.requiredText, Request.optionalCount,
    Request.parameter?, h]

/-- A success comes from a resolution, which is at hand for any other answer to the same query. -/
lemma exists_resolution {context : Catalog.Context} {answer : Resolution → Fetching Reply}
    (h : (Reply.ofRun (resolveQuery context r answer source)).status = 200) :
    ∃ resolution, Page.Ordered resolution.pages ∧
      ∀ (other : Request) (answer : Resolution → Fetching Reply), other.query = r.query →
        (resolveQuery context other answer source).outcome = (answer resolution source).outcome := by
  obtain ⟨reply, hreply, hsuccess⟩ := Reply.ofRun_status h
  unfold resolveQuery at hreply ⊢
  cases hq : r.chapterQuery with
  | invalid issues =>
    rw [hq] at hreply
    rw [pure_eq_ok.mp hreply] at hsuccess
    cases hsuccess
  | ok q =>
    rw [hq] at hreply
    dsimp only at hreply
    by_cases hnone : (q.number.isNone && (Extraction.given q.url).isNone) = true
    · rw [if_pos hnone] at hreply
      rw [pure_eq_ok.mp hreply] at hsuccess
      cases hsuccess
    · rw [if_neg hnone] at hreply
      obtain ⟨resolution, hresolution, -⟩ := Fetching.bind_outcome_eq_ok.mp hreply
      refine ⟨resolution, ?_, fun other answer hquery => ?_⟩
      · obtain ⟨spider, -, hresolve⟩ := Fetching.bind_outcome_eq_ok.mp hresolution
        exact Chapter.ordered_resolve hresolve
      · rw [chapterQuery_congr hquery, hq]
        dsimp only
        rw [if_neg hnone, Fetching.bind_apply_of_ok hresolution]

lemma handle_chapterPages (hpath : Route.ofPath? r.path = some .chapterPages)
    (hmethod : r.method = Route.chapterPages.method) :
    (handle setup source registry r).2 =
      .ofRun (answerPages (setup.context registry) r source) := by
  simp only [handle_eq, hpath, answerAt, hmethod, answer, if_true]
  rfl

lemma handle_chapter (hpath : Route.ofPath? r.path = some .chapter)
    (hmethod : r.method = Route.chapter.method) :
    (handle setup source registry r).2 =
      .ofRun (answerChapter (setup.context registry) r source) := by
  simp only [handle_eq, hpath, answerAt, hmethod, answer, if_true]
  rfl

/-- When the pages of a chapter are listed, the images of the chapter are streamed: one event for
each listed page that has an image, in the order of the list, and a last event. An event has the
number of its page and the titles and the count of the list, and the bytes of the image can be had
back from it. The numbers grow, so that no page comes twice. -/
theorem events_of_pages {pages chapter : Request}
    (hpages : Route.ofPath? pages.path = some .chapterPages)
    (hpagesMethod : pages.method = Route.chapterPages.method)
    (hchapter : Route.ofPath? chapter.path = some .chapter)
    (hchapterMethod : chapter.method = Route.chapter.method)
    (hquery : chapter.query = pages.query)
    (hsource : ∀ url, ∃ bytes?, source.bytes url = .ok bytes?)
    (hstatus : (handle setup source registry pages).2.status = 200) :
    ∃ (listed : List Page) (chapterTitle mangaTitle : String) (chapterCount : Option Nat)
      (events : List String),
      (handle setup source registry pages).2.content = .json (.object
        [("pages", .array (listed.map fun p =>
            .object [("page", .int p.number), ("url", .string p.url)])),
          ("chapter_title", .string chapterTitle), ("manga_title", .string mangaTitle),
          ("max_chapter_count", Catalog.countValue chapterCount)]) ∧
      (handle setup source registry chapter).2 =
        ⟨200, .events (events ++ [Catalog.doneEvent])⟩ ∧
      Catalog.doneEvent ∉ events ∧
      List.Forall₂ (Catalog.IsPageEvent source chapterCount mangaTitle chapterTitle)
        (listed.filter (Catalog.hasImage setup.maxImageBytes source)) events ∧
      Page.Ordered (listed.filter (Catalog.hasImage setup.maxImageBytes source)) := by
  have hanswerPages : (handle setup source registry pages).2 = _ :=
    handle_chapterPages hpages hpagesMethod
  rw [hanswerPages] at hstatus
  obtain ⟨resolution, hordered, hanswer⟩ := exists_resolution hstatus
  have hcontent : (handle setup source registry pages).2.content = .json resolution.toJson := by
    rw [hanswerPages, Reply.ofRun, answerPages, hanswer pages _ rfl, pagesReply_eq]
    rfl
  obtain ⟨events, hstream, hdone, hevents⟩ :=
    Catalog.chapterStream_outcome (setup.context registry) resolution hsource
  refine ⟨resolution.pages, resolution.chapterTitle, resolution.mangaTitle, resolution.chapterCount,
    events, ?_, ?_, hdone, hevents, hordered.filter _⟩
  · rw [hcontent, Resolution.toJson]
    cases resolution.chapterCount <;> rfl
  · rw [handle_chapter hchapter hchapterMethod, Reply.ofRun, answerChapter, hanswer chapter _ hquery,
      Fetching.bind_apply_of_ok hstream]
    rfl

/-- A connection with one spider. On all of its pages there are a name, a chapter and an image. -/
def illustratedConnection : Source where
  text _ := .ok (some "<h1>N</h1><a href=/1>T</a><img src=http://a.test/1.png>")
  json url := .ok (some (
    if url = "http://a.test" then (Config.Manifest.mk [⟨"a", "A", "http://a.test/a"⟩]).toJson
    else Chapter.plainSpider.toJson .document))
  bytes url := .ok (if url = "http://a.test/1.png" then some [137] else none)

/-- A request for the first chapter, in one of the two ways. -/
def firstChapter (route : Route) : Request where
  method := route.method
  path := route.path
  query := [("spiderId", "a"), ("manga", "m"), ("chapter", "1")]
  contentType := none
  body := []

/-- The only page of a chapter has an image of one byte. -/
theorem events_of_pages_of_one_image :
    let setup : Setup := ⟨some "http://a.test", 1, Script.addresses⟩
    (handle setup illustratedConnection .empty (firstChapter .chapterPages)).2 =
        .ok (Resolution.toJson ⟨[⟨1, "http://a.test/1.png"⟩], "T", "N", some 1⟩) ∧
    ∃ e uri, (handle setup illustratedConnection .empty (firstChapter .chapter)).2 =
        ⟨200, .events [e, Catalog.doneEvent]⟩ ∧ Media.Shows uri [137] ∧
      Catalog.carried e = some (.object [("page", .int 1), ("image", .string uri),
        ("maxChapter", .int 1), ("mangaTitle", .string "N"), ("chapterTitle", .string "T")]) := by
  intro setup
  have hresolution : (Catalog.chapter (setup.context .empty) "a" "m" ⟨some 1, none⟩
      illustratedConnection).outcome =
        .ok ⟨[⟨1, "http://a.test/1.png"⟩], "T", "N", some 1⟩ :=
    toOption_eq_some.mp (by decide +kernel)
  have hquery (answer : Resolution → Fetching Reply) :
      resolveQuery (setup.context .empty) (firstChapter .chapterPages) answer =
        Catalog.chapter (setup.context .empty) "a" "m" ⟨some 1, none⟩ >>= answer := rfl
  have hreply : (handle setup illustratedConnection .empty (firstChapter .chapterPages)).2 =
      .ok (Resolution.toJson ⟨[⟨1, "http://a.test/1.png"⟩], "T", "N", some 1⟩) := by
    rw [handle_chapterPages rfl rfl, Reply.ofRun, answerPages, hquery,
      Fetching.bind_apply_of_ok hresolution, pagesReply_eq]
    rfl
  obtain ⟨listed, chapterTitle, mangaTitle, count, events, hlisted, hstream, -, hevents, -⟩ :=
    @events_of_pages setup illustratedConnection .empty (firstChapter .chapterPages)
      (firstChapter .chapter) rfl rfl rfl rfl rfl (fun _ => ⟨_, rfl⟩) (by rw [hreply]; rfl)
  refine ⟨hreply, ?_⟩
  rw [hreply] at hlisted
  simp only [Reply.ok, Resolution.toJson, Content.json.injEq, Json.object.injEq, List.cons.injEq,
    Prod.mk.injEq, Json.array.injEq, Json.string.injEq, true_and, and_true, List.map_cons,
    List.map_nil] at hlisted
  obtain ⟨hpages, rfl, rfl, hcount⟩ := hlisted
  have hone : count = some 1 := by
    cases count with
    | none => cases hcount
    | some n =>
      have hn : 1 = (n : Int) := Json.int.inj hcount
      rw [show n = 1 by omega]
  obtain ⟨p, rfl, hp⟩ := List.map_eq_singleton_iff.mp hpages.symm
  obtain ⟨hnumber, hurl⟩ : p.number = 1 ∧ p.url = "http://a.test/1.png" := by
    simp only [Page.toJson, Json.object.injEq, List.cons.injEq, Prod.mk.injEq, Json.int.injEq,
      Json.string.injEq, true_and, and_true] at hp
    exact ⟨by omega, hp.2⟩
  have himage : Catalog.hasImage setup.maxImageBytes illustratedConnection p = true := by
    rw [Catalog.hasImage, hurl]
    rfl
  rw [List.filter_cons_of_pos himage, List.filter_nil] at hevents
  cases hevents with
  | @cons _ e _ _ he hrest =>
    cases hrest
    obtain ⟨bytes, uri, payload, hbytes, hshows, rfl, -, hcarried⟩ := he
    rw [hurl] at hbytes
    obtain rfl : [137] = bytes := Option.some.inj (Except.ok.inj hbytes)
    rw [hnumber, hone] at hcarried
    refine ⟨e, uri, hstream, hshows, hcarried (Nat.one_lt_pow (by decide) (by decide)) ?_⟩
    rintro n ⟨⟩
    exact Nat.one_lt_pow (by decide) (by decide)

end Web

end MangaShelf
