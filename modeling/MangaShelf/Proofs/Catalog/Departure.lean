import MangaShelf.Proofs.Extraction.Embedded
import MangaShelf.Proofs.Markup.Plain
import MangaShelf.Proofs.Selector.Order
import MangaShelf.Proofs.Web.Reading

/-!
# Listeners who leave

Before each part of a stream the listener is asked whether it has left. Whoever leaves has heard the
first parts of the undisturbed stream, as many as it has stayed for, without the last event, and
nothing more is fetched for it: `streams_until_left`. A batch can be one that cannot be written, which
cuts a search off before its last event although nobody has left.
-/

namespace MangaShelf.Catalog

open Config (Crawler FieldRule Manifest SiteRules Spider)
open Extraction (Subject)

/-! ### Answers of a listener -/

/-- What the listener answers, one time after the other, when it is asked whether it has left. -/
abbrev Answers := Nat → Bool

namespace Answers

/-- The listener is there whenever it is asked, as long as it is asked so often at most. -/
def Stays (gone : Answers) (asked : Nat) : Prop :=
  ∀ i < asked, gone i = false

/-- The listener is there so often and has left when it is asked once more. -/
def LeavesAfter (gone : Answers) (count : Nat) : Prop :=
  gone.Stays count ∧ gone count = true

/-- The answers after the first one. -/
def later (gone : Answers) : Answers := fun i => gone (i + 1)

variable {gone : Answers} {count : Nat}

lemma stays_succ : gone.Stays (count + 1) ↔ gone 0 = false ∧ gone.later.Stays count := by
  constructor
  · intro h
    exact ⟨h 0 count.succ_pos, fun i hi => h (i + 1) (Nat.succ_lt_succ hi)⟩
  · rintro ⟨hfirst, hlater⟩ i hi
    cases i with
    | zero => exact hfirst
    | succ i => exact hlater i (Nat.lt_of_succ_lt_succ hi)

lemma leavesAfter_succ :
    gone.LeavesAfter (count + 1) ↔ gone 0 = false ∧ gone.later.LeavesAfter count := by
  rw [LeavesAfter, stays_succ, and_assoc]
  rfl

end Answers

/-- The events of some parts for a listener who answers for itself before each part. -/
def streamAsking {α : Type} (part : α → Fetching (List String)) :
    Answers → List α → Fetching Stream
  | _, [] => return ⟨[doneEvent], none⟩
  | gone, a :: as =>
    if gone 0 then return ⟨[], none⟩
    else do
      match ← (part a).attempt with
      | .error failure => return ⟨[], some failure⟩
      | .ok events =>
        let rest ← streamAsking part gone.later as
        return ⟨events ++ rest.events, rest.failure⟩

section

variable {α : Type} {part : α → Fetching (List String)} {source : Source}

/-- Asking a listener who stays changes nothing. -/
lemma streamAsking_of_stays {gone : Answers} {parts : List α} (h : gone.Stays parts.length) :
    streamAsking part gone parts = streamOf part none parts := by
  induction parts generalizing gone with
  | nil => rfl
  | cons a as ih =>
    obtain ⟨hfirst, hlater⟩ := Answers.stays_succ.mp h
    simp only [streamAsking, streamOf, hfirst, Bool.false_eq_true, if_false, ih hlater]
    rfl

/-- All that matters about the answers of a listener who leaves is how often it is still there. -/
lemma streamAsking_of_leavesAfter {gone : Answers} {count : Nat} (h : gone.LeavesAfter count)
    (parts : List α) : streamAsking part gone parts = streamOf part (some count) parts := by
  induction parts generalizing gone count with
  | nil => cases count <;> rfl
  | cons a as ih =>
    cases count with
    | zero => simp only [streamAsking, streamOf, h.2, if_true]
    | succ count =>
      obtain ⟨hfirst, hlater⟩ := Answers.leavesAfter_succ.mp h
      simp only [streamAsking, streamOf, hfirst, Bool.false_eq_true, if_false, ih hlater]
      rfl

/-! ### Parts that fail -/

/-- The events of one part; none for a part that fails. -/
def emitted (part : α → Fetching (List String)) (source : Source) (a : α) : List String :=
  (part a source).outcome.toOption.getD []

/-- The part fails. -/
def Fails (part : α → Fetching (List String)) (source : Source) (a : α) : Prop :=
  ∃ failure, (part a source).outcome = .error failure

lemma emitted_of_ok {a : α} {events : List String} (h : (part a source).outcome = .ok events) :
    emitted part source a = events := by
  rw [emitted, h]
  rfl

lemma outcome_of_not_fails {a : α} (h : ¬ Fails part source a) :
    (part a source).outcome = .ok (emitted part source a) := by
  cases ha : (part a source).outcome with
  | ok events => rw [emitted_of_ok ha]
  | error failure => exact absurd ⟨failure, ha⟩ h

/-- A stream is given in any case, be it cut off. -/
lemma exists_stream (part : α → Fetching (List String)) (source : Source) (patience : Patience)
    (parts : List α) : ∃ stream, (streamOf part patience parts source).outcome = .ok stream := by
  induction parts generalizing patience with
  | nil => cases patience <;> exact ⟨_, rfl⟩
  | cons a as ih =>
    by_cases hp : patience = some 0
    · rw [hp]
      exact ⟨_, rfl⟩
    · cases ha : (part a source).outcome with
      | error failure => exact ⟨_, congrArg Run.outcome (streamOf_cons_of_error patience hp ha)⟩
      | ok events =>
        obtain ⟨rest, hrest⟩ := ih (patience.map (· - 1))
        exact ⟨_, congrArg Run.outcome (streamOf_cons_apply patience hp ha hrest)⟩

/-- If the first part ends well, a part that fails comes later. -/
lemma exists_later_fails {a : α} {as : List α} {events : List String}
    (ha : (part a source).outcome = .ok events) (h : ∃ b ∈ a :: as, Fails part source b) :
    ∃ b ∈ as, Fails part source b := by
  obtain ⟨b, hb, failure, hfails⟩ := h
  rcases List.mem_cons.mp hb with rfl | hb
  · rw [ha] at hfails
    cases hfails
  · exact ⟨b, hb, failure, hfails⟩

/-- Who leaves after a part that fails has heard all there is. -/
lemma streamOf_of_fails {count : Nat} {parts : List α}
    (h : ∃ a ∈ parts.take count, Fails part source a) :
    streamOf part (some count) parts source = streamOf part none parts source := by
  induction parts generalizing count with
  | nil => simp at h
  | cons a as ih =>
    cases count with
    | zero => simp at h
    | succ count =>
      cases ha : (part a source).outcome with
      | error failure =>
        rw [streamOf_cons_of_error (some (count + 1)) (by simp) ha,
          streamOf_cons_of_error none (by simp) ha]
      | ok events =>
        have hsame := ih (exists_later_fails ha h)
        obtain ⟨rest, hrest⟩ := exists_stream part source none as
        have hcut := (congrArg Run.outcome hsame).trans hrest
        rw [streamOf_cons_apply (some (count + 1)) (by simp) ha hcut,
          streamOf_cons_apply none (by simp) ha hrest]
        simp [hsame]

/-- The first part that fails cuts the stream off. -/
lemma exists_cut {parts : List α} (h : ∃ a ∈ parts, Fails part source a) :
    ∃ before a after failure, parts = before ++ a :: after ∧
      (∀ b ∈ before, ¬ Fails part source b) ∧ (part a source).outcome = .error failure ∧
      streamOf part none parts source =
        ⟨(before ++ [a]).flatMap fun b => (part b source).requested,
          .ok ⟨before.flatMap (emitted part source), some failure⟩⟩ := by
  induction parts with
  | nil => simp at h
  | cons a as ih =>
    cases ha : (part a source).outcome with
    | error failure =>
      exact ⟨[], a, as, failure, rfl, by simp, ha,
        by simp [streamOf_cons_of_error none (by simp) ha]⟩
    | ok events =>
      obtain ⟨before, b, after, failure, rfl, hbefore, hb, hrest⟩ := ih (exists_later_fails ha h)
      refine ⟨a :: before, b, after, failure, rfl, ?_, hb, ?_⟩
      · rintro c hc ⟨failure, hfails⟩
        rcases List.mem_cons.mp hc with rfl | hc
        · rw [ha] at hfails
          cases hfails
        · exact hbefore c hc ⟨failure, hfails⟩
      · rw [streamOf_cons_apply none (by simp) ha (congrArg Run.outcome hrest)]
        simp [hrest, emitted_of_ok ha]

end

/-! ### What is heard -/

/-- What is heard of a stream with these parts, by a listener who is asked and by one who is not.
Some parts may fail. -/
structure Heard {α : Type} (stream : Patience → Run Stream) (asking : Answers → Run Stream)
    (parts : List α) (fails : α → Prop) (requests events : α → List String) : Prop where
  /-- Only the last event says that all is done. -/
  not_done : ∀ a ∈ parts, doneEvent ∉ events a
  /-- Nobody leaves and no part fails: the stream ends with the last event. -/
  ends : (∀ a ∈ parts, ¬ fails a) →
    stream none = ⟨parts.flatMap requests, .ok ⟨parts.flatMap events ++ [doneEvent], none⟩⟩
  /-- Nobody leaves: the first part that fails is the last one, and there is no last event. -/
  cut : (∃ a ∈ parts, fails a) →
    ∃ before a after failure, parts = before ++ a :: after ∧ (∀ b ∈ before, ¬ fails b) ∧ fails a ∧
      stream none =
        ⟨(before ++ [a]).flatMap requests, .ok ⟨before.flatMap events, some failure⟩⟩
  /-- The listener does not leave before the last part. -/
  of_stays : ∀ gone, gone.Stays parts.length → asking gone = stream none
  /-- It only matters how often the listener is still there. -/
  of_leavesAfter : ∀ gone count, gone.LeavesAfter count → asking gone = stream (some count)
  /-- The listener leaves before one of the parts, and no part has failed. -/
  leaves : ∀ gone count, count < parts.length → gone.LeavesAfter count →
    (∀ a ∈ parts.take count, ¬ fails a) →
      asking gone =
        ⟨(parts.take count).flatMap requests, .ok ⟨(parts.take count).flatMap events, none⟩⟩
  /-- The listener leaves before one of the parts, and a part has failed already. -/
  late : ∀ gone count, gone.LeavesAfter count → (∃ a ∈ parts.take count, fails a) →
    asking gone = stream none

lemma heard_streamOf {α : Type} {part : α → Fetching (List String)} {source : Source}
    {parts : List α} (hdone : ∀ a ∈ parts, doneEvent ∉ emitted part source a) :
    Heard (fun patience => streamOf part patience parts source)
      (fun gone => streamAsking part gone parts source) parts (Fails part source)
      (fun a => (part a source).requested) (emitted part source) where
  not_done := hdone
  ends h := by
    have hok : ∀ a ∈ Patience.reached none parts, _ := fun a ha => outcome_of_not_fails (h a ha)
    rw [streamOf_apply none hok]
    simp [Patience.reached, Patience.lasts]
  cut h := by
    obtain ⟨before, a, after, failure, hparts, hbefore, ha, hstream⟩ := exists_cut h
    exact ⟨before, a, after, failure, hparts, hbefore, ⟨failure, ha⟩, hstream⟩
  of_stays gone h := congrFun (streamAsking_of_stays h) source
  of_leavesAfter gone count h := congrFun (streamAsking_of_leavesAfter h parts) source
  leaves gone count hcount h hnone := by
    have hok : ∀ a ∈ Patience.reached (some count) parts, _ := fun a ha =>
      outcome_of_not_fails (hnone a ha)
    rw [streamAsking_of_leavesAfter h, streamOf_apply (some count) hok]
    simp [Patience.reached, Patience.lasts, Nat.not_le.mpr hcount]
  late gone count h hfails := by
    rw [streamAsking_of_leavesAfter h]
    exact streamOf_of_fails hfails

/-- What is heard is the same for another account of the requests and of the parts that fail. -/
lemma Heard.congr {α : Type} {stream : Patience → Run Stream} {asking : Answers → Run Stream}
    {parts : List α} {fails fails' : α → Prop} {requests requests' events : α → List String}
    (h : Heard stream asking parts fails requests events) (hfails : ∀ a, fails a ↔ fails' a)
    (hrequests : ∀ a, requests a = requests' a) :
    Heard stream asking parts fails' requests' events := by
  obtain rfl : fails = fails' := funext fun a => propext (hfails a)
  obtain rfl : requests = requests' := funext hrequests
  exact h

/-! ### The two streams -/

/-- The only spider that cuts a search off is one whose batch cannot be written. -/
lemma fails_searchEvents_iff (query : String) (fields : List RequestField) {crawler : Crawler}
    {source : Source} (h : ∃ payload, source.json crawler.link = .ok payload) :
    Fails (searchEvents query fields) source crawler ↔ ¬ Writes query fields source crawler := by
  constructor
  · rintro ⟨failure, hfails⟩ hwrites
    obtain ⟨e, he, -⟩ := searchEvents_outcome query fields h hwrites
    rw [he] at hfails
    cases hfails
  · intro hnot
    obtain ⟨records, warning, hbatch, -⟩ := searchOne_outcome query fields h
    have hunwritable : ¬ (batch crawler records warning).isWritable := by
      intro hwritable
      refine hnot fun payload hpayload => ?_
      rw [hbatch] at hpayload
      rwa [← Except.ok.inj hpayload]
    refine ⟨.ofUnwritable (batch crawler records warning), ?_⟩
    rw [searchEvents, Fetching.bind_apply_of_ok hbatch, send, if_neg hunwritable]
    rfl

/-- A spider has its batch, and none if the batch cannot be written. -/
lemma emitted_searchEvents (query : String) (fields : List RequestField) {crawler : Crawler}
    {source : Source} (h : ∃ payload, source.json crawler.link = .ok payload) :
    (Writes query fields source crawler →
      ∃ e, emitted (searchEvents query fields) source crawler = [e] ∧ IsBatch crawler e) ∧
    (¬ Writes query fields source crawler →
      emitted (searchEvents query fields) source crawler = []) := by
  constructor
  · intro hwrites
    obtain ⟨e, he, hbatch⟩ := searchEvents_outcome query fields h hwrites
    exact ⟨e, emitted_of_ok he, hbatch⟩
  · intro hnot
    obtain ⟨failure, hfails⟩ := (fails_searchEvents_iff query fields h).mpr hnot
    rw [emitted, hfails]
    rfl

/-- A page has the event of its image, and none if the image is not handed on. No page cuts a
chapter off. -/
lemma readOne_apply (context : Context) (r : Resolution) {source : Source} {p : Page}
    (hbytes : ∃ bytes?, source.bytes p.url = .ok bytes?) :
    (readOne context r p source).requested = [p.url] ∧
    ¬ Fails (readOne context r) source p ∧
    (hasImage context.maxImageBytes source p = true →
      ∃ e, emitted (readOne context r) source p = [e] ∧
        IsPageEvent source r.chapterCount r.mangaTitle r.chapterTitle p e) ∧
    (hasImage context.maxImageBytes source p = false →
      emitted (readOne context r) source p = []) := by
  obtain ⟨e, he, hevent⟩ := readOne_outcome context r hbytes
  refine ⟨?_, ?_, fun himage => ⟨e, ?_, hevent himage⟩, fun hnone => ?_⟩
  · obtain ⟨bytes?, hbytes⟩ := hbytes
    rw [readOne, Fetching.bind_apply_of_ok hbytes]
    cases bytes? with
    | none => rfl
    | some bytes =>
      dsimp only
      split <;> rfl
  · rintro ⟨failure, hfails⟩
    rw [he] at hfails
    cases hfails
  · rw [emitted_of_ok he, if_pos himage]
  · rw [emitted_of_ok he, hnone, if_neg Bool.false_ne_true]

/-- Whenever the listener leaves, it has heard what the undisturbed stream says of the first spiders
or pages, as many as it has stayed for, and nothing more has been asked for. Each spider has one
batch, and the only spider that cuts a search off is one whose batch cannot be written. A page that
is skipped has no event, and no page cuts a chapter off. -/
theorem streams_until_left (context : Context) (r : Resolution) (m : Manifest) (query : String)
    (fields : List RequestField) (source : Source)
    (hjson : ∀ url, ∃ payload, source.json url = .ok payload)
    (hbytes : ∀ url, ∃ bytes?, source.bytes url = .ok bytes?) :
    (Heard (fun patience => searchStream m query fields patience source)
        (fun gone => streamAsking (searchEvents query fields) gone m.crawlers source)
        m.crawlers (fun crawler => ¬ Writes query fields source crawler)
        (fun crawler => (searchEvents query fields crawler source).requested)
        (emitted (searchEvents query fields) source) ∧
      ∀ crawler ∈ m.crawlers, Writes query fields source crawler → ∃ e,
        emitted (searchEvents query fields) source crawler = [e] ∧ IsBatch crawler e) ∧
    Heard (fun patience => chapterStream context r patience source)
        (fun gone => streamAsking (readOne context r) gone r.pages source)
        r.pages (fun _ => False) (fun p => [p.url]) (emitted (readOne context r) source) ∧
      ∀ p ∈ r.pages,
        (hasImage context.maxImageBytes source p = true →
          ∃ e, emitted (readOne context r) source p = [e] ∧
            IsPageEvent source r.chapterCount r.mangaTitle r.chapterTitle p e) ∧
        (hasImage context.maxImageBytes source p = false →
          emitted (readOne context r) source p = []) := by
  have hspider (crawler : Crawler) :=
    @emitted_searchEvents query fields crawler source (hjson crawler.link)
  have hpage (p : Page) := readOne_apply context r (p := p) (hbytes p.url)
  refine ⟨⟨?_, fun crawler _ => (hspider crawler).1⟩, ?_, fun p _ => (hpage p).2.2⟩
  · have hdone : ∀ crawler ∈ m.crawlers,
        doneEvent ∉ emitted (searchEvents query fields) source crawler := by
      intro crawler _
      by_cases hwrites : Writes query fields source crawler
      · obtain ⟨e, he, hbatch⟩ := (hspider crawler).1 hwrites
        simp [he, hbatch.ne_doneEvent.symm]
      · simp [(hspider crawler).2 hwrites]
    exact (heard_streamOf hdone).congr
      (fun crawler => fails_searchEvents_iff query fields (hjson crawler.link)) fun _ => rfl
  · have hdone : ∀ p ∈ r.pages, doneEvent ∉ emitted (readOne context r) source p := by
      intro p _
      cases himage : hasImage context.maxImageBytes source p with
      | false => simp [(hpage p).2.2.2 himage]
      | true =>
        obtain ⟨e, he, hevent⟩ := (hpage p).2.2.1 himage
        simp [he, hevent.ne_doneEvent.symm]
    exact (heard_streamOf hdone).congr (fun p => iff_of_false (hpage p).2.1 id)
      fun p => (hpage p).1

/-- A source without documents, where every file has one byte. -/
def smallFiles : Source where
  text _ := .ok none
  json _ := .ok none
  bytes _ := .ok (some [137])

/-- Two spiders and two pages, and a listener who leaves after the first of them. -/
theorem streams_until_left_after_one :
    let gone : Answers := fun i => i == 1
    let first : Crawler := ⟨"a", "A", "http://a.test"⟩
    let second : Crawler := ⟨"b", "B", "http://b.test"⟩
    let r : Resolution := ⟨[⟨1, "http://a.test/1.png"⟩, ⟨2, "http://a.test/2.png"⟩], "", "", none⟩
    (∃ e, streamAsking (searchEvents "q" [.name]) gone [first, second] smallFiles =
        ⟨["http://a.test"], .ok ⟨[e], none⟩⟩ ∧ IsBatch first e) ∧
      ∃ e, streamAsking (readOne ⟨none, Script.addresses, 1⟩ r) gone r.pages smallFiles =
        ⟨["http://a.test/1.png"], .ok ⟨[e], none⟩⟩ ∧
        IsPageEvent smallFiles none "" "" ⟨1, "http://a.test/1.png"⟩ e := by
  intro gone first second r
  have hleaves : gone.LeavesAfter 1 := by
    refine ⟨fun i hi => ?_, rfl⟩
    obtain rfl := Nat.lt_one_iff.mp hi
    rfl
  have hwrites : Writes "q" [.name] smallFiles first := by
    intro payload h
    obtain rfl := Except.ok.inj h
    rfl
  obtain ⟨⟨hsearch, hbatch⟩, hchapter, hpage⟩ :=
    streams_until_left ⟨none, Script.addresses, 1⟩ r ⟨[first, second]⟩ "q" [.name]
      smallFiles (fun _ => ⟨_, rfl⟩) (fun _ => ⟨_, rfl⟩)
  constructor
  · obtain ⟨e, he, hof⟩ := hbatch first List.mem_cons_self hwrites
    refine ⟨e, ?_, hof⟩
    have hrun := hsearch.leaves gone 1 (by decide) hleaves (by simpa using hwrites)
    simp only [List.take_succ_cons, List.take_zero, List.flatMap_cons, List.flatMap_nil, he] at hrun
    exact hrun
  · obtain ⟨e, he, hof⟩ := (hpage _ List.mem_cons_self).1 rfl
    refine ⟨e, ?_, hof⟩
    have hrun := hchapter.leaves gone 1 (by decide) hleaves (by simp)
    simp only [r, List.take_succ_cons, List.take_zero, List.flatMap_cons, List.flatMap_nil] at hrun
    rw [he] at hrun
    exact hrun

/-! ### A number that outgrows its text -/

/-- A batch with a number that is too long cuts a search off. -/
lemma searchStream_of_overlong {crawler : Crawler} {query : String} {fields : List RequestField}
    {source : Source} {payload : Json}
    (hbatch : (searchOne query fields crawler source).outcome = .ok payload)
    (hlong : payload.isOverlong = true) :
    (searchStream ⟨[crawler]⟩ query fields none source).outcome =
      .ok ⟨[], some .tooManyDigits⟩ := by
  have hunwritable : ¬ payload.isWritable = true := by simp [Json.isWritable, hlong]
  have hfails : (searchEvents query fields crawler source).outcome = .error .tooManyDigits := by
    rw [searchEvents, Fetching.bind_apply_of_ok hbatch, send, if_neg hunwritable,
      Failure.ofUnwritable, if_pos hlong]
    rfl
  rw [searchStream_eq]
  exact congrArg Run.outcome (streamOf_cons_of_error none (by simp) hfails)

/-- The name of a hit is ten times the number in its text. -/
def tenfoldRule : FieldRule :=
  { FieldRule.empty with parsesJson := true, jsonPath := some "$.n * 10" }

/-- A spider that looks for such numbers. -/
def tenfoldSpider : Spider :=
  ⟨"a", "A", none, "http://a.test", some ⟨some "body", none, none, some tenfoldRule, none, none,
    none, none, none, none, none⟩⟩

/-- The value with a number. -/
def numbered (n : Nat) : Json := .object [("n", .int n)]

/-- A source that has the spider, and the value with a number as the only page. -/
def numberedSource (n : Nat) : Source where
  text _ := .ok (some (numbered n).render)
  json _ := .ok (some (tenfoldSpider.toJson .document))
  bytes _ := .ok none

lemma toList_render_numbered (n : Nat) :
    (numbered n).render.toList = '{' :: ("\"n\": ".toList ++ Nat.toDigits 10 n ++ ['}']) := by
  have hname : Json.quoted "n" = "\"n\"".toList := by decide
  rw [Json.render, String.toList_ofList]
  simp [numbered, Json.chars, Json.charsMembers, Json.intDigits, Json.Spacing.line,
    Json.Spacing.newline, hname]

/-- The page with a number is its text. -/
lemma document_numbered (n : Nat) :
    Markup.document (numbered n).render = Markup.plainPage (numbered n).render := by
  refine Markup.document_of_plain (toList_render_numbered n) (by decide) (by decide) fun c hc => ?_
  rw [toList_render_numbered, List.mem_cons, List.mem_append, List.mem_append] at hc
  rcases hc with rfl | (hc | hc) | hc
  · decide
  · rw [show "\"n\": ".toList = ['"', 'n', '"', ':', ' '] from rfl] at hc
    simp only [List.mem_cons, List.not_mem_nil, or_false] at hc
    rcases hc with rfl | rfl | rfl | rfl | rfl <;> decide
  · have hdigit := Json.isDigit_of_mem_toDigits hc
    intro hmem
    simp only [List.mem_cons, List.not_mem_nil, or_false] at hmem
    rcases hmem with rfl | rfl | rfl | rfl | rfl <;> cases hdigit
  · rw [List.mem_singleton.mp hc]
    decide

lemma queries_body : Selector.queries "body" = .ok [.ofName "body"] := by rfl

/-- The body of a page that is a text. -/
def bodyOf (s : String) : Markup.Cursor :=
  ⟨.element "body" [] [.text s], [], [], [⟨"html", []⟩], [0]⟩

lemma textContent_bodyOf (s : String) : (bodyOf s).node.textContent = s := by
  simp [bodyOf, Markup.Node.textContent, Markup.Node.textChars, Markup.Node.textCharsList]

lemma candidates_plainPage (s : String) :
    (Subject.ofPage (Markup.plainPage s)).candidates (some "body") = .ok [.element (bodyOf s)] :=
  Subject.candidates_of_name _ (by decide) queries_body

/-- The greatest number that is read. -/
def greatest : Nat := 10 ^ Json.maxDigits - 1

lemma plain_greatest : (numbered greatest).Plain Json.maxDepth := by
  show (numbered greatest).Plain (Json.maxDepth - 1 + 1)
  refine .object (List.pairwise_singleton _ _) ?_
  simp only [List.mem_singleton, forall_eq]
  exact Json.plain_nat _ (Nat.sub_lt (Nat.pow_pos (by decide)) Nat.one_pos)

lemma select_greatest :
    JsonPath.select "$.n * 10" (numbered greatest) = .ok [.int (greatest * 10)] := by
  have hfound : (JsonPath.select "$.n * 10" (numbered greatest)).toOption.map
      (·.map Json.asInt?) = some [some ((greatest : Int) * 10)] := by
    decide +kernel
  obtain ⟨values, hselect, hvalues⟩ := Option.map_eq_some_iff.mp hfound
  obtain ⟨v, rfl, hv⟩ := List.map_eq_singleton_iff.mp hvalues
  cases v with
  | int m => rw [toOption_eq_some.mp hselect, Option.some.inj hv]
  | null | bool | float | string | array | object => cases hv

lemma trim_render_numbered (n : Nat) : Text.trim (numbered n).render = (numbered n).render := by
  rw [Text.trim, toList_render_numbered, Markup.trimBoth_eq (by decide) (by decide),
    ← toList_render_numbered, String.ofList_toList]

lemma decides_greatest {rule : FieldRule} (hjson : rule.parsesJson = true)
    (hpath : rule.jsonPath = some "$.n * 10") :
    Extraction.Decides (.element (bodyOf (numbered greatest).render)) rule
      (.array [.int (greatest * 10)]) := by
  have htext : Extraction.Embeds (.element (bodyOf (numbered greatest).render)) rule
      (numbered greatest).render := by
    refine ⟨hjson, ⟨_, rfl, ?_⟩, ?_⟩
    · show _ = Text.trim (bodyOf (numbered greatest).render).node.textContent
      rw [textContent_bodyOf, trim_render_numbered]
    · intro h
      have hlist := congrArg String.toList h
      rw [toList_render_numbered] at hlist
      cases hlist
  exact .chosen htext (parse_render plain_greatest) (by rw [hpath]; rfl) select_greatest
    ⟨_, List.mem_singleton_self _, nofun⟩

/-- The record of the only hit. -/
def tenfoldRecord : Record :=
  Record.empty.set .name (.int (greatest * 10))

lemma extract_name :
    Extraction.extract (.element (bodyOf (numbered greatest).render))
      (tenfoldRule.prepared { text := some true } { multiple := some false }) =
        .ok (.int (greatest * 10)) := by
  have hdecides : Extraction.Decides (.element (bodyOf (numbered greatest).render))
      (tenfoldRule.prepared { text := some true } { multiple := some false }) _ :=
    decides_greatest rfl rfl
  have hresults : Extraction.resultsOf (tenfoldRule.prepared { text := some true }
      { multiple := some false }) [.element (bodyOf (numbered greatest).render)] =
        .ok [.int (greatest * 10)] :=
    bind_eq_ok.mpr
      ⟨_, mapM_cons_eq_ok.mpr ⟨_, [], Extraction.read_of_decides hdecides, rfl, rfl⟩, rfl⟩
  exact bind_eq_ok.mpr ⟨[_], rfl, bind_eq_ok.mpr ⟨_, hresults, rfl⟩⟩

lemma hitsOn_greatest (site : SiteRules) (hname : site.name = some tenfoldRule) (url : String) :
    hitsOn site "body" [.name] url (numbered greatest).render = .ok [tenfoldRecord] := by
  have hassemble : Record.assemble (.element (bodyOf (numbered greatest).render)) site.searchRule
      [.name] url = .ok tenfoldRecord := by
    have hrule : site.searchRule .name = some tenfoldRule := by
      simp [SiteRules.searchRule, SiteRules.ownRule, hname]
    have hadded : Record.addField (.element (bodyOf (numbered greatest).render)) site.searchRule url
        .empty .name = .ok tenfoldRecord := by
      simp only [Record.addField, Record.plainSource?, hrule]
      exact bind_eq_ok.mpr ⟨_, extract_name, rfl⟩
    refine bind_eq_ok.mpr ⟨tenfoldRecord, ?_, rfl⟩
    exact bind_eq_ok.mpr ⟨_, hadded, rfl⟩
  rw [hitsOn, document_numbered]
  exact bind_eq_ok.mpr
    ⟨_, candidates_plainPage _, mapM_cons_eq_ok.mpr ⟨_, [], hassemble, rfl, rfl⟩⟩

lemma search_of_text {source : Source} {html : String} {r : Record}
    (htext : ∀ url, source.text url = .ok (some html))
    (hhits : ∀ site : SiteRules, site.name = some tenfoldRule → ∀ url,
      hitsOn site "body" [.name] url html = .ok [r]) :
    (tenfoldSpider.search "q" [.name] source).outcome = .ok ⟨[r], none⟩ := by
  have hgiven : Extraction.given (some "body") = some "body" := rfl
  rw [Spider.search, tenfoldSpider]
  dsimp only
  rw [hgiven]
  dsimp only
  rw [Fetching.bind_apply_of_ok (htext _)]
  dsimp only
  rw [hhits _ rfl]
  rfl

lemma searchOne_of_text {source : Source} {html : String} {r : Record}
    (hjson : source.json "http://a.test/a" = .ok (some (tenfoldSpider.toJson .document)))
    (htext : ∀ url, source.text url = .ok (some html))
    (hhits : ∀ site : SiteRules, site.name = some tenfoldRule → ∀ url,
      hitsOn site "body" [.name] url html = .ok [r]) :
    (searchOne "q" [.name] ⟨"a", "A", "http://a.test/a"⟩ source).outcome =
      .ok (batch ⟨"a", "A", "http://a.test/a"⟩ [r] none) := by
  have hload : (loadSpider "http://a.test/a" source).outcome = .ok (some tenfoldSpider) := by
    rw [loadSpider_outcome hjson]
    rfl
  rw [searchOne, Fetching.bind_apply_of_ok hload]
  dsimp only
  rw [Fetching.bind_apply_of_ok (Fetching.attempt_outcome _), search_of_text htext hhits]
  rfl

/-- Ten times the greatest number cannot be written. -/
lemma isOverlong_tenfold :
    (batch ⟨"a", "A", "http://a.test/a"⟩ [tenfoldRecord] none).isOverlong = true := by
  decide +kernel

/-- Each document and each page is there, and nobody leaves; but the only batch cannot be written,
and the search has no last event. -/
theorem searchStream_of_tenfold :
    (searchStream ⟨[⟨"a", "A", "http://a.test/a"⟩]⟩ "q" [.name] none
        (numberedSource greatest)).outcome = .ok ⟨[], some .tooManyDigits⟩ ∧
      ¬ ∃ events failure, (searchStream ⟨[⟨"a", "A", "http://a.test/a"⟩]⟩ "q" [.name] none
        (numberedSource greatest)).outcome = .ok ⟨events ++ [doneEvent], failure⟩ := by
  have hbatch := @searchOne_of_text (numberedSource greatest) _ _ rfl (fun _ => rfl)
    hitsOn_greatest
  have hrun := searchStream_of_overlong hbatch isOverlong_tenfold
  refine ⟨hrun, ?_⟩
  rintro ⟨events, failure, h⟩
  rw [hrun] at h
  have hevents : [] = events ++ [doneEvent] := congrArg Stream.events (Except.ok.inj h)
  simp at hevents

end MangaShelf.Catalog
