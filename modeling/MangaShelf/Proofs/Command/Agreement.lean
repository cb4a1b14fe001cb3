import MangaShelf.Proofs.Catalog.Framing
import MangaShelf.Proofs.Command.Arguments
import MangaShelf.Proofs.Text.Integer
import MangaShelf.Proofs.Web.Refusal

/-!
# Two ways to ask

A search and a chapter can be asked for by a request and by arguments. What is printed for the
arguments is what the request is answered with, and both are refused with the same words:
`answers_agree`. Only the number of a chapter has a limit: one with too many digits is not read,
neither as a parameter nor as an argument.
-/

namespace MangaShelf.Command

open Catalog (carried carried_event doneEvent event)
open Web (answerAt handle handle_eq Reply Request Route Setup)

/-! ### Values of events -/

lemma printedEvent_eq (e : String) : printedEvent e = ((carried e).map printed).getD "" := by
  unfold printedEvent carried
  cases Text.stripPrefix? "data: ".toList e.toList with
  | none => rfl
  | some cs =>
    dsimp only [Option.bind_some]
    cases Json.read cs <;> rfl

/-- What is printed for a stream are the values of its events. -/
lemma join_printedEvent (events : List String) :
    String.join (events.map printedEvent) = String.join ((events.filterMap carried).map printed) := by
  induction events with
  | nil => rfl
  | cons e es ih =>
    rw [List.map_cons, String.join_cons, ih, printedEvent_eq, List.filterMap_cons]
    cases carried e with
    | none => simp
    | some v => rw [List.map_cons, String.join_cons, Option.map_some, Option.getD_some]

/-! ### Answers that agree -/

/-- A reply to a search, and what a run prints for it. -/
inductive SearchesAlike : Reply → Outcome → Prop where
  | refused (refusal : Catalog.Refusal) :
    SearchesAlike (.refused refusal) ⟨1, "Error: " ++ refusal.message ++ "\n", none⟩
  /-- The run prints the values of the events in order. -/
  | found (values : List Json) :
    SearchesAlike ⟨200, .events (values.map event ++ [doneEvent])⟩
      ⟨0, String.join (((values.map event ++ [doneEvent]).filterMap carried).map printed), none⟩
  /-- A value cannot be written. The reply breaks off before it, and so does the run. -/
  | cut {values : List Json} (hobjects : ∀ v ∈ values, ∃ members, v = .object members)
    {failure : Failure} (h : ∀ refusal, failure ≠ .refused refusal) :
    SearchesAlike ⟨200, .events (values.map event)⟩
      ⟨1, String.join (((values.map event).filterMap carried).map printed), some failure⟩

/-- A reply with the pages of a chapter, and what a run prints for it. -/
inductive ChaptersAlike : Reply → Outcome → Prop where
  | refused (refusal : Catalog.Refusal) :
    ChaptersAlike (.refused refusal) ⟨1, "Error: " ++ refusal.message ++ "\n", none⟩
  /-- The run prints the value of the reply. -/
  | resolved (r : Resolution) : ChaptersAlike (.ok r.toJson) ⟨0, printed r.toJson, none⟩
  /-- The resolution itself has failed. -/
  | failed {failure : Failure} (h : ∀ refusal, failure ≠ .refused refusal) :
    ChaptersAlike .crash ⟨1, "", some failure⟩

/-- The reply says that a request is refused with a message. -/
def Says (reply : Reply) (message : String) : Prop :=
  ∃ status, reply = ⟨status, .json (.object [("error", .string message)])⟩

/-- The run ends with an error that prints a message. -/
def Prints (outcome : Outcome) (message : String) : Prop :=
  outcome.code = 1 ∧ outcome.output = "Error: " ++ message ++ "\n"

lemma says_refused {refusal : Catalog.Refusal} {message : String} :
    Says (.refused refusal) message ↔ message = refusal.message := by
  constructor
  · rintro ⟨status, h⟩
    simp only [Reply.refused, Reply.mk.injEq, Web.Content.json.injEq, Json.object.injEq,
      List.cons.injEq, Prod.mk.injEq, Json.string.injEq] at h
    exact h.2.1.2.symm
  · rintro rfl
    exact ⟨_, rfl⟩

lemma prints_refused {refusal : Catalog.Refusal} {message : String} :
    Prints ⟨1, "Error: " ++ refusal.message ++ "\n", none⟩ message ↔ message = refusal.message := by
  constructor
  · rintro ⟨-, h⟩
    have hlist := congrArg String.toList h
    simpa [String.toList_inj, eq_comm] using hlist
  · rintro rfl
    exact ⟨rfl, rfl⟩

/-- Printed objects do not look like an error. -/
lemma join_printed_ne_error {values : List Json}
    (hobjects : ∀ v ∈ values, ∃ members, v = .object members) (message : String) :
    String.join (values.map printed) ≠ "Error: " ++ message ++ "\n" := by
  intro h
  have hfirst := congrArg (·.toList.head?) h
  cases values with
  | nil => simp at hfirst
  | cons v vs =>
    obtain ⟨members, rfl⟩ := hobjects v List.mem_cons_self
    have hbrace : (Json.object members).renderLines.toList.head? = some '{' := by
      rw [Json.renderLines, String.toList_ofList]
      cases members <;> rfl
    simp [printed, hbrace] at hfirst

/-- An error is printed exactly when the reply says it. -/
lemma SearchesAlike.prints_iff {reply : Reply} {outcome : Outcome} (h : SearchesAlike reply outcome)
    (message : String) : Prints outcome message ↔ Says reply message := by
  cases h with
  | refused refusal => rw [prints_refused, says_refused]
  | found values =>
    constructor
    · rintro ⟨hcode, -⟩
      cases hcode
    · rintro ⟨status, hreply⟩
      cases hreply
  | cut hobjects h =>
    constructor
    · rintro ⟨-, houtput⟩
      refine absurd houtput (join_printed_ne_error (fun v hv => ?_) message)
      obtain ⟨e, he, hcarried⟩ := List.mem_filterMap.mp hv
      obtain ⟨w, hw, rfl⟩ := List.mem_map.mp he
      obtain ⟨members, rfl⟩ := hobjects w hw
      exact Catalog.exists_members_of_carried hcarried
    · rintro ⟨status, hreply⟩
      cases hreply

lemma ChaptersAlike.prints_iff {reply : Reply} {outcome : Outcome} (h : ChaptersAlike reply outcome)
    (message : String) : Prints outcome message ↔ Says reply message := by
  cases h with
  | refused refusal => rw [prints_refused, says_refused]
  | resolved r =>
    constructor
    · rintro ⟨hcode, -⟩
      cases hcode
    · rintro ⟨status, hreply⟩
      simp [Reply.ok, Resolution.toJson] at hreply
  | failed h =>
    constructor
    · rintro ⟨-, houtput⟩
      have hlist := congrArg String.toList houtput
      simp at hlist
    · rintro ⟨status, hreply⟩
      cases hreply

/-! ### Requests -/

/-- The request is a search. -/
structure Searches (r : Request) (query fields : String) : Prop where
  path : Route.ofPath? r.path = some .search
  method : r.method = Route.search.method
  query : r.parameter? "query" = some query
  fields : r.parameter? "fields" = some fields

/-- The request is for the pages of the chapter with a number. -/
structure AsksForPages (r : Request) (spiderId mangaId : String) (n : Nat) : Prop where
  path : Route.ofPath? r.path = some .chapterPages
  method : r.method = Route.chapterPages.method
  spiderId : r.parameter? "spiderId" = some spiderId
  mangaId : r.parameter? "manga" = some mangaId
  number : r.parameter? "chapter" = some (toString n)
  url : r.parameter? "chapterUrl" = none

/-- The request for a search. -/
def searchRequest (query fields : String) : Request :=
  ⟨"GET", "/api/search", [("query", query), ("fields", fields)], none, []⟩

lemma searches_searchRequest (query fields : String) :
    Searches (searchRequest query fields) query fields where
  path := by
    show Route.ofPath? "/api/search" = _
    decide
  method := rfl
  query := rfl
  fields := rfl

/-- The request for the pages of a chapter. -/
def pagesRequest (spiderId mangaId : String) (n : Nat) : Request :=
  ⟨"GET", "/api/chapter/pages",
    [("spiderId", spiderId), ("manga", mangaId), ("chapter", toString n)], none, []⟩

lemma asksForPages_pagesRequest (spiderId mangaId : String) (n : Nat) :
    AsksForPages (pagesRequest spiderId mangaId n) spiderId mangaId n where
  path := by
    show Route.ofPath? "/api/chapter/pages" = _
    decide
  method := rfl
  spiderId := rfl
  mangaId := rfl
  number := rfl
  url := rfl

variable {setup : Setup} {source : Source} {registry : Registry} {r : Request}

lemma requiredText_eq {name text : String} (h : r.parameter? name = some text) (hne : text ≠ "") :
    r.requiredText name = .ok text := by
  rw [Request.requiredText, h]
  simp [Config.Check.nonEmpty, Config.Check.string, Config.Checked.bind, hne, Config.Checked.at_]

lemma optionalCount_eq {name : String} {n : Nat} (h : r.parameter? name = some (toString n)) :
    r.optionalCount name =
      if n < 10 ^ Text.maxIntegerDigits then .ok (some (n : Int))
      else ((Config.Checked.refuse .intTooLong).at_ (.key name)).at_ (.key "query") := by
  rw [Request.optionalCount, h]
  dsimp only
  rw [Config.Check.int_toString]
  by_cases hn : n < 10 ^ Text.maxIntegerDigits
  · have hpos : ¬ (n : Int) < 0 := by omega
    rw [if_pos hn, if_pos hn, Config.Checked.bind, if_neg hpos]
    rfl
  · rw [if_neg hn, if_neg hn]
    rfl

/-- What is wrong with a number that has too many digits. -/
def tooLong : Config.Issue :=
  ⟨[.key "query", .key "chapter"], .intTooLong⟩

/-- What a request for pages says, if its number can be read. -/
lemma chapterQuery_eq {spiderId mangaId : String} {n : Nat} (h : AsksForPages r spiderId mangaId n)
    (hspider : spiderId ≠ "") (hmanga : mangaId ≠ "") :
    r.chapterQuery =
      if n < 10 ^ Text.maxIntegerDigits then .ok ⟨spiderId, mangaId, some n, none⟩
      else .invalid [tooLong] := by
  rw [Request.chapterQuery, requiredText_eq h.spiderId hspider, requiredText_eq h.mangaId hmanga,
    optionalCount_eq h.number, h.url]
  by_cases hn : n < 10 ^ Text.maxIntegerDigits
  · rw [if_pos hn, if_pos hn]
    rfl
  · rw [if_neg hn, if_neg hn]
    rfl

/-! ### Searches -/

lemma handle_search {query fields : String} (h : Searches r query fields) :
    (handle setup source registry r).2 =
      .ofRun ((do
        let m ← Catalog.manifest (setup.context registry) none
        return Reply.ofStream (← Catalog.searchStream m query (Web.fieldsOf fields) none)) source)
      := by
  simp only [handle_eq, h.path, answerAt, h.method, Web.answer, if_true]
  rw [Web.answerSearch, h.query, h.fields]
  rfl

lemma ofUnwritable_ne_refused (v : Json) (refusal : Catalog.Refusal) :
    Failure.ofUnwritable v ≠ .refused refusal := by
  unfold Failure.ofUnwritable
  split <;> simp

/-- A spider contributes a value, or one that cannot be written. -/
lemma searchEvents_cases (hsource : source.Answers) (query : String) (fields : List RequestField)
    (crawler : Config.Crawler) : ∃ members,
      (Catalog.searchEvents query fields crawler source).outcome = .ok [event (.object members)] ∨
      (Catalog.searchEvents query fields crawler source).outcome =
        .error (.ofUnwritable (.object members)) := by
  obtain ⟨records, warning, hbatch, -⟩ :=
    Catalog.searchOne_outcome query fields (hsource.json crawler.link)
  rw [Catalog.searchEvents, Fetching.bind_apply_of_ok hbatch]
  by_cases hwritable : (Catalog.batch crawler records warning).isWritable
  · rw [Catalog.send_of_writable hwritable]
    exact ⟨_, .inl rfl⟩
  · rw [Catalog.send_of_unwritable hwritable]
    exact ⟨_, .inr rfl⟩

/-- The events of a search are those of the values that the spiders contribute, and a last one, if
all of the values can be written. -/
lemma exists_values (hsource : source.Answers) (query : String) (fields : List RequestField)
    (crawlers : List Config.Crawler) :
    ∃ values : List Json, (∀ v ∈ values, ∃ members, v = .object members) ∧
      ((Catalog.streamOf (Catalog.searchEvents query fields) none crawlers source).outcome =
          .ok ⟨values.map event ++ [doneEvent], none⟩ ∨
        ∃ failure, (∀ refusal, failure ≠ .refused refusal) ∧
          (Catalog.streamOf (Catalog.searchEvents query fields) none crawlers source).outcome =
            .ok ⟨values.map event, some failure⟩) := by
  induction crawlers with
  | nil => exact ⟨[], by simp, .inl rfl⟩
  | cons crawler rest ih =>
    obtain ⟨members, hvalue | hfails⟩ := searchEvents_cases hsource query fields crawler
    · obtain ⟨values, hobjects, hrest⟩ := ih
      refine ⟨.object members :: values, List.forall_mem_cons.mpr ⟨⟨members, rfl⟩, hobjects⟩, ?_⟩
      rcases hrest with hrest | ⟨failure, hfailure, hrest⟩
      · rw [Catalog.streamOf_cons_apply none (by simp) hvalue hrest]
        exact .inl rfl
      · rw [Catalog.streamOf_cons_apply none (by simp) hvalue hrest]
        exact .inr ⟨failure, hfailure, rfl⟩
    · rw [Catalog.streamOf_cons_of_error none (by simp) hfails]
      exact ⟨[], by simp, .inr ⟨_, ofUnwritable_ne_refused _, rfl⟩⟩

/-- A refusal is printed. -/
lemma failed_refused (refusal : Catalog.Refusal) :
    Outcome.failed "" (.refused refusal) = ⟨1, "Error: " ++ refusal.message ++ "\n", none⟩ := by
  simp [Outcome.failed]

/-- Any other failure stops the run. -/
lemma failed_of_not_refused {output : String} {failure : Failure}
    (h : ∀ refusal, failure ≠ .refused refusal) :
    Outcome.failed output failure = ⟨1, output, some failure⟩ := by
  cases failure with
  | refused refusal => exact absurd rfl (h refusal)
  | reference _ | request _ | selector _ | path _ | pattern _ | charset _ | tooDeep | tooManyDigits
  | notIterable _ => rfl

lemma searchesAlike (hsource : source.Answers) {query fields : String}
    (h : Searches r query fields) :
    SearchesAlike (handle setup source registry r).2
      (searchTask (setup.context registry) source query fields) := by
  rw [handle_search h, searchTask]
  rcases Catalog.manifest_outcome hsource (setup.context registry) with ⟨refusal, hrefused⟩ | ⟨m, hm⟩
  · rw [Fetching.bind_apply_of_error hrefused, Fetching.bind_apply_of_error hrefused]
    dsimp only [Outcome.ofRun]
    rw [failed_refused]
    exact .refused refusal
  · obtain ⟨values, hobjects, hvalues⟩ :=
      exists_values hsource query (Web.fieldsOf fields) m.crawlers
    rw [← Catalog.searchStream_eq] at hvalues
    rw [Fetching.bind_apply_of_ok hm, Fetching.bind_apply_of_ok hm]
    rcases hvalues with hvalues | ⟨failure, hfailure, hvalues⟩
    · rw [Fetching.bind_apply_of_ok hvalues]
      dsimp only [Outcome.ofRun]
      rw [hvalues]
      dsimp only
      rw [join_printedEvent]
      exact .found values
    · rw [Fetching.bind_apply_of_ok hvalues]
      dsimp only [Outcome.ofRun]
      rw [hvalues]
      dsimp only
      rw [join_printedEvent, failed_of_not_refused hfailure]
      exact .cut hobjects hfailure

/-! ### Chapters -/

lemma handle_pages {spiderId mangaId : String} {n : Nat} (h : AsksForPages r spiderId mangaId n)
    (hspider : spiderId ≠ "") (hmanga : mangaId ≠ "") (hn : n < 10 ^ Text.maxIntegerDigits) :
    (handle setup source registry r).2 =
      .ofRun ((do
        let resolution ←
          Catalog.chapter (setup.context registry) spiderId mangaId ⟨some (n : Int), none⟩
        return Reply.ok resolution.toJson) source) := by
  rw [Web.handle_chapterPages h.path h.method, Web.answerPages, Web.resolveQuery,
    chapterQuery_eq h hspider hmanga, if_pos hn]
  simp only [Web.pagesReply_eq]
  rfl

lemma chaptersAlike {spiderId mangaId : String} {n : Nat} (h : AsksForPages r spiderId mangaId n)
    (hspider : spiderId ≠ "") (hmanga : mangaId ≠ "") (hn : n < 10 ^ Text.maxIntegerDigits) :
    ChaptersAlike (handle setup source registry r).2
      (chapterTask (setup.context registry) source spiderId mangaId n) := by
  rw [handle_pages h hspider hmanga hn, chapterTask]
  cases hrun : (Catalog.chapter (setup.context registry) spiderId mangaId ⟨some (n : Int), none⟩
      source).outcome with
  | ok resolution =>
    rw [Fetching.bind_apply_of_ok hrun]
    dsimp only [Outcome.ofRun]
    rw [hrun]
    exact .resolved resolution
  | error failure =>
    rw [Fetching.bind_apply_of_error hrun]
    dsimp only [Outcome.ofRun]
    rw [hrun]
    cases failure with
    | refused refusal =>
      dsimp only
      rw [failed_refused]
      exact .refused refusal
    | reference _ | request _ | selector _ | path _ | pattern _ | charset _ | tooDeep
    | tooManyDigits | notIterable _ => exact .failed (by simp)

/-- A number with too many digits is not read as a parameter. -/
lemma handle_of_long {spiderId mangaId : String} {n : Nat} (h : AsksForPages r spiderId mangaId n)
    (hspider : spiderId ≠ "") (hmanga : mangaId ≠ "") (hn : ¬ n < 10 ^ Text.maxIntegerDigits) :
    (handle setup source registry r).2 = .invalid [tooLong] := by
  have hquery := chapterQuery_eq h hspider hmanga
  rw [if_neg hn] at hquery
  have hinvalid : r.Invalid (.invalid [tooLong]) := .query (.inl rfl) h.path h.method hquery
  rw [hinvalid.handle_eq]

/-! ### Runs -/

lemma head?_toString (n : Nat) : (toString n).toList.head? ≠ some '-' := by
  obtain ⟨c, cs, hcs, hc⟩ := Json.exists_toDigits_eq_cons n
  rw [Nat.toString_eq_ofList_toDigits, String.toList_ofList, hcs, List.head?_cons]
  exact fun h => Json.ne_of_isDigit hc (by decide) (Option.some.inj h)

lemma run_search (program : String) {query fields : String}
    (hquery : query.toList.head? ≠ some '-') (hfields : fields.toList.head? ≠ some '-') :
    run program setup source registry ["search", query, "--fields", fields] =
      (registry, searchTask (setup.context registry) source query fields) := by
  rw [run, parse_search hquery hfields]
  rfl

/-- A number with too many digits is a misuse. -/
lemma run_chapter (program : String) {spiderId mangaId : String}
    (hspider : spiderId.toList.head? ≠ some '-') (hmanga : mangaId.toList.head? ≠ some '-')
    (n : Nat) :
    run program setup source registry ["chapter", spiderId, mangaId, toString n] =
      (registry,
        if n < 10 ^ Text.maxIntegerDigits then
          chapterTask (setup.context registry) source spiderId mangaId n
        else ⟨2, "", none⟩) := by
  rw [run, parse_chapter hspider hmanga (head?_toString n), Text.integer?_toString]
  by_cases hn : n < 10 ^ Text.maxIntegerDigits
  · rw [if_pos hn, if_pos hn]
    rfl
  · rw [if_neg hn, if_neg hn]

/-- Whatever is stored and whatever the source answers, a search prints the values that the events
of the reply carry, and both break off at a value that cannot be written. A chapter prints the value
of the reply, as long as its number does not have too many digits; then it is read by neither. A run
prints an error exactly when the reply says it. A value without floating-point numbers, that is
neither too deep nor too long, is carried as it is. -/
theorem answers_agree (program : String) (setup : Setup) (registry : Registry) {source : Source}
    (hsource : source.Answers) :
    (∀ (r : Request) (query fields : String), Searches r query fields →
      query.toList.head? ≠ some '-' → fields.toList.head? ≠ some '-' →
        SearchesAlike (handle setup source registry r).2
          (run program setup source registry ["search", query, "--fields", fields]).2 ∧
        ∀ message,
          Prints (run program setup source registry ["search", query, "--fields", fields]).2
            message ↔ Says (handle setup source registry r).2 message) ∧
    (∀ v : Json, v.Plain Json.maxDepth → carried (event v) = some v) ∧
    ∀ (r : Request) (spiderId mangaId : String) (n : Nat), AsksForPages r spiderId mangaId n →
      spiderId ≠ "" → spiderId.toList.head? ≠ some '-' →
      mangaId ≠ "" → mangaId.toList.head? ≠ some '-' →
        (n < 10 ^ Text.maxIntegerDigits →
          ChaptersAlike (handle setup source registry r).2
            (run program setup source registry ["chapter", spiderId, mangaId, toString n]).2 ∧
          ∀ message,
            Prints (run program setup source registry ["chapter", spiderId, mangaId, toString n]).2
              message ↔ Says (handle setup source registry r).2 message) ∧
        (¬ n < 10 ^ Text.maxIntegerDigits →
          (handle setup source registry r).2 = .invalid [tooLong] ∧
          (run program setup source registry ["chapter", spiderId, mangaId, toString n]).2 =
            ⟨2, "", none⟩) := by
  refine ⟨fun r query fields h hquery hfields => ?_, fun v => carried_event,
    fun r spiderId mangaId n h hspider hspider' hmanga hmanga' => ⟨fun hn => ?_, fun hn => ?_⟩⟩
  · rw [run_search program hquery hfields]
    have halike : SearchesAlike (handle setup source registry r).2
        (searchTask (setup.context registry) source query fields) := searchesAlike hsource h
    exact ⟨halike, halike.prints_iff⟩
  · rw [run_chapter program hspider' hmanga', if_pos hn]
    have halike : ChaptersAlike (handle setup source registry r).2
        (chapterTask (setup.context registry) source spiderId mangaId n) :=
      chaptersAlike h hspider hmanga hn
    exact ⟨halike, halike.prints_iff⟩
  · rw [run_chapter program hspider' hmanga', if_neg hn]
    exact ⟨handle_of_long h hspider hmanga hn, rfl⟩

/-- A search and the pages of the first chapter, at a connection with one spider. -/
theorem answers_agree_of_first_chapter :
    let setup : Setup := ⟨some "http://a.test", 1, Script.addresses⟩
    let source := Web.illustratedConnection
    (∃ values : List Json,
      (handle setup source .empty (searchRequest "q" "name")).2 =
        ⟨200, .events (values.map event ++ [doneEvent])⟩ ∧
      (run "cli.py" setup source .empty ["search", "q", "--fields", "name"]).2 =
        ⟨0, String.join (((values.map event ++ [doneEvent]).filterMap carried).map printed),
          none⟩) ∧
    ∃ r : Resolution,
      (handle setup source .empty (pagesRequest "a" "m" 1)).2 = .ok r.toJson ∧
      (run "cli.py" setup source .empty ["chapter", "a", "m", "1"]).2 =
        ⟨0, printed r.toJson, none⟩ := by
  intro setup source
  have hsource : source.Answers := ⟨fun _ => ⟨_, rfl⟩, fun _ => ⟨_, rfl⟩, fun _ => ⟨_, rfl⟩⟩
  obtain ⟨hsearch, -, hchapter⟩ := answers_agree "cli.py" setup .empty hsource
  constructor
  · obtain ⟨halike, -⟩ := hsearch _ _ _ (searches_searchRequest "q" "name") (by decide) (by decide)
    have hcode : (run "cli.py" setup source .empty ["search", "q", "--fields", "name"]).2.code =
        0 := by
      decide +kernel
    generalize (handle setup source .empty _).2 = reply at halike ⊢
    generalize (run "cli.py" setup source .empty _).2 = outcome at halike hcode ⊢
    cases halike with
    | found values => exact ⟨values, rfl, rfl⟩
    | refused _ | cut _ _ => cases hcode
  · obtain ⟨halike, -⟩ := (hchapter _ _ _ _ (asksForPages_pagesRequest "a" "m" 1) (by decide)
      (by decide) (by decide) (by decide)).1 (Nat.one_lt_pow (by decide) (by decide))
    have hstatus : (handle setup source .empty (pagesRequest "a" "m" 1)).2.status = 200 := by
      decide +kernel
    generalize (handle setup source .empty _).2 = reply at halike hstatus ⊢
    generalize hrun : (run "cli.py" setup source .empty _).2 = outcome at halike
    cases halike with
    | refused refusal => cases refusal <;> cases hstatus
    | resolved r => exact ⟨r, rfl, hrun⟩
    | failed h => cases hstatus

/-- The least number with too many digits: the reply is a value, but nothing is printed. -/
theorem run_chapter_of_long_number :
    let setup : Setup := ⟨some "http://a.test", 1, Script.addresses⟩
    let n := 10 ^ Text.maxIntegerDigits
    let outcome := (run "cli.py" setup Web.illustratedConnection .empty
      ["chapter", "a", "m", toString n]).2
    (∃ v, (handle setup Web.illustratedConnection .empty (pagesRequest "a" "m" n)).2 =
        ⟨422, .json v⟩) ∧
      outcome = ⟨2, "", none⟩ ∧ ∀ v, outcome.output ≠ printed v := by
  intro setup n outcome
  have hn : ¬ n < 10 ^ Text.maxIntegerDigits := Nat.lt_irrefl n
  have hasks := asksForPages_pagesRequest "a" "m" n
  have houtcome : outcome = ⟨2, "", none⟩ := by
    show (run "cli.py" setup Web.illustratedConnection .empty ["chapter", "a", "m", toString n]).2 = _
    rw [run_chapter "cli.py" (by decide) (by decide), if_neg hn]
  refine ⟨⟨_, handle_of_long hasks (by decide) (by decide) hn⟩, houtcome, fun v hv => ?_⟩
  rw [houtcome] at hv
  have hlist := congrArg String.toList hv
  simp [printed] at hlist

end MangaShelf.Command
