import Mathlib.Tactic.Choose
import MangaShelf.Proofs.Catalog.Framing
import MangaShelf.Proofs.Run

/-!
# Batches of a search

A search stream is its batches, one for each spider in the order of the manifest, and a last event,
if every batch can be written. No batch depends on another one: `searchStream_batches` says that each
is the batch which a manifest with that spider alone would give, whatever becomes of the other
spiders.
-/

namespace MangaShelf

open Config (Crawler Manifest Spider)

/-! ### Streams -/

namespace Catalog

/-- The parts of a stream that a listener waits for. -/
def Patience.reached {α : Type} (patience : Patience) (parts : List α) : List α :=
  match patience with
  | none => parts
  | some count => parts.take count

/-- The listener is still there after so many parts. -/
def Patience.lasts (patience : Patience) (parts : Nat) : Bool :=
  match patience with
  | none => true
  | some count => parts ≤ count

section

variable {α : Type} {part : α → Fetching (List String)} {source : Source}

/-- A part that ends well puts its events before those of the other parts. -/
lemma streamOf_cons_apply (patience : Patience) {a : α} {as : List α} {events : List String}
    {rest : Stream} (hp : patience ≠ some 0) (ha : (part a source).outcome = .ok events)
    (hrest : (streamOf part (patience.map (· - 1)) as source).outcome = .ok rest) :
    streamOf part patience (a :: as) source =
      ⟨(part a source).requested ++ (streamOf part (patience.map (· - 1)) as source).requested,
        .ok ⟨events ++ rest.events, rest.failure⟩⟩ := by
  have hattempt : ((part a).attempt source).outcome = .ok (.ok events) := by
    rw [Fetching.attempt_outcome, ha]
  rw [streamOf, Fetching.bind_apply_of_ok hattempt]
  · dsimp only
    rw [Fetching.bind_apply_of_ok hrest]
    simp
  · exact hp

/-- A part that fails is the last one of the stream. -/
lemma streamOf_cons_of_error (patience : Patience) {a : α} {as : List α} {failure : Failure}
    (hp : patience ≠ some 0) (ha : (part a source).outcome = .error failure) :
    streamOf part patience (a :: as) source =
      ⟨(part a source).requested, .ok ⟨[], some failure⟩⟩ := by
  have hattempt : ((part a).attempt source).outcome = .ok (.error failure) := by
    rw [Fetching.attempt_outcome, ha]
  rw [streamOf, Fetching.bind_apply_of_ok hattempt]
  · simp
  · exact hp

/-- A stream whose parts all end well as far as they are waited for: the events of these parts, one
part after the other, and then the last event if the listener is still there. -/
lemma streamOf_apply {events : α → List String} {parts : List α} (patience : Patience)
    (h : ∀ a ∈ patience.reached parts, (part a source).outcome = .ok (events a)) :
    streamOf part patience parts source =
      ⟨(patience.reached parts).flatMap fun a => (part a source).requested,
        .ok ⟨(patience.reached parts).flatMap events ++
          if patience.lasts parts.length then [doneEvent] else [], none⟩⟩ := by
  induction parts generalizing patience with
  | nil => cases patience <;> simp [streamOf, Patience.reached, Patience.lasts]
  | cons a as ih =>
    match patience with
    | some 0 => simp [streamOf, Patience.reached, Patience.lasts]
    | none =>
      have ha := h a List.mem_cons_self
      have hrest := ih none fun b hb => h b (List.mem_cons_of_mem a hb)
      rw [streamOf_cons_apply none (by simp) ha (congrArg Run.outcome hrest)]
      simp [hrest, Patience.reached, Patience.lasts]
    | some (count + 1) =>
      have ha := h a List.mem_cons_self
      have hrest := ih (some count) fun b hb => h b (List.mem_cons_of_mem a hb)
      rw [streamOf_cons_apply (some (count + 1)) (by simp) ha (congrArg Run.outcome hrest)]
      simp [hrest, Patience.reached, Patience.lasts]

end

lemma event_ne_doneEvent (payload : Json) : event payload ≠ doneEvent := by
  intro h
  have hfirst := congrArg (fun e => e.toList.head?) h
  simp [event, doneEvent] at hfirst

end Catalog

/-! ### Searches -/

/-- A search that ends well has a warning exactly when it has no records. -/
lemma Config.Spider.search_warning {spider : Spider} {query : String}
    {fields : List RequestField} {source : Source} {found : SearchResult}
    (h : (spider.search query fields source).outcome = .ok found) :
    found.warning.isSome ↔ found.records = [] := by
  unfold Config.Spider.search at h
  cases hsite : spider.site with
  | none =>
    rw [hsite] at h
    cases h
    simp
  | some site =>
    rw [hsite] at h
    dsimp only at h
    cases hselector : Extraction.given site.selector with
    | none =>
      rw [hselector] at h
      cases h
      simp
    | some selector =>
      rw [hselector] at h
      obtain ⟨html?, -, h⟩ := Fetching.bind_outcome_eq_ok.mp h
      cases html? with
      | none =>
        cases h
        simp
      | some html =>
        obtain ⟨records, -, h⟩ := Fetching.bind_outcome_eq_ok.mp h
        cases h
        cases records <;> simp

namespace Catalog

lemma loadSpider_outcome {url : String} {source : Source} {payload : Option Json}
    (h : source.json url = .ok payload) :
    (loadSpider url source).outcome =
      .ok (payload.bind fun payload => (Spider.check (unwrap payload)).toOption) := by
  rw [loadSpider, Fetching.bind_apply_of_ok h]
  rfl

/-- Whatever becomes of a spider whose document is answered for, it contributes a batch, with a
warning exactly when the batch has no records. -/
lemma searchOne_outcome (query : String) (fields : List RequestField) {crawler : Crawler}
    {source : Source} (h : ∃ payload, source.json crawler.link = .ok payload) :
    ∃ records warning,
      (searchOne query fields crawler source).outcome = .ok (batch crawler records warning) ∧
        (warning.isSome ↔ records = []) := by
  obtain ⟨payload, hpayload⟩ := h
  rw [searchOne, Fetching.bind_apply_of_ok (loadSpider_outcome hpayload)]
  cases payload.bind fun payload => (Spider.check (unwrap payload)).toOption with
  | none => exact ⟨[], _, rfl, by simp⟩
  | some spider =>
    dsimp only
    rw [Fetching.bind_apply_of_ok (Fetching.attempt_outcome _)]
    cases hfound : (spider.search query fields source).outcome with
    | error failure => exact ⟨[], _, rfl, by simp⟩
    | ok found =>
      refine ⟨found.records, _, rfl, ?_⟩
      rw [Option.isSome_map]
      exact Config.Spider.search_warning hfound

/-- The event is a batch of the crawler: its data say whose batch it is and what has been found, with
a warning exactly when that is nothing. Results without floating-point numbers that are neither too
deep nor too long are read back. -/
def IsBatch (crawler : Crawler) (e : String) : Prop :=
  ∃ (results : List Json) (warning : Option String) (payload : Json),
    payload = .object ([("spiderId", .string crawler.id), ("displayName", .string crawler.name),
      ("results", .array results)] ++ (warning.map fun text => ("warning", .string text)).toList) ∧
    (warning.isSome ↔ results = []) ∧
    e = "data: " ++ payload.render ++ "\n\n" ∧
    ((∀ v ∈ results, v.Plain (Json.maxDepth - 2)) → carried e = some payload)

/-- A batch is plain if its records are. -/
lemma plain_batch {crawler : Crawler} {records : List Record} {warning : Option String}
    (h : ∀ v ∈ records.map Record.toJson, v.Plain (Json.maxDepth - 2)) :
    (batch crawler records warning).Plain Json.maxDepth := by
  have hresults : (Json.array (records.map Record.toJson)).Plain (Json.maxDepth - 2 + 1) := .array h
  show (batch crawler records warning).Plain (Json.maxDepth - 1 + 1)
  refine .object ?_ ?_
  · cases warning <;> simp
  · cases warning <;> simp only [List.forall_mem_append, List.forall_mem_cons, List.not_mem_nil,
      false_imp_iff, implies_true, and_true]
    · exact ⟨.string _, .string _, hresults⟩
    · exact ⟨⟨.string _, .string _, hresults⟩, .string _⟩

lemma isBatch_event_batch {crawler : Crawler} {records : List Record} {warning : Option String}
    (h : warning.isSome ↔ records = []) : IsBatch crawler (event (batch crawler records warning)) := by
  refine ⟨records.map Record.toJson, warning, batch crawler records warning, ?_, ?_, rfl,
    fun hplain => carried_event (plain_batch hplain)⟩
  · cases warning <;> rfl
  · rw [h, List.map_eq_nil_iff]

lemma IsBatch.ne_doneEvent {crawler : Crawler} {e : String} (h : IsBatch crawler e) :
    e ≠ doneEvent := by
  obtain ⟨-, -, payload, -, -, rfl, -⟩ := h
  exact event_ne_doneEvent payload

lemma send_of_writable {payload : Json} (h : payload.isWritable) :
    send payload = pure (event payload) :=
  if_pos h

lemma send_of_unwritable {payload : Json} (h : ¬ payload.isWritable) :
    send payload = Fetching.fail (.ofUnwritable payload) :=
  if_neg h

/-- What one spider contributes to the stream of a search. -/
def searchEvents (query : String) (fields : List RequestField) (crawler : Crawler) :
    Fetching (List String) := do
  return [← send (← searchOne query fields crawler)]

lemma searchStream_eq (m : Manifest) (query : String) (fields : List RequestField)
    (patience : Patience) :
    searchStream m query fields patience =
      streamOf (searchEvents query fields) patience m.crawlers := rfl

/-- What a spider contributes to a search can be written. -/
def Writes (query : String) (fields : List RequestField) (source : Source) (crawler : Crawler) :
    Prop :=
  ∀ payload, (searchOne query fields crawler source).outcome = .ok payload → payload.isWritable

/-- The only event of a spider is a batch of it, if it can be written. -/
lemma searchEvents_outcome (query : String) (fields : List RequestField) {crawler : Crawler}
    {source : Source} (h : ∃ payload, source.json crawler.link = .ok payload)
    (hwrites : Writes query fields source crawler) :
    ∃ e, (searchEvents query fields crawler source).outcome = .ok [e] ∧ IsBatch crawler e := by
  obtain ⟨records, warning, hbatch, hwarning⟩ := searchOne_outcome query fields h
  refine ⟨event (batch crawler records warning), ?_, isBatch_event_batch hwarning⟩
  rw [searchEvents, Fetching.bind_apply_of_ok hbatch, send_of_writable (hwrites _ hbatch)]
  rfl

/-- When every document is answered for, be it with nothing, and every batch can be written, a search
is one batch for each spider in the order of the manifest, followed by the only last event. The batch
of a spider is the one that a manifest with this spider alone gives. -/
theorem searchStream_batches {m : Manifest} {source : Source}
    (h : ∀ crawler ∈ m.crawlers, ∃ payload, source.json crawler.link = .ok payload)
    (query : String) (fields : List RequestField)
    (hwrites : ∀ crawler ∈ m.crawlers, Writes query fields source crawler) :
    ∃ events : List String,
      (searchStream m query fields none source).outcome = .ok ⟨events ++ [doneEvent], none⟩ ∧
      events.length = m.crawlers.length ∧ doneEvent ∉ events ∧
      ∀ (i : Nat) (crawler : Crawler), m.crawlers[i]? = some crawler →
        ∃ e, events[i]? = some e ∧ IsBatch crawler e ∧
          (searchStream ⟨[crawler]⟩ query fields none source).outcome =
            .ok ⟨[e, doneEvent], none⟩ := by
  choose! e he hbatch using fun crawler hc =>
    searchEvents_outcome query fields (h crawler hc) (hwrites crawler hc)
  refine ⟨m.crawlers.map e, ?_, List.length_map e, ?_, ?_⟩
  · rw [searchStream_eq, streamOf_apply none he]
    simp [Patience.reached, Patience.lasts, List.map_eq_flatMap]
  · intro hdone
    obtain ⟨crawler, hc, hlast⟩ := List.mem_map.mp hdone
    exact (hbatch crawler hc).ne_doneEvent hlast
  · intro i crawler hi
    have hc : crawler ∈ m.crawlers := List.mem_of_getElem? hi
    refine ⟨e crawler, by rw [List.getElem?_map, hi, Option.map_some], hbatch crawler hc, ?_⟩
    have halone : ∀ other ∈ [crawler],
        (searchEvents query fields other source).outcome = .ok [e other] := by
      intro other hother
      rw [List.mem_singleton.mp hother]
      exact he crawler hc
    rw [searchStream_eq, streamOf_apply none halone]
    simp [Patience.reached, Patience.lasts]

/-- Three spiders: one has no document, one has a document that is none, and no page of the third one
is answered for. -/
def failingCrawlers : List Crawler :=
  [⟨"a", "A", "http://a.test"⟩, ⟨"b", "B", "http://b.test"⟩, ⟨"c", "C", "http://c.test"⟩]

/-- The source of these spiders. -/
def failingSource : Source where
  text _ := .error .tooDeep
  json url := .ok (
    if url = "http://b.test" then some (.array [])
    else if url = "http://c.test" then
      some (.object [("id", .string "c"), ("name", .string "C"), ("targetUrl", .string url),
        ("itemConfig", .object [("selector", .string "a")])])
    else none)
  bytes _ := .error .tooDeep

/-- The batch of a spider that says only why nothing has been found. -/
def warningOf (crawler : Crawler) (warning : String) : Json :=
  .object [("spiderId", .string crawler.id), ("displayName", .string crawler.name),
    ("results", .array []), ("warning", .string warning)]

/-- Each of the three spiders has a batch all the same, with a warning. -/
theorem searchStream_batches_of_failing :
    ∃ a b c, (searchStream ⟨failingCrawlers⟩ "q" [.name] none failingSource).outcome =
        .ok ⟨[a, b, c, doneEvent], none⟩ ∧
      carried a = some (warningOf ⟨"a", "A", "http://a.test"⟩ "Could not load spider config") ∧
      carried b = some (warningOf ⟨"b", "B", "http://b.test"⟩ "Could not load spider config") ∧
      carried c = some (warningOf ⟨"c", "C", "http://c.test"⟩ "Spider failed") ∧
      (searchStream ⟨[⟨"b", "B", "http://b.test"⟩]⟩ "q" [.name] none failingSource).outcome =
        .ok ⟨[b, doneEvent], none⟩ := by
  have hwrites : ∀ crawler ∈ failingCrawlers, Writes "q" [.name] failingSource crawler := by
    simp only [failingCrawlers, List.forall_mem_cons, List.not_mem_nil, false_imp_iff, implies_true,
      and_true]
    refine ⟨?_, ?_, ?_⟩ <;>
    · rintro payload h
      obtain rfl := Except.ok.inj h
      rfl
  have hevents : (searchStream ⟨failingCrawlers⟩ "q" [.name] none failingSource).outcome =
      .ok ⟨[event (warningOf ⟨"a", "A", "http://a.test"⟩ "Could not load spider config"),
        event (warningOf ⟨"b", "B", "http://b.test"⟩ "Could not load spider config"),
        event (warningOf ⟨"c", "C", "http://c.test"⟩ "Spider failed"), doneEvent], none⟩ := by
    rfl
  have hplain (crawler : Crawler) (warning : String) :
      carried (event (warningOf crawler warning)) = some (warningOf crawler warning) :=
    carried_event (@plain_batch crawler [] (some warning) (by simp))
  obtain ⟨events, hstream, -, -, hbatches⟩ :=
    @searchStream_batches ⟨failingCrawlers⟩ failingSource (fun _ _ => ⟨_, rfl⟩) "q" [.name] hwrites
  have hsame := congrArg (·.events.dropLast) (Except.ok.inj (hstream.symm.trans hevents))
  rw [List.dropLast_concat] at hsame
  obtain ⟨b, hb, -, halone⟩ := hbatches 1 ⟨"b", "B", "http://b.test"⟩ rfl
  rw [hsame] at hb
  obtain rfl := Option.some.inj hb
  exact ⟨_, _, _, hevents, hplain _ _, hplain _ _, hplain _ _, halone⟩

end Catalog

end MangaShelf
