import MangaShelf.Command.Run
import MangaShelf.Proofs.Json.RoundTrip

/-!
# Frames of a stream

A listener cuts a stream at its blank lines. Since no value brings a line break of its own, this
gives back the events one by one, and each event gives back its value: `blocks_of_stream`.
-/

namespace MangaShelf.Catalog

/-! ### Blocks -/

/-- The pieces of a text between its blank lines. -/
def pieces : List Char → List (List Char)
  | [] => [[]]
  | '\n' :: '\n' :: cs => [] :: pieces cs
  | c :: cs =>
    match pieces cs with
    | [] => [[c]]
    | piece :: rest => (c :: piece) :: rest

/-- The blocks of a text, kept apart by blank lines. A blank line at the end ends the last block. -/
def blocks (s : String) : List String :=
  let all := pieces s.toList
  (if all.getLast? = some [] then all.dropLast else all).map String.ofList

/-- A line with a blank line after it is a piece of its own. -/
lemma pieces_line {line : List Char} (h : '\n' ∉ line) (rest : List Char) :
    pieces (line ++ '\n' :: '\n' :: rest) = line :: pieces rest := by
  induction line with
  | nil => rfl
  | cons c line ih =>
    simp only [List.mem_cons, not_or] at h
    rw [List.cons_append, pieces, ih h.2]
    rintro cs heq -
    exact absurd heq.symm h.1

/-- The last event is two lines. -/
lemma pieces_doneEvent :
    pieces doneEvent.toList = ["event: done\ndata: done".toList, []] := by
  decide

/-! ### Events -/

/-- The value that an event carries, if it carries one. -/
def carried (e : String) : Option Json :=
  (Text.stripPrefix? "data: ".toList e.toList).bind fun cs => (Json.read cs).toOption

section

variable {payload : Json} (h : payload.Plain Json.maxDepth)

include h

/-- The text of a value has no line break. -/
lemma noControl_render : Json.NoControl payload.render.toList := by
  rw [Json.render, String.toList_ofList]
  exact Json.noControl_chars h 0

/-- The text of a value is read as the value, with or without blanks after it. -/
lemma read_render {blanks : List Char} (hblanks : Json.AllSpace blanks) :
    Json.read (payload.render.toList ++ blanks) = .ok payload := by
  rw [Json.render, String.toList_ofList]
  exact Json.read_chars Json.Spacing.blank_line 0 h hblanks

lemma parse_render : Json.parse payload.render = .ok payload := by
  rw [Json.parse, ← List.append_nil payload.render.toList]
  exact read_render h (by simp [Json.AllSpace])

omit h in
/-- What follows the mark of its data in an event is the text of its value. -/
lemma stripPrefix?_event (payload : Json) :
    Text.stripPrefix? "data: ".toList (event payload).toList =
      some (payload.render.toList ++ ['\n', '\n']) := by
  have hevent : (event payload).toList =
      "data: ".toList ++ (payload.render.toList ++ ['\n', '\n']) := by
    simp [event]
  rw [hevent]
  rfl

/-- The data of an event are read as its value. -/
lemma read_data : Json.read (payload.render.toList ++ ['\n', '\n']) = .ok payload :=
  read_render h (by simp [Json.AllSpace, Json.isSpace])

lemma carried_event : carried (event payload) = some payload := by
  rw [carried, stripPrefix?_event, Option.bind_some, read_data h]
  rfl

omit h in
/-- An event with an object carries an object, if it carries anything. -/
lemma exists_members_of_carried {members : List (String × Json)} {v : Json}
    (h : carried (event (.object members)) = some v) : ∃ members, v = .object members := by
  obtain ⟨cs, hcs⟩ : ∃ cs, (Json.object members).render.toList = '{' :: cs := by
    rw [Json.render, String.toList_ofList]
    cases members <;> exact ⟨_, rfl⟩
  rw [carried, stripPrefix?_event, Option.bind_some, toOption_eq_some, hcs] at h
  exact Json.exists_members_of_read h

/-- What is printed for an event is its value. -/
lemma printedEvent_event : Command.printedEvent (event payload) = Command.printed payload := by
  simp only [Command.printedEvent, stripPrefix?_event, read_data h]

/-- The line of an event is cut off the stream. -/
lemma pieces_event (rest : List Char) :
    pieces ((event payload).toList ++ rest) = ("data: " ++ payload.render).toList :: pieces rest := by
  have hline : '\n' ∉ ("data: " ++ payload.render).toList := by
    have hrender := (noControl_render h).notMem (by decide : '\n'.toNat < 32)
    simp [hrender]
  rw [← pieces_line hline rest]
  simp [event]

end

lemma pieces_stream {payloads : List Json} (h : ∀ v ∈ payloads, v.Plain Json.maxDepth) :
    pieces (String.join (payloads.map event ++ [doneEvent])).toList =
      payloads.map (fun v => ("data: " ++ v.render).toList) ++
        ["event: done\ndata: done".toList, []] := by
  induction payloads with
  | nil => simpa using pieces_doneEvent
  | cons v vs ih =>
    have hvs := ih fun w hw => h w (List.mem_cons_of_mem v hw)
    rw [List.map_cons, List.cons_append, String.join_cons, String.toList_append,
      pieces_event (h v List.mem_cons_self), hvs]
    rfl

/-- A stream of events is cut into one block for each value, in order, and a last one that says
that all is done and is like no other. The block of a value is one line with the text of the value;
the text has no line break and is read as the value, which is also what is printed for the event. -/
theorem blocks_of_stream {payloads : List Json} (h : ∀ v ∈ payloads, v.Plain Json.maxDepth) :
    blocks (String.join (payloads.map event ++ [doneEvent])) =
      payloads.map (fun v => "data: " ++ v.render) ++ ["event: done\ndata: done"] ∧
    ∀ v ∈ payloads,
      '\n' ∉ v.render.toList ∧ '\r' ∉ v.render.toList ∧ Json.parse v.render = .ok v ∧
      Command.printedEvent (event v) = Command.printed v ∧
      "data: " ++ v.render ≠ "event: done\ndata: done" := by
  refine ⟨?_, fun v hv => ?_⟩
  · have hlast : (payloads.map (fun v => ("data: " ++ v.render).toList) ++
        ["event: done\ndata: done".toList, []]).getLast? = some [] := by
      rw [List.getLast?_append]
      rfl
    have hdrop : (payloads.map (fun v => ("data: " ++ v.render).toList) ++
        ["event: done\ndata: done".toList, []]).dropLast =
        payloads.map (fun v => ("data: " ++ v.render).toList) ++
          ["event: done\ndata: done".toList] :=
      List.dropLast_append_of_ne_nil (by simp)
    rw [blocks, pieces_stream h, if_pos hlast, hdrop, List.map_append, List.map_map]
    congr 1
    exact List.map_congr_left fun v _ => String.ofList_toList
  · have hrender := noControl_render (h v hv)
    refine ⟨hrender.notMem (by decide), hrender.notMem (by decide), parse_render (h v hv),
      printedEvent_event (h v hv), fun heq => ?_⟩
    have hfirst := congrArg (fun s => s.toList.head?) heq
    simp at hfirst

/-- Line breaks in a key and in a text do not cut a block. -/
theorem blocks_of_stream_with_breaks :
    blocks (String.join ([Json.object [("\n\n", .array [.string "\n\n", .int (-7), .null])]].map
      event ++ [doneEvent])) =
      ["data: \x7b\"\\n\\n\": [\"\\n\\n\", -7, null]\x7d", "event: done\ndata: done"] := by
  have hplain : Json.Plain Json.maxDepth
      (.object [("\n\n", .array [.string "\n\n", .int (-7), .null])]) := by
    refine .object (by decide) ?_
    simp only [List.mem_singleton, forall_eq]
    refine .array ?_
    simp only [List.mem_cons, List.not_mem_nil, or_false, forall_eq_or_imp, forall_eq]
    exact ⟨.string _, .int (by decide), .null⟩
  rw [(blocks_of_stream (by simpa using hplain)).1]
  decide

end MangaShelf.Catalog
