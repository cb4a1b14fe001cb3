import MangaShelf.Command.Run
import MangaShelf.Proofs.Record.Union
import MangaShelf.Proofs.Script.ArrayLiteral
import MangaShelf.Proofs.Web.Routing

/-!
# Requested fields

The fields that some words name are the recognised names among them, each where it first comes. Words
are read from left to right, so further words only add the fields that were not named before, and
the list of all that was named reads back as itself. For an answer nothing else counts: blank,
padded, unknown and repeated words change neither what a request is answered with nor what a run of
the program prints. All of this is `fields_read_once`.
-/

namespace MangaShelf

namespace RequestField

variable {words a b : List String} {name w : String}

/-- The names that can be asked for. -/
def recognised : List String :=
  all.map word

/-- The names of the fields that some words name. -/
def namesIn (words : List String) : List String :=
  (parse words).map word

lemma word_injective : Function.Injective word := by
  intro f g h
  have hf : ofWord? f.word = some f := ofWord?_eq_some.mpr rfl
  have hg : ofWord? f.word = some g := ofWord?_eq_some.mpr h
  exact Option.some.inj (hf.symm.trans hg)

lemma mem_recognised : name ∈ recognised ↔ ∃ field : RequestField, field.word = name := by
  rw [recognised, List.mem_map]
  constructor
  · rintro ⟨field, -, h⟩
    exact ⟨field, h⟩
  · rintro ⟨field, h⟩
    refine ⟨field, ?_, h⟩
    cases field <;> decide

/-- A recognised name has no blanks around it and no comma in it. -/
lemma plain_of_recognised (h : name ∈ recognised) : Text.trim name = name ∧ ',' ∉ name.toList := by
  obtain ⟨field, rfl⟩ := mem_recognised.mp h
  cases field <;> decide +kernel

/-! ### Names -/

lemma map_word_named (words : List String) :
    (named words).map word = words.filter (· ∈ recognised) := by
  induction words with
  | nil => rfl
  | cons w words ih =>
    rw [named] at ih ⊢
    cases hw : ofWord? w with
    | none =>
      have hunknown : w ∉ recognised := by
        rintro h
        obtain ⟨field, hfield⟩ := mem_recognised.mp h
        rw [ofWord?_eq_some.mpr hfield.symm] at hw
        cases hw
      rw [List.filterMap_cons_none hw, ih, List.filter_cons_of_neg (by simpa using hunknown)]
    | some field =>
      obtain rfl := ofWord?_eq_some.mp hw
      have hknown : field.word ∈ recognised := mem_recognised.mpr ⟨field, rfl⟩
      rw [List.filterMap_cons_some hw, List.map_cons, ih,
        List.filter_cons_of_pos (by simpa using hknown)]

/-- The names in some words are the distinct recognised ones when blanks do not count. -/
lemma namesIn_eq (words : List String) :
    namesIn words = (distinct [] (words.map Text.trim)).filter (· ∈ recognised) := by
  have hparse : parse words = distinct [] (named (words.map Text.trim)) := by
    rw [parse, named, List.filterMap_map]
    rfl
  rw [namesIn, hparse, map_distinct word_injective, map_word_named, List.map_nil, distinct_filter]

lemma mem_namesIn : name ∈ namesIn words ↔ name ∈ recognised ∧ ∃ w ∈ words, Text.trim w = name := by
  rw [namesIn_eq, List.mem_filter, mem_distinct_nil, List.mem_map, decide_eq_true_iff, and_comm]

lemma nodup_namesIn (words : List String) : (namesIn words).Nodup := by
  rw [namesIn_eq]
  exact (nodup_distinct _ _).filter _

lemma pairwise_namesIn (words : List String) :
    (namesIn words).Pairwise fun x y =>
      (words.map Text.trim).idxOf x < (words.map Text.trim).idxOf y := by
  rw [namesIn_eq]
  exact (pairwise_distinct _ _).filter _

/-- Further words add the names that were not there before. -/
lemma namesIn_append (a b : List String) :
    namesIn (a ++ b) = namesIn a ++ (namesIn b).filter (· ∉ namesIn a) := by
  rw [namesIn_eq (a ++ b), List.map_append, distinct_append, List.filter_append, ← namesIn_eq,
    namesIn_eq b, List.filter_filter, List.filter_filter]
  congr 1
  refine List.filter_congr fun name _ => ?_
  simp only [mem_namesIn, List.mem_map]
  by_cases h : name ∈ recognised <;> simp [h]

/-- Blanks around a word do not count. -/
lemma namesIn_padded (a : List String) (w : String) (b : List String) :
    namesIn (a ++ w :: b) = namesIn (a ++ Text.trim w :: b) := by
  rw [namesIn_eq, namesIn_eq]
  simp only [List.map_append, List.map_cons, Text.trim_trim]

/-- An unknown word and one that came before do not count. -/
lemma namesIn_without (h : Text.trim w ∉ recognised ∨ ∃ v ∈ a, Text.trim v = Text.trim w) :
    namesIn (a ++ w :: b) = namesIn (a ++ b) := by
  have hw : namesIn (a ++ [w]) = namesIn a := by
    rw [namesIn_append, List.append_right_eq_self, List.filter_eq_nil_iff]
    intro name hname
    obtain ⟨hknown, v, hv, rfl⟩ := mem_namesIn.mp hname
    obtain rfl := List.mem_singleton.mp hv
    rcases h with h | h
    · exact absurd hknown h
    · simpa using mem_namesIn.mpr ⟨hknown, h⟩
  rw [List.append_cons, namesIn_append, hw, ← namesIn_append]

/-! ### Lists with commas -/

/-- Recognised names that come once each are left as they are. -/
lemma namesIn_of_recognised (hnodup : words.Nodup) (h : ∀ w ∈ words, w ∈ recognised) :
    namesIn words = words := by
  have htrimmed : words.map Text.trim = words :=
    (List.map_congr_left fun w hw => (plain_of_recognised (h w hw)).1).trans (List.map_id' words)
  rw [namesIn_eq, htrimmed, distinct_of_nodup hnodup fun _ _ => List.not_mem_nil,
    List.filter_eq_self]
  exact fun w hw => decide_eq_true (h w hw)

/-- A list with commas is split into what it is joined from, if that has no comma in it. -/
lemma splitAt_intercalate {texts : List String} (hne : texts ≠ [])
    (h : ∀ s ∈ texts, ',' ∉ s.toList) : Text.splitAt (",".intercalate texts) ',' = texts := by
  have hlist : (",".intercalate texts).toList = [','].intercalate (texts.map String.toList) :=
    String.toList_intercalate
  have hpieces := Text.pieces_intercalate (by simpa using hne) (List.forall_mem_map.mpr h)
  rw [Text.splitAt, hlist, hpieces, List.map_map]
  exact (List.map_congr_left fun s _ => String.ofList_toList).trans (List.map_id' texts)

/-- The names in some words, joined with commas, are read back. -/
lemma namesIn_rejoined (words : List String) :
    namesIn (Text.splitAt (",".intercalate (namesIn words)) ',') = namesIn words := by
  have hrecognised : ∀ name ∈ namesIn words, name ∈ recognised := fun _ h => (mem_namesIn.mp h).1
  by_cases hempty : namesIn words = []
  · rw [hempty]
    decide
  · rw [splitAt_intercalate hempty fun name h => (plain_of_recognised (hrecognised name h)).2,
      namesIn_of_recognised (nodup_namesIn words) hrecognised]

end RequestField

open RequestField (namesIn recognised)

namespace Web

/-- The list with commas that names the same fields, each of them once. -/
def settled (fields : String) : String :=
  ",".intercalate (namesIn (Text.splitAt fields ','))

lemma fieldsOf_settled (fields : String) : fieldsOf (settled fields) = fieldsOf fields :=
  List.map_injective_iff.mpr RequestField.word_injective
    (RequestField.namesIn_rejoined (Text.splitAt fields ','))

/-- A request that asks for a list of fields, whatever it has asked for before. -/
def Request.withFields (r : Request) (fields : String) : Request :=
  { r with query := r.query ++ [("fields", fields)] }

lemma parameter?_withFields (r : Request) (fields : String) :
    (r.withFields fields).parameter? "fields" = some fields := by
  simp [Request.withFields, Request.parameter?]

lemma parameter?_withFields_of_ne (r : Request) (fields : String) {name : String}
    (h : name ≠ "fields") : (r.withFields fields).parameter? name = r.parameter? name := by
  have hne : (name == "fields") = false := by simpa using h
  simp [Request.withFields, Request.parameter?, List.lookup_cons, hne]

/-- A chapter is asked for without fields. -/
lemma chapterQuery_withFields (r : Request) (fields : String) :
    (r.withFields fields).chapterQuery = r.chapterQuery := by
  simp only [Request.chapterQuery, Request.requiredText, Request.optionalCount,
    parameter?_withFields_of_ne r fields (by decide : "spiderId" ≠ "fields"),
    parameter?_withFields_of_ne r fields (by decide : "manga" ≠ "fields"),
    parameter?_withFields_of_ne r fields (by decide : "chapter" ≠ "fields"),
    parameter?_withFields_of_ne r fields (by decide : "chapterUrl" ≠ "fields")]

lemma answerSearch_settled (context : Catalog.Context) (r : Request) (fields : String) :
    answerSearch context (r.withFields (settled fields)) =
      answerSearch context (r.withFields fields) := by
  simp only [answerSearch, parameter?_withFields, Option.getD_some, fieldsOf_settled,
    parameter?_withFields_of_ne r _ (by decide : "query" ≠ "fields")]

/-- A request is answered alike for a list of fields and for the settled one. -/
lemma handle_settled (setup : Setup) (source : Source) (registry : Registry) (r : Request)
    (fields : String) :
    handle setup source registry (r.withFields (settled fields)) =
      handle setup source registry (r.withFields fields) := by
  have hanswer (session : Session) (route : Route) :
      answer setup source session (r.withFields (settled fields)) route =
        answer setup source session (r.withFields fields) route := by
    cases route with
    | search => rw [answer, answer, answerSearch_settled]
    | chapterPages | chapter =>
      simp only [answer, answerPages, answerChapter, resolveQuery, chapterQuery_withFields]
    | register | user | spiders | manga | health => rfl
  have hpath (s : String) : (r.withFields s).path = r.path := rfl
  have hmethod (s : String) : (r.withFields s).method = r.method := rfl
  simp only [handle_eq, answerAt, hanswer, hpath, hmethod]

end Web

namespace Command

open Web (Request settled Setup)

lemma runTask_search_settled (setup : Setup) (source : Source) (registry : Registry)
    (query fields : String) :
    runTask setup source registry (.search query (settled fields)) =
      runTask setup source registry (.search query fields) := by
  simp only [runTask, searchTask, Web.fieldsOf_settled]

lemma runTask_manga_settled (setup : Setup) (source : Source) (registry : Registry)
    (spiderId mangaId fields : String) :
    runTask setup source registry (.manga spiderId mangaId (settled fields)) =
      runTask setup source registry (.manga spiderId mangaId fields) := by
  simp only [runTask, mangaTask, Web.fieldsOf_settled]

/-- The fields that some words name are read as the recognised names among the words, without
repetition and in the order in which they first come. Further words add the names that were not
there before, and the names joined with commas are read back. A word may have blanks around it, and
a blank, unknown or repeated word may as well not be there. A request is answered, and a search or a
manga is printed, as for the list that names each field once. -/
theorem fields_read_once (a b : List String) :
    (namesIn a).Nodup ∧
    (∀ name, name ∈ namesIn a ↔ name ∈ recognised ∧ ∃ w ∈ a, Text.trim w = name) ∧
    (namesIn a).Pairwise
      (fun x y => (a.map Text.trim).idxOf x < (a.map Text.trim).idxOf y) ∧
    namesIn (a ++ b) = namesIn a ++ (namesIn b).filter (· ∉ namesIn a) ∧
    namesIn (Text.splitAt (",".intercalate (namesIn a)) ',') = namesIn a ∧
    (∀ w, namesIn (a ++ w :: b) = namesIn (a ++ Text.trim w :: b) ∧
      (Text.trim w ∉ recognised ∨ (∃ v ∈ a, Text.trim v = Text.trim w) →
        namesIn (a ++ w :: b) = namesIn (a ++ b))) ∧
    ∀ (setup : Setup) (source : Source) (registry : Registry) (fields : String),
      (∀ r : Request, Web.handle setup source registry (r.withFields (settled fields)) =
        Web.handle setup source registry (r.withFields fields)) ∧
      (∀ query, runTask setup source registry (.search query (settled fields)) =
        runTask setup source registry (.search query fields)) ∧
      ∀ spiderId mangaId,
        runTask setup source registry (.manga spiderId mangaId (settled fields)) =
          runTask setup source registry (.manga spiderId mangaId fields) := by
  refine ⟨RequestField.nodup_namesIn a, fun _ => RequestField.mem_namesIn,
    RequestField.pairwise_namesIn a, RequestField.namesIn_append a b,
    RequestField.namesIn_rejoined a,
    fun w => ⟨RequestField.namesIn_padded a w b, RequestField.namesIn_without⟩, ?_⟩
  intro setup source registry fields
  exact ⟨fun r => Web.handle_settled setup source registry r fields,
    fun query => runTask_search_settled setup source registry query fields,
    fun spiderId mangaId => runTask_manga_settled setup source registry spiderId mangaId fields⟩

/-- A padded name, a blank word and an unknown word. -/
theorem fields_read_once_of_padded :
    Text.trim " " ∉ recognised ∧
      namesIn (["manga_name", " genres "] ++ " " :: ["bogus"]) = ["manga_name", "genres"] := by
  have hblank : Text.trim " " ∉ recognised := by decide
  obtain ⟨-, -, -, -, -, hwords, -⟩ := fields_read_once ["manga_name", " genres "] ["bogus"]
  refine ⟨hblank, ?_⟩
  rw [(hwords " ").2 (.inl hblank)]
  decide

end Command

end MangaShelf
