import Mathlib.Tactic.Lemma
import MangaShelf.Command.Arguments

/-!
# Arguments that are read

Whatever a list of arguments is read as, nothing comes into it from elsewhere: the address to be
registered is one of the arguments. Texts without a hyphen in front are taken as they are:
`parse_search` and `parse_chapter`.
-/

namespace MangaShelf.Command

variable {task : TaskName} {a a' : Arguments} {args : List String} {url : String}

lemma Arguments.mem_plain_take {arg x : String} (h : a.take task arg = some a') (hx : x ∈ a'.plain) :
    x = arg ∨ x ∈ a.plain := by
  unfold Arguments.take at h
  split at h
  · split at h
    · obtain rfl := Option.some.inj h
      exact List.mem_cons.mp hx
    · cases h
  · obtain rfl := Option.some.inj h
    exact .inr hx

lemma Arguments.mem_plain_takeAll {x : String} (h : a.takeAll task args = some a')
    (hx : x ∈ a'.plain) : x ∈ args ∨ x ∈ a.plain := by
  induction args generalizing a with
  | nil =>
    obtain rfl := Option.some.inj h
    exact .inr hx
  | cons arg rest ih =>
    obtain ⟨taken, htaken, h⟩ := Option.bind_eq_some_iff.mp h
    rcases ih h with hrest | htake
    · exact .inl (List.mem_cons_of_mem arg hrest)
    · rcases mem_plain_take htaken htake with rfl | hold
      · exact .inl List.mem_cons_self
      · exact .inr hold

/-- What is read as the plain arguments of a task stands among its arguments. -/
lemma mem_plain_readArguments {follows wantsFields : Bool} {x : String}
    (h : readArguments task follows wantsFields a args = .done a') (hx : x ∈ a'.plain) :
    x ∈ args ∨ x ∈ a.plain := by
  fun_induction readArguments task follows wantsFields a args with
  | case2 =>
    obtain rfl := Reading.done.inj h
    exact .inr hx
  | case6 _ a rest _ taken htaken =>
    have htakenx : x ∈ taken.plain := by
      obtain rfl := Reading.done.inj h
      split at hx <;> exact hx
    exact (Arguments.mem_plain_takeAll htaken htakenx).imp_left (List.mem_cons_of_mem "--")
  | case3 _ _ arg _ _ ih | case9 _ _ arg _ _ _ ih | case10 _ _ arg _ _ _ ih
  | case11 _ _ arg _ _ _ _ ih => exact (ih h).imp_left (List.mem_cons_of_mem arg)
  | case13 _ _ arg _ _ _ _ htaken ih =>
    rcases ih h with hrest | htake
    · exact .inl (List.mem_cons_of_mem arg hrest)
    · rcases Arguments.mem_plain_take htaken htake with rfl | hold
      · exact .inl List.mem_cons_self
      · exact .inr hold
  | case1 | case4 | case5 | case7 | case8 | case12 => cases h

lemma plain_of_taskOf? (h : taskOf? task a = some (.register url)) : a.plain = [url] := by
  unfold taskOf? at h
  split at h <;> simp_all

lemma mem_of_invoke {excess : Bool} {word : String}
    (h : invoke excess word args = .task (.register url)) : url ∈ args := by
  unfold invoke at h
  split at h
  · cases h
  · split at h
    · cases h
    · cases h
    next a hread =>
      split at h
      next t ht =>
        split at h
        · cases h
        · obtain rfl := Invocation.task.inj h
          have hurl : url ∈ a.plain := by rw [plain_of_taskOf? ht]; exact List.mem_singleton_self url
          simpa using mem_plain_readArguments hread hurl
      next => cases h

lemma mem_of_parse {excess : Bool} (h : parse excess args = .task (.register url)) : url ∈ args := by
  fun_induction parse excess args with
  | case4 _ word rest =>
    exact List.mem_cons_of_mem "--" (List.mem_cons_of_mem word (mem_of_invoke h))
  | case5 _ word rest => exact List.mem_cons_of_mem word (mem_of_invoke h)
  | case7 _ arg rest _ _ ih => exact List.mem_cons_of_mem arg (ih h)
  | case1 | case2 | case3 | case6 | case8 => cases h

lemma roleOf_plain {takesFields : Bool} (h : url.toList.head? ≠ some '-') :
    roleOf takesFields url = .plain := by
  unfold roleOf
  generalize url.toList = cs at h
  dsimp only
  split
  · simp at h
  · rfl

/-! ### Texts without a hyphen in front -/

lemma ne_hyphens {arg : String} (h : arg.toList.head? ≠ some '-') : arg ≠ "--" := by
  rintro rfl
  simp at h

/-- A text without a hyphen in front takes the next place of the task, if it fits there. -/
lemma readArguments_cons {arg : String} {follows : Bool} (h : arg.toList.head? ≠ some '-')
    (rest : List String) :
    readArguments task follows false a (arg :: rest) =
      match a.take task arg with
      | none => .misuse
      | some taken => readArguments task (a.plain.length < task.arity) false taken rest := by
  cases htaken : a.take task arg <;>
    simp only [readArguments, if_neg (ne_hyphens h), roleOf_plain h, htaken]

/-- Texts without a hyphen in front are taken one after the other. -/
lemma readArguments_of_plain {follows : Bool} (h : ∀ arg ∈ args, arg.toList.head? ≠ some '-') :
    readArguments task follows false a args =
      match a.takeAll task args with
      | none => .misuse
      | some taken => .done taken := by
  induction args generalizing follows a with
  | nil => rfl
  | cons arg rest ih =>
    rw [readArguments_cons (h arg List.mem_cons_self), Arguments.takeAll]
    cases a.take task arg with
    | none => rfl
    | some taken => exact ih fun other hother => h other (List.mem_cons_of_mem arg hother)

lemma parse_word (task : TaskName) (rest : List String) :
    parse false (task.word :: rest) = invoke false task.word rest := by
  cases task <;> rfl

lemma ofWord?_word (task : TaskName) : TaskName.ofWord? task.word = some task := by
  cases task <;> rfl

/-- A search and its fields. -/
lemma parse_search {query fields : String} (hquery : query.toList.head? ≠ some '-')
    (hfields : fields.toList.head? ≠ some '-') :
    parse false ["search", query, "--fields", fields] = .task (.search query fields) := by
  have hoption : roleOf true "--fields" = .fields none := by decide
  have hvalue : fields ≠ "--" ∧ roleOf true fields = .plain :=
    ⟨ne_hyphens hfields, roleOf_plain hfields⟩
  have hread : readArguments .search false false ⟨[], defaultFields, false⟩
      [query, "--fields", fields] = .done ⟨[query], fields, false⟩ := by
    rw [readArguments_cons hquery]
    simp [Arguments.take, TaskName.arity, fits, readArguments, TaskName.takesFields, hoption, hvalue]
  rw [show "search" = TaskName.search.word from rfl, parse_word, invoke, ofWord?_word]
  dsimp only
  rw [hread]
  rfl

/-- A chapter is asked for by a number; another text is a misuse. -/
lemma parse_chapter {spiderId mangaId number : String}
    (hspider : spiderId.toList.head? ≠ some '-') (hmanga : mangaId.toList.head? ≠ some '-')
    (hnumber : number.toList.head? ≠ some '-') :
    parse false ["chapter", spiderId, mangaId, number] =
      match Text.integer? number with
      | none => .misuse
      | some n => .task (.chapter spiderId mangaId n) := by
  have hplain : ∀ arg ∈ [spiderId, mangaId, number], arg.toList.head? ≠ some '-' := by
    simp [hspider, hmanga, hnumber]
  have htaken : Arguments.takeAll .chapter ⟨[], defaultFields, false⟩ [spiderId, mangaId, number] =
      if (Text.integer? number).isSome then
        some ⟨[number, mangaId, spiderId], defaultFields, false⟩
      else none := by
    simp [Arguments.takeAll, Arguments.take, TaskName.arity, fits]
  rw [show "chapter" = TaskName.chapter.word from rfl, parse_word, invoke, ofWord?_word]
  dsimp only
  rw [readArguments_of_plain hplain, htaken]
  cases hread : Text.integer? number with
  | none => rfl
  | some n => simp [taskOf?, hread]

end MangaShelf.Command
