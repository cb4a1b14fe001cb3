import Mathlib.Data.List.DropRight
import Mathlib.Tactic.Lemma
import MangaShelf.Proofs.Record.Assembly
import MangaShelf.Proofs.Record.Distinct
import MangaShelf.Proofs.Url.Reference

/-!
# What cleaning up leaves

The genres of a cleaned record are tidy, and the link to its image is resolved. Neither is changed
by cleaning up once more, and nothing else is ever changed: `clean_settled`.
-/

namespace MangaShelf

namespace Text

/-- Nothing is left to drop at the ends of a trimmed text. -/
lemma trimBoth_trimBoth (p : Char → Bool) (cs : List Char) :
    trimBoth p (trimBoth p cs) = trimBoth p cs := by
  have hfront : (List.rdropWhile p (cs.dropWhile p)).dropWhile p =
      List.rdropWhile p (cs.dropWhile p) := by
    rw [List.dropWhile_eq_self_iff]
    intro hlength
    have hkept := List.rdropWhile_prefix p (l := cs.dropWhile p)
    rw [hkept.getElem hlength]
    exact List.dropWhile_get_zero_not p cs (hkept.length_le.trans_lt' hlength)
  show List.rdropWhile p ((List.rdropWhile p (cs.dropWhile p)).dropWhile p) = _
  rw [hfront]
  exact List.rdropWhile_idempotent p (cs.dropWhile p)

lemma trim_trim (s : String) : trim (trim s) = trim s := by
  rw [trim, trim, String.toList_ofList, trimBoth_trimBoth]

end Text

namespace Record

variable {base : String} {r r' : Record} {names : List String}

/-! ### Labels -/

/-- Labels without blanks around them, none of which is empty or comes twice. -/
structure IsTidy (names : List String) : Prop where
  trimmed : ∀ name ∈ names, Text.trim name = name
  not_empty : ∀ name ∈ names, name ≠ ""
  nodup : names.Nodup

lemma isTidy_tidy (names : List String) : IsTidy (tidy names) := by
  have hmem {name : String} (h : name ∈ tidy names) :
      (∃ label ∈ names, Text.trim label = name) ∧ name ≠ "" := by
    rw [tidy, mem_distinct_nil, List.mem_filter, List.mem_map] at h
    exact ⟨h.1, of_decide_eq_true h.2⟩
  refine ⟨fun name h => ?_, fun name h => (hmem h).2, nodup_distinct _ _⟩
  obtain ⟨⟨label, -, rfl⟩, -⟩ := hmem h
  exact Text.trim_trim label

/-- Tidy labels are left as they are. -/
lemma IsTidy.tidy_eq (h : IsTidy names) : tidy names = names := by
  have htrimmed : names.map Text.trim = names :=
    (List.map_congr_left h.trimmed).trans (List.map_id' names)
  have hkept : names.filter (· ≠ "") = names :=
    List.filter_eq_self.mpr fun name hname => decide_eq_true (h.not_empty name hname)
  rw [tidy, htrimmed, hkept]
  exact distinct_of_nodup h.nodup fun name _ => List.not_mem_nil

lemma anyOverlong_strings (names : List String) :
    Json.anyOverlong (names.map .string) = false := by
  induction names with
  | nil => rfl
  | cons _ rest ih => exact ih

lemma labels_strings (names : List String) : labels (.array (names.map .string)) = .ok names := by
  rw [labels, anyOverlong_strings, if_neg Bool.false_ne_true, List.map_map]
  exact congrArg Except.ok (List.map_id names)

/-! ### Settled records -/

lemma setEntry_self {key : RecordKey} {v : Json} {entries : List (RecordKey × Json)}
    (h : entries.lookup key = some v) : setEntry key v entries = entries := by
  induction entries with
  | nil => cases h
  | cons e rest ih =>
    obtain ⟨k, w⟩ := e
    rw [lookup_cons_eq] at h
    rw [setEntry]
    by_cases hk : k = key
    · rw [if_pos hk.symm] at h
      rw [if_pos hk, hk, Option.some.inj h]
    · rw [if_neg (Ne.symm hk)] at h
      rw [if_neg hk, ih h]

/-- Setting a field to the value that it has changes nothing. -/
lemma set_self {key : RecordKey} {v : Json} (h : r.get? key = some v) : r.set key v = r := by
  rw [set, setEntry_self h]

/-- A resolved link to the image is not resolved again. -/
lemma resolveImage_self (hbase : Url.IsWebAddress base) {cleaned : Record}
    (h : resolveImage base r = .ok r') (himage : cleaned.get? .image = r'.get? .image) :
    resolveImage base cleaned = .ok cleaned := by
  rcases resolveImage_cases h with ⟨url, resolved, -, hresolved, rfl⟩ | ⟨hnone, rfl⟩
  · rw [get?_set, if_pos rfl] at himage
    rw [resolveImage, himage]
    dsimp only
    rw [Url.absolute_absolute hbase hresolved]
    dsimp only
    rw [set_self himage]
  · rw [← himage] at hnone
    unfold resolveImage
    split
    next url hurl => exact absurd hurl (hnone url)
    next => rfl

/-- Tidy genres are not tidied again. -/
lemma tidyGenres_self (h : tidyGenres r = .ok r') : tidyGenres r' = .ok r' := by
  rcases tidyGenres_cases h with ⟨v, names, -, -, rfl⟩ | ⟨-, rfl⟩
  · have hgenres : (r.set .genres (.array ((tidy names).map .string))).get? .genres =
        some (.array ((tidy names).map .string)) := by
      rw [get?_set, if_pos rfl]
    rw [tidyGenres, hgenres]
    dsimp only
    rw [labels_strings]
    show Except.ok _ = _
    rw [(isTidy_tidy names).tidy_eq, set_self hgenres]
  · exact h

/-! ### Cleaned records -/

/-- On a web page, an address that is not empty is left as it is if it has a scheme of its own other
than that of the page, and otherwise it begins with a web scheme afterwards; resolving it again
changes nothing. Cleaning up a record changes the image and the genres only, and cleaning it up once
more changes nothing at all. -/
theorem clean_settled (hbase : Url.IsWebAddress base) :
    (∀ reference url, reference ≠ "" → Url.absolute reference base = .ok url →
      (Url.HasOtherScheme reference base → url = reference) ∧
      (¬ Url.HasOtherScheme reference base → Url.isAbsolute url) ∧
      Url.absolute url base = .ok url) ∧
    ∀ r r', clean base r = .ok r' →
      clean base r' = .ok r' ∧
      ∀ key, key ≠ .image → key ≠ .genres → r'.get? key = r.get? key := by
  refine ⟨fun reference url hreference h => ?_, fun r r' h => ?_⟩
  · refine ⟨fun hother => ?_, fun hother => ?_, Url.absolute_absolute hbase h⟩
    · rcases Url.absolute_of_web hbase hreference h with ⟨-, hurl⟩ | ⟨hnot, -⟩
      · exact hurl
      · exact absurd hother hnot
    · rcases Url.absolute_of_web hbase hreference h with ⟨hyes, -⟩ | ⟨-, hurl⟩
      · exact absurd hyes hother
      · exact hurl
  · refine ⟨?_, fun key himage hgenres => get?_clean h himage hgenres⟩
    obtain ⟨resolved, hresolved, htidied⟩ := bind_eq_ok.mp h
    have himage : resolveImage base r' = .ok r' :=
      resolveImage_self hbase hresolved (get?_tidyGenres htidied (by decide))
    exact bind_eq_ok.mpr ⟨r', himage, tidyGenres_self htidied⟩

/-- Labels with blanks around them, an empty one, and one that comes twice. -/
def untidyLabels : Json :=
  .array [.string " Drama ", .int 1, .string "", .string "Drama"]

/-- A record with a link to an image that leaves the scheme out, and with untidy genres. -/
def untidy : Record :=
  ⟨[(.image, .string "//cdn.test/1.jpg"), (.name, .string "N"), (.genres, untidyLabels)]⟩

/-- The same record cleaned up. -/
def tidied : Record :=
  ⟨[(.image, .string "https://cdn.test/1.jpg"), (.name, .string "N"),
    (.genres, .array [.string "Drama", .string "1"])]⟩

/-- A link without a scheme and an untidy record are settled at once. -/
theorem clean_settled_of_untidy :
    Url.absolute "//cdn.test/1.jpg" "https://a.test/m" = .ok "https://cdn.test/1.jpg" ∧
      Url.isAbsolute "https://cdn.test/1.jpg" ∧
      Url.absolute "https://cdn.test/1.jpg" "https://a.test/m" = .ok "https://cdn.test/1.jpg" ∧
      clean "https://a.test/m" untidy = .ok tidied ∧
      clean "https://a.test/m" tidied = .ok tidied ∧
      tidied.get? .name = untidy.get? .name := by
  have hbase : Url.IsWebAddress "https://a.test/m" :=
    ⟨"https".toList, by decide, "a.test/m".toList, by decide, by decide⟩
  have himage : Url.absolute "//cdn.test/1.jpg" "https://a.test/m" =
      .ok "https://cdn.test/1.jpg" := toOption_eq_some.mp (by decide +kernel)
  have hother : ¬ Url.HasOtherScheme "//cdn.test/1.jpg" "https://a.test/m" := by
    rintro ⟨scheme, hscheme, -⟩
    rw [show Url.ownScheme? "//cdn.test/1.jpg" = none by decide +kernel] at hscheme
    cases hscheme
  have hlabels : labels untidyLabels = .ok [" Drama ", "1", "", "Drama"] :=
    toOption_eq_some.mp (by decide +kernel)
  have htidy : tidy [" Drama ", "1", "", "Drama"] = ["Drama", "1"] := by decide +kernel
  have hresolved : resolveImage "https://a.test/m" untidy =
      .ok (untidy.set .image (.string "https://cdn.test/1.jpg")) := by
    rw [resolveImage, show untidy.get? .image = some (.string "//cdn.test/1.jpg") from rfl]
    dsimp only
    rw [himage]
  have hclean : clean "https://a.test/m" untidy = .ok tidied := by
    refine bind_eq_ok.mpr ⟨_, hresolved, ?_⟩
    rw [tidyGenres, show (untidy.set .image (.string "https://cdn.test/1.jpg")).get? .genres =
      some untidyLabels from rfl]
    dsimp only
    rw [hlabels]
    show Except.ok (Record.set _ _ (.array ((tidy _).map _))) = _
    rw [htidy]
    rfl
  obtain ⟨haddresses, hrecords⟩ := clean_settled hbase
  obtain ⟨-, habsolute, hagain⟩ := haddresses _ _ (by decide) himage
  obtain ⟨hsettled, hkept⟩ := hrecords _ _ hclean
  exact ⟨himage, habsolute hother, hagain, hclean, hsettled, hkept .name (by decide) (by decide)⟩

end Record

end MangaShelf
