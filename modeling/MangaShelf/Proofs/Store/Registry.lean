import Mathlib.Data.List.Basic
import Mathlib.Data.List.Induction
import Mathlib.Data.List.Nodup
import Mathlib.Tactic.Lemma
import MangaShelf.Store.Registry

/-!
# Rows of the store

What one registration does to the rows: an address that has a row leaves them as they are, and any
other one is added at the end. From this, rows that are sound stay sound: no two of them have one
address, and they are numbered from one. In sound rows a lookup never finds several.
-/

namespace MangaShelf

namespace Registry

variable {r : Registry} {url : String} {row : Connection}

lemma mem_urls : url ∈ r.urls ↔ ∃ row ∈ r.rows, row.url = url := by
  simp [urls]

@[simp] lemma urls_insert (r : Registry) (url : String) : (r.insert url).urls = r.urls ++ [url] := by
  simp [urls, insert, nextRow]

/-! ### Lookups -/

/-- An address is found missing exactly when it is not registered. -/
lemma lookup_eq_none_iff : r.lookup url = .ok none ↔ url ∉ r.urls := by
  have hfilter : r.rows.filter (·.url = url) = [] ↔ url ∉ r.urls := by
    simp [List.filter_eq_nil_iff, mem_urls]
  rw [← hfilter, lookup]
  split <;> simp_all

/-- In rows with distinct addresses, the row of an address is the only one. -/
lemma lookup_of_mem (h : r.urls.Nodup) (hrow : row ∈ r.rows) : r.lookup row.url = .ok (some row) := by
  obtain ⟨before, after, hrows⟩ := List.append_of_mem hrow
  rw [urls, hrows, List.map_append, List.map_cons, List.nodup_append] at h
  obtain ⟨-, hafter, hapart⟩ := h
  have hbefore : before.filter (·.url = row.url) = [] := by
    rw [List.filter_eq_nil_iff]
    intro other hother
    simpa using hapart _ (List.mem_map_of_mem hother) _ List.mem_cons_self
  have hrest : after.filter (·.url = row.url) = [] := by
    rw [List.filter_eq_nil_iff]
    intro other hother
    have hne : row.url ∉ after.map (·.url) := (List.nodup_cons.mp hafter).1
    have hmem : other.url ∈ after.map (·.url) := List.mem_map_of_mem hother
    simpa using fun heq : other.url = row.url => hne (heq ▸ hmem)
  rw [lookup, hrows, List.filter_append, hbefore, List.filter_cons, hrest]
  simp

/-! ### Registrations -/

/-- An address that is not registered gets the next row, and that row is stored. -/
lemma start_register_of_notMem (h : url ∉ r.urls) :
    (Session.start r).register url = (Session.start (r.insert url), .ok (r.nextRow url)) := by
  rw [Session.register, show (Session.start r).seen = r from rfl, lookup_eq_none_iff.mpr h]
  rfl

/-- A registered address changes nothing in the session, whatever is found for it. -/
lemma start_register_fst_of_mem (h : url ∈ r.urls) :
    ((Session.start r).register url).1 = Session.start r := by
  have hfound : r.lookup url ≠ .ok none := fun hnone => lookup_eq_none_iff.mp hnone h
  rw [Session.register, show (Session.start r).seen = r from rfl]
  split <;> simp_all

lemma register_of_notMem (h : url ∉ r.urls) : r.register url = r.insert url := by
  rw [register, start_register_of_notMem h]
  rfl

lemma register_of_mem (h : url ∈ r.urls) : r.register url = r := by
  rw [register, start_register_fst_of_mem h]
  rfl

/-- A registration leaves nothing in its session that is not stored. -/
lemma start_register_fst (r : Registry) (url : String) :
    ((Session.start r).register url).1 = Session.start (r.register url) := by
  by_cases h : url ∈ r.urls
  · rw [start_register_fst_of_mem h, register_of_mem h]
  · rw [start_register_of_notMem h, register_of_notMem h]

lemma urls_register (r : Registry) (url : String) :
    (r.register url).urls = r.urls ++ if url ∈ r.urls then [] else [url] := by
  by_cases h : url ∈ r.urls
  · rw [register_of_mem h, if_pos h, List.append_nil]
  · rw [register_of_notMem h, if_neg h, urls_insert]

lemma mem_urls_register (r : Registry) (url : String) : url ∈ (r.register url).urls := by
  rw [urls_register]
  by_cases h : url ∈ r.urls <;> simp [h]

/-! ### Sound rows -/

/-- No two rows have one address, and the rows are numbered from one in the order of the table. -/
structure Sound (r : Registry) : Prop where
  distinct : r.urls.Nodup
  numbered : r.rows.map (·.id) = List.range' 1 r.rows.length

lemma sound_empty : empty.Sound :=
  ⟨.nil, rfl⟩

/-- Rows that are numbered from one have as the greatest number their count. -/
lemma foldl_max_of_numbered {rows : List Connection}
    (h : rows.map (·.id) = List.range' 1 rows.length) :
    rows.foldl (fun n row => max n row.id) 0 = rows.length := by
  induction rows using List.reverseRecOn with
  | nil => rfl
  | append_singleton rows row ih =>
    rw [List.length_append, List.length_singleton, List.range'_1_concat, List.map_append] at h
    obtain ⟨hrows, hrow⟩ := List.append_inj' h rfl
    have hid : row.id = 1 + rows.length := by simpa using hrow
    rw [List.foldl_append, ih hrows, List.foldl_cons, List.foldl_nil, List.length_append, hid]
    simp
    omega

lemma Sound.nextId (h : r.Sound) : r.nextId = r.rows.length + 1 := by
  rw [Registry.nextId, foldl_max_of_numbered h.numbered]

lemma Sound.insert (h : r.Sound) (hurl : url ∉ r.urls) : (r.insert url).Sound where
  distinct := by
    rw [urls_insert, List.nodup_append]
    refine ⟨h.distinct, List.nodup_singleton url, fun other hother last hlast => ?_⟩
    rw [List.mem_singleton.mp hlast]
    exact fun heq => hurl (heq ▸ hother)
  numbered := by
    rw [Registry.insert, List.map_append, List.length_append, h.numbered, List.length_singleton,
      List.range'_1_concat, List.map_singleton, nextRow, h.nextId, Nat.add_comm]

lemma Sound.register (h : r.Sound) (url : String) : (r.register url).Sound := by
  by_cases hmem : url ∈ r.urls
  · rwa [register_of_mem hmem]
  · rw [register_of_notMem hmem]
    exact h.insert hmem

lemma Sound.registerAll (h : r.Sound) (urls : List String) : (r.registerAll urls).Sound := by
  induction urls generalizing r with
  | nil => exact h
  | cons url urls ih => exact ih (h.register url)

/-- In sound rows, an address that has a row gets this row, and nothing is changed. -/
lemma Sound.start_register_of_mem (h : r.Sound) (hrow : row ∈ r.rows) :
    (Session.start r).register row.url = (Session.start r, .ok row) := by
  rw [Session.register, show (Session.start r).seen = r from rfl, lookup_of_mem h.distinct hrow]

/-- In sound rows every registration gives the row of its address, which is stored. -/
lemma Sound.start_register (h : r.Sound) (url : String) :
    ∃ row ∈ (r.register url).rows, row.url = url ∧
      (Session.start r).register url = (Session.start (r.register url), .ok row) := by
  by_cases hmem : url ∈ r.urls
  · obtain ⟨row, hrow, rfl⟩ := mem_urls.mp hmem
    rw [register_of_mem hmem]
    exact ⟨row, hrow, rfl, h.start_register_of_mem hrow⟩
  · rw [register_of_notMem hmem]
    exact ⟨r.nextRow url, by simp [Registry.insert], rfl, start_register_of_notMem hmem⟩

end Registry

end MangaShelf
