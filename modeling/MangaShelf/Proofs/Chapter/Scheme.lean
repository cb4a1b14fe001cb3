import MangaShelf.Proofs.Chapter.Address
import MangaShelf.Proofs.Chapter.Links

/-!
# Schemes in a chapter list

On a web page the chapters of a list have addresses with a scheme, whatever the links look like,
unless a link is blank: blanks are dropped only after the empty links are, so a blank one gives a
chapter with an empty address. `collect_carriesScheme_iff` says that nothing else goes wrong.
-/

namespace MangaShelf.Chapter

open Config (Arranger FieldRule)
open Extraction (Subject)

variable {page : Subject} {rule : Option FieldRule} {base : String} {chapters : List Chapter}

/-- In two lists related item by item, what holds of all items of the one holds of all items of the
other. -/
lemma forall_mem_iff_of_forall₂ {α β : Type} {R : α → β → Prop} {p : α → Prop} {q : β → Prop}
    {as : List α} {bs : List β} (h : List.Forall₂ R as bs) (hiff : ∀ a b, R a b → (p a ↔ q b)) :
    (∀ a ∈ as, p a) ↔ ∀ b ∈ bs, q b := by
  induction h with
  | nil => simp
  | cons hab _ ih => rw [List.forall_mem_cons, List.forall_mem_cons, hiff _ _ hab, ih]

/-- A blank link is resolved to nothing, any other one to an address with a scheme. -/
lemma Resolves.scheme (hbase : Url.IsWebAddress base) {link entry : String × String}
    (h : Resolves base link entry) :
    (entry.2 = "" ∨ Url.CarriesScheme entry.2) ∧
      (Text.trim link.2 ≠ "" ↔ Url.CarriesScheme entry.2) := by
  have hresolved := absolute_eq_ok.mp h.2
  by_cases hblank : Text.trim link.2 = ""
  · have hempty : entry.2 = "" := by
      rw [hblank, Url.absolute, if_pos (.inl rfl)] at hresolved
      exact (Except.ok.inj hresolved).symm
    exact ⟨.inl hempty, fun hnot => absurd hblank hnot, fun hscheme => absurd hempty hscheme.ne_empty⟩
  · have hscheme := Url.carriesScheme_of_absolute hbase hblank hresolved
    exact ⟨.inr hscheme, fun _ => hscheme, fun _ => hblank⟩

/-- On a web page the address of each chapter in a list is empty or carries a scheme. All of them
are addresses with a scheme exactly if no link that the rule finds is blank. -/
theorem collect_carriesScheme_iff (hbase : Url.IsWebAddress base)
    (h : collect page rule base = .ok chapters) :
    (∀ c ∈ chapters, c.url = "" ∨ Url.CarriesScheme c.url) ∧
      ((∀ c ∈ chapters, c.url ≠ "" ∧ Url.CarriesScheme c.url) ↔
        ∀ r ∈ rule, r.selector.getD "" ≠ "" → ∀ found, links page r = .ok found →
          ∀ link ∈ found, Text.trim link.2 ≠ "") := by
  have hlinks : ∃ found, numbered base 1 found = .ok chapters ∧
      ((∀ link ∈ found, Text.trim link.2 ≠ "") ↔
        ∀ r ∈ rule, r.selector.getD "" ≠ "" → ∀ found, links page r = .ok found →
          ∀ link ∈ found, Text.trim link.2 ≠ "") := by
    cases rule with
    | none => exact ⟨[], h, by simp⟩
    | some r =>
      by_cases hgiven : r.selector.getD "" = ""
      · rw [collect, if_pos hgiven] at h
        exact ⟨[], h, by simp [hgiven]⟩
      · rw [collect_eq hgiven] at h
        obtain ⟨found, hfound, h⟩ := bind_eq_ok.mp h
        exact ⟨_, h, by simp [hgiven, hfound]⟩
  obtain ⟨found, hnumbered, hiff⟩ := hlinks
  have hresolves := List.forall₂_map_right_iff.mp (numbered_eq_ok.mp hnumbered).1
  constructor
  · exact (forall_mem_iff_of_forall₂ hresolves (p := fun _ => True) fun link c hlink =>
      iff_of_true trivial (hlink.scheme hbase).1).mp fun _ _ => trivial
  · rw [← hiff, forall_mem_iff_of_forall₂ hresolves fun link c hlink => (hlink.scheme hbase).2]
    exact forall₂_congr fun c _ => and_iff_right_of_imp Url.CarriesScheme.ne_empty

/-- A page whose script lists an address on another site, a part of the page and a mail address. -/
def sitePage : Subject :=
  .ofPage (Markup.document "<script>[\"//b.test/1\", \" #2 \", \"mailto:a@b.test\"]</script>")

/-- None of three links is blank, so all chapters have an address with a scheme. -/
theorem collect_carriesScheme_of_site :
    collect sitePage (some scriptRule) "http://a.test/m" =
        .ok [⟨1, "", "http://b.test/1"⟩, ⟨2, "", "http://a.test/m#2"⟩, ⟨3, "", "mailto:a@b.test"⟩] ∧
      Url.CarriesScheme "http://b.test/1" ∧ Url.CarriesScheme "http://a.test/m#2" ∧
      Url.CarriesScheme "mailto:a@b.test" := by
  have hbase : Url.IsWebAddress "http://a.test/m" :=
    ⟨"http".toList, by decide, "a.test/m".toList, by decide, by decide⟩
  have h : collect sitePage (some scriptRule) "http://a.test/m" =
      .ok [⟨1, "", "http://b.test/1"⟩, ⟨2, "", "http://a.test/m#2"⟩,
        ⟨3, "", "mailto:a@b.test"⟩] := toOption_eq_some.mp (by decide +kernel)
  obtain ⟨hschemes, -⟩ := collect_carriesScheme_iff hbase h
  have hscheme (c : Chapter) (hc : c ∈ _) (hurl : c.url ≠ "") : Url.CarriesScheme c.url :=
    (hschemes c hc).resolve_left hurl
  exact ⟨h, hscheme ⟨1, "", "http://b.test/1"⟩ (by decide) (by decide),
    hscheme ⟨2, "", "http://a.test/m#2"⟩ (by decide) (by decide),
    hscheme ⟨3, "", "mailto:a@b.test"⟩ (by decide) (by decide)⟩

/-- A rule for the links of a page. -/
def anchorRule : FieldRule :=
  { FieldRule.empty with selector := some "a" }

/-- A page whose only link is blank. -/
def blankPage : Subject :=
  .ofPage (Markup.document "<a href=\" \">T</a>")

/-- On a web page a blank link gives a chapter without an address. -/
theorem collect_of_blank_link :
    Url.IsWebAddress "http://a.test/m" ∧
      collect blankPage (some anchorRule) "http://a.test/m" = .ok [⟨1, "T", ""⟩] ∧
      ¬ Url.CarriesScheme "" :=
  ⟨⟨"http".toList, by decide, "a.test/m".toList, by decide, by decide⟩,
    toOption_eq_some.mp (by decide +kernel), fun hscheme => hscheme.ne_empty rfl⟩

end MangaShelf.Chapter
