import Mathlib.Tactic.Lemma
import MangaShelf.Proofs.Chapter.Links
import MangaShelf.Proofs.Chapter.Resolution
import MangaShelf.Proofs.Record.Assembly
import MangaShelf.Spider.Details

/-!
# Two views of a manga

The record of a manga and the resolution of one of its chapters are put together separately, from
the same profile page. They agree on the title, on the chapters and on which of them has which
number: `resolve_agrees_with_details`.
-/

namespace MangaShelf

open Config (FieldRule ProfilePage ProfileRules Spider)
open Extraction (Subject)

/-! ### Records of a profile -/

namespace Record

variable {page : Subject} {rules : ProfileRules} {fields : List RequestField} {base : String}
  {record : Record}

/-- The name in a record is the title on the page; without a name the title is empty. -/
lemma name_eq_title (h : assemble page rules.rule fields base = .ok record)
    (hname : rules.name.isSome → .name ∈ fields) {title : String}
    (htitle : Chapter.titleOn page rules = .ok title) :
    ((record.get? .name).bind Json.asString?).getD "" = title := by
  unfold Chapter.titleOn at htitle
  cases hrule : rules.name with
  | none =>
    rw [hrule] at htitle
    obtain rfl : "" = title := Except.ok.inj htitle
    have hnone : record.get? .name = none := get?_assemble_eq_none h (.inr hrule)
    rw [hnone]
    rfl
  | some rule =>
    obtain ⟨entries, hentries, hget⟩ :=
      get?_assemble_of_mem h .name (by decide) (by decide) (hname (by rw [hrule]; rfl))
    rw [hrule] at htitle
    obtain ⟨v, hv, htitle⟩ := bind_eq_ok.mp htitle
    have hadded : entriesOf page rules.rule base .name =
        .ok (if v.isNull then [] else [(.name, v)]) := by
      simp only [entriesOf, plainSource?, ProfileRules.rule, hrule]
      exact bind_eq_ok.mpr ⟨v, hv, rfl⟩
    obtain rfl := Except.ok.inj (hadded.symm.trans hentries)
    rw [hget, pure_eq_ok.mp htitle]
    cases v <;> rfl

end Record

/-- A record comes from the profile page, which is all that is asked for. -/
lemma Config.Spider.details_eq_ok {spider : Spider} {p : ProfilePage} {id : String}
    {fields : List RequestField} {source : Source} {record : Record}
    (hp : spider.site.bind (·.profileById) = some p)
    (h : (spider.details id fields source).outcome = .ok (some record)) :
    (spider.details id fields source).requested = [p.address id] ∧
      ∃ html assembled, source.text (p.address id) = .ok (some html) ∧
        Record.assemble (Chapter.pageOf html) p.target.rule (fields.filter (· ≠ .id))
          (p.address id) = .ok assembled ∧
        record = assembled.set .id (.string id) := by
  rw [details, hp] at h ⊢
  dsimp only at h ⊢
  obtain ⟨base, hbase, h⟩ := Fetching.bind_outcome_eq_ok.mp h
  obtain rfl : p.address id = base := by
    rw [ProfilePage.address, show p.findAddress id = .ok base from hbase]
    rfl
  rw [show p.findAddress id = .ok (p.address id) from hbase, Fetching.lift_ok_bind]
  obtain ⟨answer, htext, h⟩ := Fetching.bind_outcome_eq_ok.mp h
  rw [Fetching.bind_apply_of_ok htext]
  cases answer with
  | none => cases h
  | some html =>
    obtain ⟨assembled, hassembled, h⟩ := Fetching.bind_outcome_eq_ok.mp h
    dsimp only
    rw [Fetching.bind_apply_of_ok hassembled]
    exact ⟨rfl, html, assembled, htext, hassembled, Option.some.inj (pure_eq_ok.mp h)⟩

namespace Chapter

/-! ### Chapters by number -/

lemma aim_of_number {base : String} {chapters : List Chapter} {n : Int} {c : Chapter}
    (hn : 1 ≤ n) (hc : chapters[n.toNat - 1]? = some c) :
    aim base chapters ⟨some n, none⟩ = .ok ⟨c.shownTitle, some c.url⟩ := by
  have hge : ¬ n < 1 := by omega
  simp [aim, Extraction.given, hge, hc]

/-- A number that is not in the list leads nowhere. -/
lemma url_of_aim_of_no_number {base : String} {chapters : List Chapter} {n : Int} {target : Aim}
    (hn : ¬ (1 ≤ n ∧ n ≤ chapters.length)) (h : aim base chapters ⟨some n, none⟩ = .ok target) :
    target.url = none := by
  simp only [aim, Extraction.given, listed_eq_none hn] at h
  obtain ⟨title, -, h⟩ := bind_eq_ok.mp h
  rw [pure_eq_ok.mp h]

/-- The record of a manga and the resolution of a chapter by number agree, whenever both are given.
Both ask for the profile page first. The chapters of the record are those that numbers count: a
number in range leads to the address in the entry of that chapter and has its title, and any other
number leads no further. -/
theorem resolve_agrees_with_details (read : Script.ArrayReader) {spider : Spider} {p : ProfilePage}
    (hp : spider.site.bind (·.profileById) = some p) {id : String} (hid : id ≠ "")
    {fields : List RequestField} (hchapters : .chapters ∈ fields)
    (hname : p.target.name.isSome → .name ∈ fields) {source : Source} {record : Record} {n : Int}
    {r : Resolution} (hrecord : (spider.details id fields source).outcome = .ok (some record))
    (hr : (resolve read spider (some id) ⟨some n, none⟩ source).outcome = .ok r) :
    (spider.details id fields source).requested = [p.address id] ∧
    r.mangaTitle = ((record.toJson.get? "manga_name").bind Json.asString?).getD "" ∧
    ∃ entries : List Json,
      record.toJson.get? "manga_chapters" = some (.array entries) ∧
      record.toJson.get? "max_chapters" = some (.int entries.length) ∧
      r.chapterCount = some entries.length ∧
      (1 ≤ n ∧ n ≤ entries.length →
        ∃ title url, entries[n.toNat - 1]? = some
            (.object [("number", .int n), ("title", .string title), ("url", .string url)]) ∧
          (resolve read spider (some id) ⟨some n, none⟩ source).requested = [p.address id, url] ∧
          r.chapterTitle = if title = "" then "Chapter " ++ toString n else title) ∧
      (¬ (1 ≤ n ∧ n ≤ entries.length) →
        (resolve read spider (some id) ⟨some n, none⟩ source).requested = [p.address id] ∧
        r.pages = []) := by
  obtain ⟨hasked, html, assembled, htext, hassembled, rfl⟩ := Config.Spider.details_eq_ok hp hrecord
  obtain ⟨profile, target, hprofile, haim, hfinish, hrequested⟩ :=
    resolve_of_profile hp hid htext hr
  obtain ⟨pages, rfl, hpages⟩ := finish_outcome_eq_ok hfinish
  rw [finish_requested] at hrequested
  obtain ⟨title, htitle, hprofile⟩ := bind_eq_ok.mp hprofile
  obtain ⟨chapters, hcollect, hprofile⟩ := bind_eq_ok.mp hprofile
  obtain rfl := pure_eq_ok.mp hprofile
  obtain ⟨chapters', hcollect', hlist, hcount⟩ :=
    Record.get?_chapters hassembled (List.mem_filter.mpr ⟨hchapters, by decide⟩) rfl
  obtain rfl : chapters = chapters' := Except.ok.inj (hcollect.symm.trans hcollect')
  have htitle' := Record.name_eq_title hassembled
    (fun h => List.mem_filter.mpr ⟨hname h, by decide⟩) htitle
  -- the id that is set last is not the value under any other key
  have hvalue (key : RecordKey) (hkey : key ≠ .id) :
      (assembled.set .id (.string id)).toJson.get? key.word = assembled.get? key := by
    rw [Record.get?_toJson, Record.get?_set, if_neg hkey]
  refine ⟨hasked, ?_, chapters.map toJson, ?_, ?_, ?_, fun hn => ?_, fun hn => ?_⟩
  · rw [← RecordKey.word, hvalue .name (by decide), htitle']
    rfl
  · exact (hvalue .chapters (by decide)).trans hlist
  · rw [List.length_map]
    exact (hvalue .chapterCount (by decide)).trans hcount
  · rw [List.length_map]
    rfl
  · rw [List.length_map] at hn
    have hlt : n.toNat - 1 < chapters.length := by omega
    have hc : chapters[n.toNat - 1]? = some chapters[n.toNat - 1] := List.getElem?_eq_getElem hlt
    obtain rfl := Except.ok.inj ((aim_of_number hn.1 hc).symm.trans haim)
    have hindex : ((n.toNat - 1 : Nat) : Int) + 1 = n := by omega
    have hentry := toJson_of_collect hcollect hc
    rw [hindex] at hentry
    refine ⟨_, _, hentry, hrequested, ?_⟩
    have hnumber : (chapters[n.toNat - 1].number : Int) = n := by
      rw [number_of_collect hcollect hc]
      exact hindex
    show shownTitle _ = _
    rw [shownTitle, fallbackTitle, hnumber]
  · rw [List.length_map] at hn
    have hurl := url_of_aim_of_no_number hn haim
    rw [hurl] at hrequested
    exact ⟨hrequested, hpages hurl⟩

/-- Profile pages with the name in a heading and a link to each chapter. -/
def plainProfile : ProfilePage where
  urlPattern := "http://a.test/\x7bmanga_id\x7d"
  replace := none
  target :=
    { url := none, image := none, description := none, genres := none, mangaId := none
      name := some { FieldRule.empty with selector := some "h1" }
      chapters := { FieldRule.empty with selector := some "a" }
      pageImage := none }

/-- A site with such profile pages. -/
def plainSpider : Spider :=
  ⟨"a", "A", none, "http://a.test",
    some ⟨none, none, none, none, none, none, none, none, none, none, some plainProfile⟩⟩

/-- The same page is everywhere: it has a name and one chapter. -/
def onePage : Source :=
  ⟨fun _ => .ok (some "<h1>N</h1><a href=/1>T</a>"), fun _ => .ok none, fun _ => .ok none⟩

/-- On a page with one chapter, the first one, both views are given. -/
theorem resolve_agrees_with_details_of_one_chapter :
    ∃ record,
      (plainSpider.details "m" [.chapters, .name] onePage).outcome = .ok (some record) ∧
      (resolve Script.addresses plainSpider (some "m") ⟨some 1, none⟩ onePage).outcome =
        .ok ⟨[], "T", "N", some 1⟩ ∧
      ((record.toJson.get? "manga_name").bind Json.asString?).getD "" = "N" ∧
      record.toJson.get? "max_chapters" = some (.int 1) ∧
      record.toJson.get? "manga_chapters" = some (.array [.object [("number", .int 1),
        ("title", .string "T"), ("url", .string "http://a.test/1")]]) ∧
      (resolve Script.addresses plainSpider (some "m") ⟨some 1, none⟩ onePage).requested =
        ["http://a.test/m", "http://a.test/1"] := by
  have hr : (resolve Script.addresses plainSpider (some "m") ⟨some 1, none⟩ onePage).outcome =
      .ok ⟨[], "T", "N", some 1⟩ :=
    toOption_eq_some.mp (by decide +kernel)
  have hrequested : (resolve Script.addresses plainSpider (some "m") ⟨some 1, none⟩
      onePage).requested = ["http://a.test/m", "http://a.test/1"] := by
    decide +kernel
  have hfound :
      (plainSpider.details "m" [.chapters, .name] onePage).outcome.toOption.join.isSome := by
    decide +kernel
  obtain ⟨record, hrecord⟩ := Option.isSome_iff_exists.mp hfound
  rw [Option.join_eq_some_iff, toOption_eq_some] at hrecord
  obtain ⟨-, htitle, entries, hentries, hcount, hlength, hentry, -⟩ :=
    resolve_agrees_with_details Script.addresses (show _ = some plainProfile from rfl) (by decide)
      (by decide) (by decide) hrecord hr
  have hone : entries.length = 1 := (Option.some.inj hlength).symm
  rw [hone] at hcount hentry
  obtain ⟨title, url, hfirst, hasked, hshown⟩ := hentry (by decide)
  obtain ⟨entry, rfl⟩ := List.length_eq_one_iff.mp hone
  obtain rfl := Option.some.inj hfirst
  rw [hrequested] at hasked
  obtain rfl := List.cons.inj (List.cons.inj hasked).2 |>.1
  have htitled : title = "T" := by
    split at hshown
    · exact absurd hshown (by decide)
    · exact hshown.symm
  rw [htitled] at hentries
  exact ⟨record, hrecord, hr, htitle.symm, hcount, hentries, hrequested⟩

end Chapter

end MangaShelf
