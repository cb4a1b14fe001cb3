import Mathlib.Logic.Relation
import MangaShelf.Config.Rules
import MangaShelf.Proofs.Config.Members

/-!
# Documents of spiders

Every model of a spider document is read back from what is written of it, and none of them looks at
members that it has no field for: `Spider.check_written`.
-/

namespace MangaShelf.Config

open FieldKey (Apart read_writeAll require_writeAll writeAll)

/-! ### Optional values -/

namespace Check

variable {α : Type} {check : Check α} {write : α → Json}

lemma Reads.optional (h : check.Reads write) (hnull : ∀ a, (write a).isNull = false) :
    (Check.optional check).Reads (writeOptional write) := by
  intro a?
  cases a? with
  | none => rfl
  | some a =>
    have hsome : Check.optional check (write a) = (check (write a)).map some := by
      have hvalue := hnull a
      cases hwrite : write a with
      | null => simp [hwrite, Json.isNull] at hvalue
      | bool _ | int _ | float _ | string _ | array _ | object _ => rfl
    rw [writeOptional, hsome, h a]
    rfl

lemma reads_ofString? : (optional string).Reads Json.ofString? := by
  intro s?
  cases s? <;> rfl

lemma reads_strings : (list string).Reads fun ss => .array (ss.map .string) :=
  reads_string.list

end Check

lemma Arranger.reads_word :
    (Check.optional check).Reads fun a => Json.ofString? (a.map word) := by
  intro a?
  rcases a? with _ | _ | _ <;> rfl

/-! ### Rules for a field -/

namespace FieldRule

/-- The fields of a rule. -/
def fields : List (FieldKey × Form) :=
  [(selectorKey, .whole), (attributeKey, .whole), (textKey, .whole), (multipleKey, .whole),
    (parsesJsonKey, .whole), (jsonPathKey, .whole), (arrangerKey, .whole)]

/-- The form of a rule. -/
def form : Form := .model fields

/-- The fields of a rule with their values. -/
def values (r : FieldRule) : List (FieldKey × Json) :=
  [(selectorKey, .ofString? r.selector), (attributeKey, .ofString? r.attr), (textKey, .bool r.text),
    (multipleKey, .bool r.multiple), (parsesJsonKey, .bool r.parsesJson),
    (jsonPathKey, .ofString? r.jsonPath), (arrangerKey, .ofString? (r.arranger.map Arranger.word))]

lemma apart : (fields.map (·.1)).Pairwise Apart := by decide

/-- A rule is read back from an object that has its fields, and maybe others. -/
lemma ofMembers_writeAll (r : FieldRule) (naming : Naming) {all : List (FieldKey × Json)}
    (hapart : (all.map (·.1)).Pairwise Apart) (hall : ∀ f ∈ r.values, f ∈ all) :
    ofMembers (writeAll naming all) = .ok r := by
  simp only [values, List.forall_mem_cons] at hall
  obtain ⟨hselector, hattr, htext, hmultiple, hparses, hpath, harranger, -⟩ := hall
  rw [ofMembers, read_writeAll hapart Check.reads_ofString? hselector,
    read_writeAll hapart Check.reads_ofString? hattr, read_writeAll hapart Check.reads_bool htext,
    read_writeAll hapart Check.reads_bool hmultiple, read_writeAll hapart Check.reads_bool hparses,
    read_writeAll hapart Check.reads_ofString? hpath,
    read_writeAll hapart Arranger.reads_word harranger]
  rfl

lemma reads_toJson (naming : Naming) : check.Reads (toJson naming) := by
  intro r
  show ofMembers (writeAll naming r.values) = .ok r
  exact ofMembers_writeAll r naming apart fun _ hf => hf

/-- A rule is read from its fields alone, also where there are others. -/
lemma ofMembers_congr {all : List (FieldKey × Form)} {ms ms' : List (String × Json)}
    (h : Form.Adds (.model all) (.object ms) (.object ms')) (hapart : (all.map (·.1)).Pairwise Apart)
    (hall : ∀ f ∈ fields, f ∈ all) : ofMembers ms' = ofMembers ms := by
  simp only [fields, List.forall_mem_cons] at hall
  obtain ⟨hselector, hattr, htext, hmultiple, hparses, hpath, harranger, -⟩ := hall
  rw [ofMembers, ofMembers, h.read_eq hapart (Form.governs_whole _) hselector,
    h.read_eq hapart (Form.governs_whole _) hattr, h.read_eq hapart (Form.governs_whole _) htext,
    h.read_eq hapart (Form.governs_whole _) hmultiple,
    h.read_eq hapart (Form.governs_whole _) hparses, h.read_eq hapart (Form.governs_whole _) hpath,
    h.read_eq hapart (Form.governs_whole _) harranger]

lemma governs_check : form.Governs check :=
  Form.Governs.model fun _ _ h => ofMembers_congr h apart fun _ hf => hf

end FieldRule

/-! ### Rules for the pages of a chapter -/

namespace ArrayRule

/-- The fields of a rule. -/
def fields : List (FieldKey × Form) :=
  [(variableNamesKey, .whole), (scriptMatchKey, .whole), (matchPatternKey, .whole)]

/-- The form of a rule. -/
def form : Form := .model fields

/-- The fields of a rule with their values. -/
def values (r : ArrayRule) : List (FieldKey × Json) :=
  [(variableNamesKey, .array (r.variableNames.map .string)), (scriptMatchKey, .string r.scriptMatch),
    (matchPatternKey, .ofString? r.matchPattern)]

lemma apart : (fields.map (·.1)).Pairwise Apart := by decide

lemma check_writeAll (r : ArrayRule) (naming : Naming) {all : List (FieldKey × Json)}
    (hapart : (all.map (·.1)).Pairwise Apart) (hall : ∀ f ∈ r.values, f ∈ all) :
    check (.object (writeAll naming all)) = .ok r := by
  simp only [values, List.forall_mem_cons] at hall
  obtain ⟨hnames, hmatch, hpattern, -⟩ := hall
  simp only [check, Check.model, Check.fields]
  rw [read_writeAll hapart Check.reads_strings hnames,
    read_writeAll hapart Check.reads_string hmatch,
    read_writeAll hapart Check.reads_ofString? hpattern]
  rfl

lemma reads_toJson (naming : Naming) : check.Reads (toJson naming) := by
  intro r
  show check (.object (writeAll naming r.values)) = .ok r
  exact check_writeAll r naming apart fun _ hf => hf

lemma governs_check : form.Governs check := by
  apply Form.Governs.model
  intro ms ms' h
  rw [h.read_eq apart (Form.governs_whole _) (by simp [fields]),
    h.read_eq apart (Form.governs_whole _) (by simp [fields]),
    h.read_eq apart (Form.governs_whole _) (by simp [fields])]

end ArrayRule

namespace PageRule

/-- The fields of a rule: those of a rule for a field, and some more. -/
def fields : List (FieldKey × Form) :=
  FieldRule.fields ++ [(arrayVarKey, ArrayRule.form), (selectorsKey, .whole)]

/-- The form of a rule. -/
def form : Form := .model fields

/-- The fields of a rule with their values. -/
def values (naming : Naming) (r : PageRule) : List (FieldKey × Json) :=
  r.toFieldRule.values ++
    [(arrayVarKey, writeOptional (ArrayRule.toJson naming) r.arrayVar),
      (selectorsKey, .array (r.selectors.map .string))]

lemma apart : (fields.map (·.1)).Pairwise Apart := by decide

lemma check_writeAll (r : PageRule) (naming : Naming) {all : List (FieldKey × Json)}
    (hapart : (all.map (·.1)).Pairwise Apart) (hall : ∀ f ∈ r.values naming, f ∈ all) :
    check (.object (writeAll naming all)) = .ok r := by
  have harray := (ArrayRule.reads_toJson naming).optional fun _ => rfl
  have hrule : ∀ f ∈ r.toFieldRule.values, f ∈ all := fun f hf =>
    hall f (List.mem_append_left _ hf)
  have hmore := fun f hf => hall f (List.mem_append_right r.toFieldRule.values hf)
  simp only [List.forall_mem_cons] at hmore
  obtain ⟨hvar, hselectors, -⟩ := hmore
  simp only [check, Check.model, Check.fields]
  rw [FieldRule.ofMembers_writeAll r.toFieldRule naming hapart hrule,
    read_writeAll hapart harray hvar,
    read_writeAll hapart Check.reads_strings hselectors]
  rfl

lemma reads_toJson (naming : Naming) : check.Reads (toJson naming) := by
  intro r
  show check (.object (writeAll naming (r.values naming))) = .ok r
  exact check_writeAll r naming apart fun _ hf => hf

lemma governs_check : form.Governs check := by
  apply Form.Governs.model
  intro ms ms' h
  rw [FieldRule.ofMembers_congr h apart (by simp +contextual [fields]),
    h.read_eq apart ArrayRule.governs_check.optional (by simp [fields]),
    h.read_eq apart (Form.governs_whole _) (by simp [fields])]

end PageRule

/-! ### Rules for profiles -/

namespace ProfileRules

/-- The fields of the rules. -/
def fields : List (FieldKey × Form) :=
  [(urlKey, FieldRule.form), (imageKey, FieldRule.form), (nameKey, FieldRule.form),
    (descriptionKey, FieldRule.form), (genresKey, FieldRule.form), (mangaIdKey, FieldRule.form),
    (chaptersKey, FieldRule.form), (pageImageKey, PageRule.form)]

/-- The form of the rules. -/
def form : Form := .model fields

/-- The fields of the rules with their values. -/
def values (naming : Naming) (r : ProfileRules) : List (FieldKey × Json) :=
  let rule (f : Option FieldRule) : Json := writeOptional (FieldRule.toJson naming) f
  [(urlKey, rule r.url), (imageKey, rule r.image), (nameKey, rule r.name),
    (descriptionKey, rule r.description), (genresKey, rule r.genres), (mangaIdKey, rule r.mangaId),
    (chaptersKey, r.chapters.toJson naming),
    (pageImageKey, writeOptional (PageRule.toJson naming) r.pageImage)]

lemma apart : (fields.map (·.1)).Pairwise Apart := by decide

lemma check_writeAll (r : ProfileRules) (naming : Naming) {all : List (FieldKey × Json)}
    (hapart : (all.map (·.1)).Pairwise Apart) (hall : ∀ f ∈ r.values naming, f ∈ all) :
    check (.object (writeAll naming all)) = .ok r := by
  have hrule := (FieldRule.reads_toJson naming).optional fun _ => rfl
  have hpage := (PageRule.reads_toJson naming).optional fun _ => rfl
  simp only [values, List.forall_mem_cons] at hall
  obtain ⟨hurl, himage, hname, hdescription, hgenres, hid, hchapters, hpages, -⟩ := hall
  simp only [check, Check.model, Check.fields]
  rw [read_writeAll hapart hrule hurl, read_writeAll hapart hrule himage,
    read_writeAll hapart hrule hname, read_writeAll hapart hrule hdescription,
    read_writeAll hapart hrule hgenres, read_writeAll hapart hrule hid,
    require_writeAll hapart (FieldRule.reads_toJson naming) hchapters,
    read_writeAll hapart hpage hpages]
  rfl

lemma reads_toJson (naming : Naming) : check.Reads (toJson naming) := by
  intro r
  show check (.object (writeAll naming (r.values naming))) = .ok r
  exact check_writeAll r naming apart fun _ hf => hf

lemma governs_check : form.Governs check := by
  have hrule := FieldRule.governs_check.optional
  apply Form.Governs.model
  intro ms ms' h
  rw [h.read_eq apart hrule (by simp [fields]), h.read_eq apart hrule (by simp [fields]),
    h.read_eq apart hrule (by simp [fields]), h.read_eq apart hrule (by simp [fields]),
    h.read_eq apart hrule (by simp [fields]), h.read_eq apart hrule (by simp [fields]),
    h.require_eq apart FieldRule.governs_check (by simp [fields]),
    h.read_eq apart PageRule.governs_check.optional (by simp [fields])]

end ProfileRules

namespace IdSubstitution

/-- The fields of a replacement. -/
def fields : List (FieldKey × Form) :=
  [(patternKey, .whole), (templateKey, .whole)]

/-- The form of a replacement. -/
def form : Form := .model fields

/-- The fields of a replacement with their values. -/
def values (r : IdSubstitution) : List (FieldKey × Json) :=
  [(patternKey, .string r.pattern), (templateKey, .string r.template)]

lemma apart : (fields.map (·.1)).Pairwise Apart := by decide

lemma check_writeAll (r : IdSubstitution) (naming : Naming) {all : List (FieldKey × Json)}
    (hapart : (all.map (·.1)).Pairwise Apart) (hall : ∀ f ∈ r.values, f ∈ all) :
    check (.object (writeAll naming all)) = .ok r := by
  simp only [values, List.forall_mem_cons] at hall
  obtain ⟨hpattern, htemplate, -⟩ := hall
  simp only [check, Check.model, Check.fields]
  rw [require_writeAll hapart Check.reads_string hpattern,
    read_writeAll hapart Check.reads_string htemplate]
  rfl

lemma reads_toJson (naming : Naming) : check.Reads (toJson naming) := by
  intro r
  show check (.object (writeAll naming r.values)) = .ok r
  exact check_writeAll r naming apart fun _ hf => hf

lemma governs_check : form.Governs check := by
  apply Form.Governs.model
  intro ms ms' h
  rw [h.require_eq apart (Form.governs_whole _) (by simp [fields]),
    h.read_eq apart (Form.governs_whole _) (by simp [fields])]

end IdSubstitution

namespace ProfilePage

/-- The fields of a profile page. -/
def fields : List (FieldKey × Form) :=
  [(urlPatternKey, .whole), (replaceKey, IdSubstitution.form), (targetKey, ProfileRules.form)]

/-- The form of a profile page. -/
def form : Form := .model fields

/-- The fields of a profile page with their values. -/
def values (naming : Naming) (p : ProfilePage) : List (FieldKey × Json) :=
  [(urlPatternKey, .string p.urlPattern),
    (replaceKey, writeOptional (IdSubstitution.toJson naming) p.replace),
    (targetKey, p.target.toJson naming)]

lemma apart : (fields.map (·.1)).Pairwise Apart := by decide

lemma check_writeAll (p : ProfilePage) (naming : Naming) {all : List (FieldKey × Json)}
    (hapart : (all.map (·.1)).Pairwise Apart) (hall : ∀ f ∈ p.values naming, f ∈ all) :
    check (.object (writeAll naming all)) = .ok p := by
  have hsubstitution := (IdSubstitution.reads_toJson naming).optional fun _ => rfl
  simp only [values, List.forall_mem_cons] at hall
  obtain ⟨hpattern, hreplace, htarget, -⟩ := hall
  simp only [check, Check.model, Check.fields]
  rw [require_writeAll hapart Check.reads_string hpattern,
    read_writeAll hapart hsubstitution hreplace,
    require_writeAll hapart (ProfileRules.reads_toJson naming) htarget]
  rfl

lemma reads_toJson (naming : Naming) : check.Reads (toJson naming) := by
  intro p
  show check (.object (writeAll naming (p.values naming))) = .ok p
  exact check_writeAll p naming apart fun _ hf => hf

lemma governs_check : form.Governs check := by
  apply Form.Governs.model
  intro ms ms' h
  rw [h.require_eq apart (Form.governs_whole _) (by simp [fields]),
    h.read_eq apart IdSubstitution.governs_check.optional (by simp [fields]),
    h.require_eq apart ProfileRules.governs_check (by simp [fields])]

end ProfilePage

/-! ### Sites and spiders -/

namespace SiteRules

/-- The fields of the rules. -/
def fields : List (FieldKey × Form) :=
  [(selectorKey, .whole), (profileLinkKey, FieldRule.form), (profileTargetKey, ProfileRules.form),
    (nameKey, FieldRule.form), (highlightTextKey, FieldRule.form), (descriptionKey, FieldRule.form),
    (genresKey, FieldRule.form), (imageKey, FieldRule.form), (mangaIdKey, FieldRule.form),
    (chaptersKey, FieldRule.form), (profileByIdKey, ProfilePage.form)]

/-- The form of the rules. -/
def form : Form := .model fields

/-- The fields of the rules with their values. -/
def values (naming : Naming) (r : SiteRules) : List (FieldKey × Json) :=
  let rule (f : Option FieldRule) : Json := writeOptional (FieldRule.toJson naming) f
  [(selectorKey, .ofString? r.selector), (profileLinkKey, rule r.profileLink),
    (profileTargetKey, writeOptional (ProfileRules.toJson naming) r.profileTarget),
    (nameKey, rule r.name), (highlightTextKey, rule r.highlightText),
    (descriptionKey, rule r.description), (genresKey, rule r.genres), (imageKey, rule r.image),
    (mangaIdKey, rule r.mangaId), (chaptersKey, rule r.chapters),
    (profileByIdKey, writeOptional (ProfilePage.toJson naming) r.profileById)]

lemma apart : (fields.map (·.1)).Pairwise Apart := by decide

lemma check_writeAll (r : SiteRules) (naming : Naming) {all : List (FieldKey × Json)}
    (hapart : (all.map (·.1)).Pairwise Apart) (hall : ∀ f ∈ r.values naming, f ∈ all) :
    check (.object (writeAll naming all)) = .ok r := by
  have hrule := (FieldRule.reads_toJson naming).optional fun _ => rfl
  have hrules := (ProfileRules.reads_toJson naming).optional fun _ => rfl
  have hpage := (ProfilePage.reads_toJson naming).optional fun _ => rfl
  simp only [values, List.forall_mem_cons] at hall
  obtain ⟨hselector, hlink, htarget, hname, hhighlight, hdescription, hgenres, himage, hid, hchapters,
    hprofile, -⟩ := hall
  simp only [check, Check.model, Check.fields]
  rw [read_writeAll hapart Check.reads_ofString? hselector,
    read_writeAll hapart hrule hlink, read_writeAll hapart hrules htarget,
    read_writeAll hapart hrule hname, read_writeAll hapart hrule hhighlight,
    read_writeAll hapart hrule hdescription, read_writeAll hapart hrule hgenres,
    read_writeAll hapart hrule himage, read_writeAll hapart hrule hid,
    read_writeAll hapart hrule hchapters, read_writeAll hapart hpage hprofile]
  rfl

lemma reads_toJson (naming : Naming) : check.Reads (toJson naming) := by
  intro r
  show check (.object (writeAll naming (r.values naming))) = .ok r
  exact check_writeAll r naming apart fun _ hf => hf

lemma governs_check : form.Governs check := by
  have hrule := FieldRule.governs_check.optional
  apply Form.Governs.model
  intro ms ms' h
  rw [h.read_eq apart (Form.governs_whole _) (by simp [fields]),
    h.read_eq apart hrule (by simp [fields]),
    h.read_eq apart ProfileRules.governs_check.optional (by simp [fields]),
    h.read_eq apart hrule (by simp [fields]), h.read_eq apart hrule (by simp [fields]),
    h.read_eq apart hrule (by simp [fields]), h.read_eq apart hrule (by simp [fields]),
    h.read_eq apart hrule (by simp [fields]), h.read_eq apart hrule (by simp [fields]),
    h.read_eq apart hrule (by simp [fields]),
    h.read_eq apart ProfilePage.governs_check.optional (by simp [fields])]

end SiteRules

namespace Spider

/-- The fields of a spider. -/
def fields : List (FieldKey × Form) :=
  [(idKey, .whole), (nameKey, .whole), (descriptionKey, .whole), (targetUrlKey, .whole),
    (siteKey, SiteRules.form)]

/-- The form of a spider. -/
def form : Form := .model fields

/-- The fields of a spider with their values. -/
def values (naming : Naming) (s : Spider) : List (FieldKey × Json) :=
  [(idKey, .string s.id), (nameKey, .string s.name), (descriptionKey, .ofString? s.description),
    (targetUrlKey, .string s.targetUrl), (siteKey, writeOptional (SiteRules.toJson naming) s.site)]

lemma apart : (fields.map (·.1)).Pairwise Apart := by decide

lemma check_writeAll (s : Spider) (naming : Naming) {all : List (FieldKey × Json)}
    (hapart : (all.map (·.1)).Pairwise Apart) (hall : ∀ f ∈ s.values naming, f ∈ all) :
    check (.object (writeAll naming all)) = .ok s := by
  have hrules := (SiteRules.reads_toJson naming).optional fun _ => rfl
  simp only [values, List.forall_mem_cons] at hall
  obtain ⟨hid, hname, hdescription, hurl, hsite, -⟩ := hall
  simp only [check, Check.model, Check.fields]
  rw [require_writeAll hapart Check.reads_string hid,
    require_writeAll hapart Check.reads_string hname,
    read_writeAll hapart Check.reads_ofString? hdescription,
    require_writeAll hapart Check.reads_string hurl,
    read_writeAll hapart hrules hsite]
  rfl

lemma reads_toJson (naming : Naming) : check.Reads (toJson naming) := by
  intro s
  show check (.object (writeAll naming (s.values naming))) = .ok s
  exact check_writeAll s naming apart fun _ hf => hf

lemma governs_check : form.Governs check := by
  apply Form.Governs.model
  intro ms ms' h
  rw [h.require_eq apart (Form.governs_whole _) (by simp [fields]),
    h.require_eq apart (Form.governs_whole _) (by simp [fields]),
    h.read_eq apart (Form.governs_whole _) (by simp [fields]),
    h.require_eq apart (Form.governs_whole _) (by simp [fields]),
    h.read_eq apart SiteRules.governs_check.optional (by simp [fields])]

/-- Added members change neither the spider that is read nor the issues. -/
lemma check_of_adds {p p' : Json} (h : Relation.ReflTransGen form.Adds p p') : check p' = check p := by
  induction h with
  | refl => rfl
  | tail _ hlast ih => exact (governs_check _ _ hlast).trans ih

/-- A document that is read as a spider. The spider is read again from what is written of it, under
the plain names of all fields as under their names in documents. And it is read from the document
whatever members are added there, in the spider itself or in any model inside it, under names that no
field of the model has. -/
theorem check_written {p : Json} {s : Spider} (h : check p = .ok s) :
    (∀ naming, check (s.toJson naming) = .ok s) ∧
    ∀ p', Relation.ReflTransGen form.Adds p p' → check p' = .ok s := by
  refine ⟨fun naming => reads_toJson naming s, fun p' hadds => ?_⟩
  rw [check_of_adds hadds, h]

/-- A spider whose profile page is described in parts under plain names, with what stands for the
rule of its chapters. -/
def documentAround (chapters : List (String × Json)) (more : List (String × Json)) : Json :=
  .object ([("id", .string "a"), ("name", .string "A"), ("targetUrl", .string "http://a.test"),
    ("item_config", .object [("profileById", .object [("url_pattern", .string "http://a.test/m"),
      ("replace", .object [("pattern", .string "x"), ("with_", .string "y")]),
      ("ProfileTarget", .object [("Chapters", .object chapters)])])])] ++ more)

/-- The spider of such a document, its chapters being links of some class, newest first. -/
def documented : Spider where
  id := "a"
  name := "A"
  description := none
  targetUrl := "http://a.test"
  site := some
    { selector := none, profileLink := none, profileTarget := none, name := none,
      highlightText := none, description := none, genres := none, image := none, mangaId := none,
      chapters := none,
      profileById := some
        { urlPattern := "http://a.test/m"
          replace := some ⟨"x", "y"⟩
          target :=
            { url := none, image := none, name := none, description := none, genres := none,
              mangaId := none, pageImage := none
              chapters := ⟨some "a.c", none, true, false, false, none, some .newestFirst⟩ } } }

/-- The rule of the chapters as it stands in the document. -/
def documentedChapters : List (String × Json) :=
  [("selector", .string "a.c"), ("text", .string "Yes"), ("arranger", .string "newestFirst")]

/-- A comment beside the selector of the chapters and a token beside the spider are passed over. -/
theorem check_written_with_comment :
    check (documentAround documentedChapters []) = .ok documented ∧
    check (documented.toJson .plain) = .ok documented ∧
    check (documentAround (("comment", .null) :: documentedChapters) [("token", .int 1)]) =
      .ok documented := by
  have hread : check (documentAround documentedChapters []) = .ok documented := by rfl
  obtain ⟨hwritten, hadded⟩ := check_written hread
  refine ⟨hread, hwritten .plain, hadded _ ?_⟩
  have hcomment : form.Adds (documentAround documentedChapters [])
      (documentAround (("comment", .null) :: documentedChapters) []) := by
    refine .inside [("id", .string "a"), ("name", .string "A"),
      ("targetUrl", .string "http://a.test")] [] rfl ?_
    refine .inside [] [] rfl ?_
    refine .inside [("url_pattern", .string "http://a.test/m"),
      ("replace", .object [("pattern", .string "x"), ("with_", .string "y")])] [] rfl ?_
    refine .inside [] [] rfl ?_
    exact .here [] documentedChapters .null rfl
  have htoken : form.Adds (documentAround (("comment", .null) :: documentedChapters) [])
      (documentAround (("comment", .null) :: documentedChapters) [("token", .int 1)]) :=
    .here _ [] (.int 1) rfl
  exact .tail (.single hcomment) htoken

end Spider

end MangaShelf.Config
