import MangaShelf.Config.Check
import MangaShelf.Text.Percent

/-!
# Extraction rules

What a spider document says about one site: where its pages are and which rule reads each field
from a page. Every model is read from a JSON document and can be written back under either of the
two names of its fields.
-/

namespace MangaShelf.Config

/-- The order in which a list is handed on. -/
inductive Arranger where
  | newestFirst
  | oldestFirst
  deriving DecidableEq, Repr

namespace Arranger

/-- The word for an order. -/
def word : Arranger → String
  | .newestFirst => "newestFirst"
  | .oldestFirst => "oldestFirst"

/-- The order that a word names. -/
def ofWord? (s : String) : Option Arranger :=
  if s = "newestFirst" then some .newestFirst
  else if s = "oldestFirst" then some .oldestFirst
  else none

/-- An order in a document. -/
def check (v : Json) : Checked Arranger :=
  match v.asString?.bind ofWord? with
  | some a => .ok a
  | none => .refuse (.notOneOf ["newestFirst", "oldestFirst"])

end Arranger

/-- How one field is read from a page. -/
structure FieldRule where
  /-- Selects the candidates; without it the context itself is the candidate. -/
  selector : Option String
  attr : Option String
  text : Bool
  multiple : Bool
  parsesJson : Bool
  jsonPath : Option String
  arranger : Option Arranger
  deriving DecidableEq, Repr

namespace FieldRule

/-- The rule that says nothing. -/
def empty : FieldRule :=
  ⟨none, none, false, false, false, none, none⟩

/-- The keys of a rule. -/
def selectorKey : FieldKey := .same "selector"
def attributeKey : FieldKey := .same "attribute"
def textKey : FieldKey := .same "text"
def multipleKey : FieldKey := .same "multiple"
def parsesJsonKey : FieldKey := ⟨"parse_script_json", "parseScriptJson"⟩
def jsonPathKey : FieldKey := ⟨"json_path", "jsonPath"⟩
def arrangerKey : FieldKey := .same "arranger"

/-- A rule from the members of a document. -/
def ofMembers (ms : List (String × Json)) : Checked FieldRule :=
  FieldRule.mk <$> selectorKey.read none (.optional .string) ms
    <*> attributeKey.read none (.optional .string) ms
    <*> textKey.read false .bool ms
    <*> multipleKey.read false .bool ms
    <*> parsesJsonKey.read false .bool ms
    <*> jsonPathKey.read none (.optional .string) ms
    <*> arrangerKey.read none (.optional Arranger.check) ms

/-- A rule from a document. -/
def check : Check FieldRule :=
  .model "SelectorSpec" ofMembers

/-- The members of a written rule. -/
def members (naming : Naming) (r : FieldRule) : List (String × Json) :=
  [selectorKey.write naming (.ofString? r.selector),
    attributeKey.write naming (.ofString? r.attr),
    textKey.write naming (.bool r.text),
    multipleKey.write naming (.bool r.multiple),
    parsesJsonKey.write naming (.bool r.parsesJson),
    jsonPathKey.write naming (.ofString? r.jsonPath),
    arrangerKey.write naming (.ofString? (r.arranger.map Arranger.word))]

/-- A written rule. -/
def toJson (naming : Naming) (r : FieldRule) : Json :=
  .object (r.members naming)

/-- The rule says itself how a value is taken from a candidate. -/
def isExplicit (r : FieldRule) : Bool :=
  r.text || (r.attr.getD "" != "") || r.parsesJson

/-- How a value is taken from a candidate when the rule does not say it. -/
structure Extraction where
  text : Option Bool := none
  attr : Option (Option String) := none

/-- Whatever a rule says, the form that a field needs. -/
structure Shape where
  multiple : Option Bool := none
  text : Option Bool := none

/-- The rule for a field of a known kind: a default way to take the value, used only when the
rule is not explicit, and then the form that the field needs. -/
def prepared (r : FieldRule) (extraction : Extraction) (shape : Shape) : FieldRule :=
  let r :=
    if r.isExplicit then r
    else
      { r with
        text := extraction.text.getD r.text
        attr := extraction.attr.getD r.attr }
  { r with
    multiple := shape.multiple.getD r.multiple
    text := shape.text.getD r.text }

end FieldRule

/-- Where a list of addresses is assigned to a variable inside a script. -/
structure ArrayRule where
  variableNames : List String
  /-- Words that the script must contain. -/
  scriptMatch : String
  matchPattern : Option String
  deriving DecidableEq, Repr

namespace ArrayRule

def variableNamesKey : FieldKey := ⟨"variable_names", "variableNames"⟩
def scriptMatchKey : FieldKey := ⟨"script_match", "scriptMatch"⟩
def matchPatternKey : FieldKey := ⟨"match_pattern", "matchPattern"⟩

/-- A rule from a document. -/
def check : Check ArrayRule :=
  .model "ArrayVarSpec" fun ms =>
    ArrayRule.mk <$> variableNamesKey.read [] (.list .string) ms
      <*> scriptMatchKey.read "" .string ms
      <*> matchPatternKey.read none (.optional .string) ms

/-- A written rule. -/
def toJson (naming : Naming) (r : ArrayRule) : Json :=
  .object [variableNamesKey.write naming (.array (r.variableNames.map .string)),
    scriptMatchKey.write naming (.string r.scriptMatch),
    matchPatternKey.write naming (.ofString? r.matchPattern)]

end ArrayRule

/-- An optional part, or null. -/
def writeOptional {α : Type} (write : α → Json) : Option α → Json
  | none => .null
  | some a => write a

/-- How the page images of a chapter are found: in a script, or else by selectors. -/
structure PageRule extends FieldRule where
  arrayVar : Option ArrayRule
  selectors : List String
  deriving DecidableEq, Repr

namespace PageRule

def arrayVarKey : FieldKey := ⟨"array_var", "arrayVar"⟩
def selectorsKey : FieldKey := .same "selectors"

/-- A rule from a document. -/
def check : Check PageRule :=
  .model "PageImageSpec" fun ms =>
    PageRule.mk <$> FieldRule.ofMembers ms
      <*> arrayVarKey.read none (.optional ArrayRule.check) ms
      <*> selectorsKey.read [] (.list .string) ms

/-- A written rule. -/
def toJson (naming : Naming) (r : PageRule) : Json :=
  .object (r.toFieldRule.members naming ++
    [arrayVarKey.write naming (writeOptional (ArrayRule.toJson naming) r.arrayVar),
      selectorsKey.write naming (.array (r.selectors.map .string))])

/-- The rule adapted to a field of a known kind. -/
def prepared (r : PageRule) (extraction : FieldRule.Extraction) (shape : FieldRule.Shape) :
    PageRule :=
  { r with toFieldRule := r.toFieldRule.prepared extraction shape }

/-- The selectors tried on the page, in order: all images when none is given. -/
def candidates (r : PageRule) : List String :=
  let own :=
    match r.selector with
    | some s => if s = "" then [] else [s]
    | none => []
  match own ++ r.selectors with
  | [] => ["img"]
  | selectors => selectors

end PageRule

/-- The fields that rules can be given for. -/
inductive Field where
  | url
  | image
  | name
  | description
  | genres
  | mangaId
  | chapters
  deriving DecidableEq, Repr

/-- The rules for the profile page of a manga. -/
structure ProfileRules where
  url : Option FieldRule
  image : Option FieldRule
  name : Option FieldRule
  description : Option FieldRule
  genres : Option FieldRule
  mangaId : Option FieldRule
  chapters : FieldRule
  pageImage : Option PageRule
  deriving DecidableEq, Repr

namespace ProfileRules

def urlKey : FieldKey := ⟨"url", "Url"⟩
def imageKey : FieldKey := ⟨"image", "Image"⟩
def nameKey : FieldKey := ⟨"name", "Name"⟩
def descriptionKey : FieldKey := ⟨"description", "Description"⟩
def genresKey : FieldKey := ⟨"genres", "Genres"⟩
def mangaIdKey : FieldKey := ⟨"manga_id", "MangaID"⟩
def chaptersKey : FieldKey := ⟨"chapters", "Chapters"⟩
def pageImageKey : FieldKey := ⟨"page_image", "PageImage"⟩

/-- The rules from a document. -/
def check : Check ProfileRules :=
  .model "ProfileTarget" fun ms =>
    ProfileRules.mk <$> urlKey.read none (.optional FieldRule.check) ms
      <*> imageKey.read none (.optional FieldRule.check) ms
      <*> nameKey.read none (.optional FieldRule.check) ms
      <*> descriptionKey.read none (.optional FieldRule.check) ms
      <*> genresKey.read none (.optional FieldRule.check) ms
      <*> mangaIdKey.read none (.optional FieldRule.check) ms
      <*> chaptersKey.require FieldRule.check ms
      <*> pageImageKey.read none (.optional PageRule.check) ms

/-- The written rules. -/
def toJson (naming : Naming) (r : ProfileRules) : Json :=
  let rule (f : Option FieldRule) : Json := writeOptional (FieldRule.toJson naming) f
  .object [urlKey.write naming (rule r.url),
    imageKey.write naming (rule r.image),
    nameKey.write naming (rule r.name),
    descriptionKey.write naming (rule r.description),
    genresKey.write naming (rule r.genres),
    mangaIdKey.write naming (rule r.mangaId),
    chaptersKey.write naming (r.chapters.toJson naming),
    pageImageKey.write naming (writeOptional (PageRule.toJson naming) r.pageImage)]

/-- The rule for a field; the link of the profile stands in for a missing id. -/
def rule (r : ProfileRules) : Field → Option FieldRule
  | .url => r.url
  | .image => r.image
  | .name => r.name
  | .description => r.description
  | .genres => r.genres
  | .mangaId =>
    match r.mangaId with
    | some found => some found
    | none => r.url
  | .chapters => some r.chapters

end ProfileRules

/-- A replacement made in an id before it enters an address. -/
structure IdSubstitution where
  pattern : String
  template : String
  deriving DecidableEq, Repr

namespace IdSubstitution

def patternKey : FieldKey := .same "pattern"
def templateKey : FieldKey := ⟨"with_", "with"⟩

/-- A replacement from a document. -/
def check : Check IdSubstitution :=
  .model "IdReplacement" fun ms =>
    IdSubstitution.mk <$> patternKey.require .string ms <*> templateKey.read "" .string ms

/-- A written replacement. -/
def toJson (naming : Naming) (r : IdSubstitution) : Json :=
  .object [patternKey.write naming (.string r.pattern),
    templateKey.write naming (.string r.template)]

end IdSubstitution

/-- Where the profile page of a manga is, and how it is read. -/
structure ProfilePage where
  urlPattern : String
  replace : Option IdSubstitution
  target : ProfileRules
  deriving DecidableEq, Repr

namespace ProfilePage

def urlPatternKey : FieldKey := ⟨"url_pattern", "urlPattern"⟩
def replaceKey : FieldKey := .same "replace"
def targetKey : FieldKey := ⟨"profile_target", "ProfileTarget"⟩

/-- A profile page from a document. -/
def check : Check ProfilePage :=
  .model "ProfileById" fun ms =>
    ProfilePage.mk <$> urlPatternKey.require .string ms
      <*> replaceKey.read none (.optional IdSubstitution.check) ms
      <*> targetKey.require ProfileRules.check ms

/-- A written profile page. -/
def toJson (naming : Naming) (p : ProfilePage) : Json :=
  .object [urlPatternKey.write naming (.string p.urlPattern),
    replaceKey.write naming (writeOptional (IdSubstitution.toJson naming) p.replace),
    targetKey.write naming (p.target.toJson naming)]

end ProfilePage

/-- The rules for search results and profiles of one site. -/
structure SiteRules where
  selector : Option String
  profileLink : Option FieldRule
  profileTarget : Option ProfileRules
  name : Option FieldRule
  highlightText : Option FieldRule
  description : Option FieldRule
  genres : Option FieldRule
  image : Option FieldRule
  mangaId : Option FieldRule
  chapters : Option FieldRule
  profileById : Option ProfilePage
  deriving DecidableEq, Repr

namespace SiteRules

def selectorKey : FieldKey := .same "selector"
def profileLinkKey : FieldKey := ⟨"profile_link", "ProfileLink"⟩
def profileTargetKey : FieldKey := ⟨"profile_target", "ProfileTarget"⟩
def nameKey : FieldKey := ⟨"name", "Name"⟩
def highlightTextKey : FieldKey := ⟨"highlight_text", "HighlightText"⟩
def descriptionKey : FieldKey := ⟨"description", "Description"⟩
def genresKey : FieldKey := ⟨"genres", "Genres"⟩
def imageKey : FieldKey := ⟨"image", "Image"⟩
def mangaIdKey : FieldKey := ⟨"manga_id", "MangaID"⟩
def chaptersKey : FieldKey := ⟨"chapters", "Chapters"⟩
def profileByIdKey : FieldKey := ⟨"profile_by_id", "profileById"⟩

/-- The rules from a document. -/
def check : Check SiteRules :=
  .model "ItemConfig" fun ms =>
    SiteRules.mk <$> selectorKey.read none (.optional .string) ms
      <*> profileLinkKey.read none (.optional FieldRule.check) ms
      <*> profileTargetKey.read none (.optional ProfileRules.check) ms
      <*> nameKey.read none (.optional FieldRule.check) ms
      <*> highlightTextKey.read none (.optional FieldRule.check) ms
      <*> descriptionKey.read none (.optional FieldRule.check) ms
      <*> genresKey.read none (.optional FieldRule.check) ms
      <*> imageKey.read none (.optional FieldRule.check) ms
      <*> mangaIdKey.read none (.optional FieldRule.check) ms
      <*> chaptersKey.read none (.optional FieldRule.check) ms
      <*> profileByIdKey.read none (.optional ProfilePage.check) ms

/-- The written rules. -/
def toJson (naming : Naming) (r : SiteRules) : Json :=
  let rule (f : Option FieldRule) : Json := writeOptional (FieldRule.toJson naming) f
  .object [selectorKey.write naming (.ofString? r.selector),
    profileLinkKey.write naming (rule r.profileLink),
    profileTargetKey.write naming (writeOptional (ProfileRules.toJson naming) r.profileTarget),
    nameKey.write naming (rule r.name),
    highlightTextKey.write naming (rule r.highlightText),
    descriptionKey.write naming (rule r.description),
    genresKey.write naming (rule r.genres),
    imageKey.write naming (rule r.image),
    mangaIdKey.write naming (rule r.mangaId),
    chaptersKey.write naming (rule r.chapters),
    profileByIdKey.write naming (writeOptional (ProfilePage.toJson naming) r.profileById)]

/-- The rule that search results have for a field of their own. -/
def ownRule (r : SiteRules) : Field → Option FieldRule
  | .url => none
  | .image => r.image
  | .name => r.name
  | .description => r.description
  | .genres => r.genres
  | .mangaId => r.mangaId
  | .chapters => r.chapters

/-- The rule that stands in for a missing one: the profile link for the id, the highlighted text
for the description. -/
def standIn (r : SiteRules) : Field → Option FieldRule
  | .mangaId => r.profileLink
  | .description => r.highlightText
  | _ => none

/-- The rule for a field of a search result: its own, its stand-in, or that of the profile. -/
def searchRule (r : SiteRules) (field : Field) : Option FieldRule :=
  match r.ownRule field with
  | some own => some own
  | none =>
    match r.standIn field with
    | some other => some other
    | none => r.profileTarget.bind (·.rule field)

end SiteRules

/-- The document of one spider. -/
structure Spider where
  id : String
  name : String
  description : Option String
  targetUrl : String
  site : Option SiteRules
  deriving DecidableEq, Repr

namespace Spider

def idKey : FieldKey := .same "id"
def nameKey : FieldKey := .same "name"
def descriptionKey : FieldKey := .same "description"
def targetUrlKey : FieldKey := ⟨"target_url", "targetUrl"⟩
def siteKey : FieldKey := ⟨"item_config", "itemConfig"⟩

/-- A spider from a document. -/
def check : Check Spider :=
  .model "SpiderConfig" fun ms =>
    Spider.mk <$> idKey.require .string ms
      <*> nameKey.require .string ms
      <*> descriptionKey.read none (.optional .string) ms
      <*> targetUrlKey.require .string ms
      <*> siteKey.read none (.optional SiteRules.check) ms

/-- A written spider. -/
def toJson (naming : Naming) (s : Spider) : Json :=
  .object [idKey.write naming (.string s.id),
    nameKey.write naming (.string s.name),
    descriptionKey.write naming (.ofString? s.description),
    targetUrlKey.write naming (.string s.targetUrl),
    siteKey.write naming (writeOptional (SiteRules.toJson naming) s.site)]

/-- The place in an address template that a query takes. -/
def queryMark : String := "\x7bquery\x7d"

/-- The address of the search page for a query. -/
def searchUrl (s : Spider) (query : String) : String :=
  Text.replaceAll s.targetUrl queryMark (Text.encodeComponent query)

end Spider

end MangaShelf.Config
