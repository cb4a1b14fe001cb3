import MangaShelf.Chapter.List
import MangaShelf.Chapter.Pages
import MangaShelf.Fetch.Source
import MangaShelf.Json.Limits
import MangaShelf.Markup.Document
import MangaShelf.Spider.Profile

/-!
# Resolving a chapter

Two pages lead to the images of a chapter: the profile of the manga has the list of its chapters,
and the page of the chapter has the images. Whatever cannot be found ends the way there with what is
known so far.
-/

namespace MangaShelf

open Config (FieldRule ProfilePage ProfileRules Spider)
open Extraction (Subject)

/-- The pages of a chapter with what a reader shows around them. -/
structure Resolution where
  pages : List Page
  chapterTitle : String
  mangaTitle : String
  /-- How many chapters there are, if the profile was read. -/
  chapterCount : Option Nat
  deriving DecidableEq, Repr

namespace Resolution

/-- Nothing is known. -/
def empty : Resolution :=
  ⟨[], "", "", none⟩

/-- A resolution as a value. -/
def toJson (r : Resolution) : Json :=
  .object [("pages", .array (r.pages.map Page.toJson)),
    ("chapter_title", .string r.chapterTitle),
    ("manga_title", .string r.mangaTitle),
    ("max_chapter_count", match r.chapterCount with
      | none => .null
      | some n => .int n)]

end Resolution

namespace Chapter

/-- Which chapter is wanted. -/
structure Wanted where
  number : Option Int
  /-- The address of the chapter; it counts more than a number. -/
  url : Option String
  deriving DecidableEq, Repr

/-- The page that an address asks for, as a subject. -/
def pageOf (html : String) : Subject :=
  .ofPage (Markup.document html)

/-- The title on a profile page; only a text is one. -/
def titleOn (page : Subject) (rules : ProfileRules) : Except Failure String :=
  match rules.name with
  | none => .ok ""
  | some rule => do
    let v ← Extraction.extract page
      (rule.prepared { text := some true } { multiple := some false })
    return v.asString?.getD ""

/-- What a profile page says: the title of the manga and its chapters. -/
structure Profile where
  title : String
  chapters : List Chapter
  deriving DecidableEq, Repr

/-- Read a profile page at the address `base`. -/
def readProfile (rules : ProfileRules) (base html : String) : Except Failure Profile := do
  let page := pageOf html
  let title ← titleOn page rules
  return ⟨title, ← collect page (some rules.chapters) base⟩

/-- The name of a chapter without a title. -/
def fallbackTitle (number : Int) : String :=
  "Chapter " ++ toString number

/-- The name of a chapter that is not in the list. Its number may be one that cannot be written. -/
def unlistedTitle (number : Int) : Except Failure String :=
  if Json.isOverlong (.int number) then .error .tooManyDigits else .ok (fallbackTitle number)

/-- The title of a chapter, or its number. -/
def shownTitle (c : Chapter) : String :=
  if c.title = "" then fallbackTitle c.number else c.title

/-- What is known of the chapter that is wanted: its title, and its address if it is found. -/
structure Aim where
  title : String
  url : Option String
  deriving DecidableEq, Repr

/-- Find the wanted chapter among the chapters of the profile at the address `base`. -/
def aim (base : String) (chapters : List Chapter) (wanted : Wanted) : Except Failure Aim :=
  match Extraction.given wanted.url with
  | some url => do
    let target ← absolute url base
    match chapters.find? (·.url = target) with
    | some c => return ⟨c.shownTitle, some target⟩
    | none => return ⟨"", some target⟩
  | none =>
    match wanted.number with
    | none => .ok ⟨"", none⟩
    | some n =>
      match if n < 1 then none else chapters[n.toNat - 1]? with
      | none => do return ⟨← unlistedTitle n, none⟩
      | some c => .ok ⟨c.shownTitle, some c.url⟩

/-- Fetch the page of the chapter and read its images. -/
def finish (read : Script.ArrayReader) (rules : ProfileRules) (r : Resolution) (aim : Aim) :
    Fetching Resolution := do
  let r := { r with chapterTitle := aim.title }
  match aim.url with
  | none => return r
  | some url =>
    match ← Fetching.text url with
    | none => return r
    | some html =>
      return { r with pages := ← Fetching.lift (Page.collect read (pageOf html) rules.pageImage) }

/-- Resolve a chapter of a manga on a site with a profile page. Without an id there is no profile
to read; when the profile is missing, only an address leads further. -/
def resolveAt (read : Script.ArrayReader) (profilePage : ProfilePage) (id : Option String)
    (wanted : Wanted) : Fetching Resolution := do
  let rules := profilePage.target
  match Extraction.given id with
  | none =>
    finish read rules .empty (← Fetching.lift (aim "" [] wanted))
  | some id => do
    let base ← Fetching.lift (profilePage.findAddress id)
    match ← Fetching.text base with
    | none =>
      if (Extraction.given wanted.url).isNone then return .empty
      else finish read rules .empty (← Fetching.lift (aim base [] wanted))
    | some html =>
      let profile ← Fetching.lift (readProfile rules base html)
      let r : Resolution :=
        { Resolution.empty with
          mangaTitle := profile.title
          chapterCount := some profile.chapters.length }
      finish read rules r (← Fetching.lift (aim base profile.chapters wanted))

/-- Resolve a chapter of a manga. -/
def resolve (read : Script.ArrayReader) (spider : Spider) (id : Option String) (wanted : Wanted) :
    Fetching Resolution :=
  match spider.site.bind (·.profileById) with
  | none => return .empty
  | some profilePage => resolveAt read profilePage id wanted

end Chapter

end MangaShelf
