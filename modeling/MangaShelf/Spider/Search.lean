import MangaShelf.Fetch.Source
import MangaShelf.Markup.Document
import MangaShelf.Record.Assembly

/-!
# Searching a site

The records of all hits on the search page of a site.
-/

namespace MangaShelf

open Config (SiteRules Spider)
open Extraction (Subject)

/-- Why a search has no results. -/
inductive SearchWarning where
  | invalidRules
  | fetchFailed
  | nothingFound
  deriving DecidableEq, Repr

/-- The wording of a warning. -/
def SearchWarning.message : SearchWarning → String
  | .invalidRules => "Invalid spider configuration"
  | .fetchFailed => "Failed to fetch HTML"
  | .nothingFound => "No matching content found"

/-- What a search finds: records, or a warning. -/
structure SearchResult where
  records : List Record
  warning : Option SearchWarning

/-- The records of the hits that a selector finds on a search page at the address `url`. -/
def hitsOn (site : SiteRules) (selector : String) (fields : List RequestField)
    (url html : String) : Except Failure (List Record) := do
  let page := Subject.ofPage (Markup.document html)
  let hits ← page.candidates (some selector)
  hits.mapM fun hit => Record.assemble hit site.searchRule fields url

/-- Search a site. -/
def Config.Spider.search (spider : Spider) (query : String) (fields : List RequestField) :
    Fetching SearchResult :=
  match spider.site with
  | none => return ⟨[], some .invalidRules⟩
  | some site =>
    match Extraction.given site.selector with
    | none => return ⟨[], some .invalidRules⟩
    | some selector => do
      let url := spider.searchUrl query
      match ← Fetching.text url with
      | none => return ⟨[], some .fetchFailed⟩
      | some html =>
        let records ← Fetching.lift (hitsOn site selector fields url html)
        return ⟨records, if records.isEmpty then some .nothingFound else none⟩

end MangaShelf
