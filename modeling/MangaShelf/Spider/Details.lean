import MangaShelf.Fetch.Source
import MangaShelf.Markup.Document
import MangaShelf.Record.Assembly
import MangaShelf.Spider.Profile

/-!
# Reading a profile

The record of one manga from its profile page.
-/

namespace MangaShelf

open Config (Spider)
open Extraction (Subject)

/-- The record on the profile page of a manga, if there is one. The id is the one that was asked
for, whatever the page says. -/
def Config.Spider.details (spider : Spider) (id : String) (fields : List RequestField) :
    Fetching (Option Record) :=
  match spider.site.bind (·.profileById) with
  | none => return none
  | some profilePage => do
    let url ← Fetching.lift (profilePage.findAddress id)
    match ← Fetching.text url with
    | none => return none
    | some html =>
      let record ← Fetching.lift
        (Record.assemble (Subject.ofPage (Markup.document html)) profilePage.target.rule
          (fields.filter (· ≠ .id)) url)
      return some (record.set .id (.string id))

end MangaShelf
