import MangaShelf.Command.Run
import MangaShelf.Config.Settings
import MangaShelf.Fetch.Session
import MangaShelf.Main
import MangaShelf.Proofs.Catalog.Batches
import MangaShelf.Proofs.Catalog.Departure
import MangaShelf.Proofs.Catalog.Framing
import MangaShelf.Proofs.Chapter.Address
import MangaShelf.Proofs.Chapter.Images
import MangaShelf.Proofs.Chapter.Isolation
import MangaShelf.Proofs.Chapter.Links
import MangaShelf.Proofs.Command.Agreement
import MangaShelf.Proofs.Config.Document
import MangaShelf.Proofs.Extraction.Embedded
import MangaShelf.Proofs.Extraction.Scope
import MangaShelf.Proofs.Extraction.Shape
import MangaShelf.Proofs.Fetch.Course
import MangaShelf.Proofs.Media.DataUri
import MangaShelf.Proofs.Record.Mishap
import MangaShelf.Proofs.Script.ArrayLiteral
import MangaShelf.Proofs.Store.Durability
import MangaShelf.Proofs.Url.Reference
import MangaShelf.Proofs.Web.Reading
import MangaShelf.Proofs.Web.Refusal
import MangaShelf.Proofs.Chapter.Scheme
import MangaShelf.Proofs.Record.Cleanup
import MangaShelf.Proofs.Record.Union
import MangaShelf.Proofs.Pattern.Leftmost
import MangaShelf.Proofs.Pattern.Template
import MangaShelf.Proofs.Spider.Profile
import MangaShelf.Proofs.Extraction.Sequence
import MangaShelf.Proofs.Command.Fields
import MangaShelf.Proofs.Spider.Search
import MangaShelf.Proofs.Fetch.Tenure
import MangaShelf.Proofs.Markup.Enclosed
