import MangaShelf.Chapter.Resolution
import MangaShelf.Config.Address
import MangaShelf.Record.RequestField

/-!
# Messages

The bodies of requests and answers, and how they are checked.
-/

namespace MangaShelf.Web

open Config

/-- A request to register a connection. -/
structure Registration where
  url : String
  deriving DecidableEq, Repr

namespace Registration

def urlKey : FieldKey := ⟨"connection_url", "connectionUrl"⟩

/-- A registration from the members of a document. -/
def ofMembers (ms : List (String × Json)) : Checked Registration :=
  Registration.mk <$> urlKey.require .connection ms

/-- A registration from a document. -/
def check : Check Registration :=
  .model "RegisterRequest" ofMembers

/-- A written registration. -/
def toJson (r : Registration) : Json :=
  .object [urlKey.write .plain (.string r.url)]

end Registration

/-- A request for one manga. -/
structure MangaQuery where
  mangaId : String
  spiderId : String
  fields : Option (List RequestField)
  deriving DecidableEq, Repr

namespace MangaQuery

def mangaIdKey : FieldKey := .same "manga_id"
def spiderIdKey : FieldKey := ⟨"spider_id", "spiderId"⟩
def fieldsKey : FieldKey := .same "fields"

/-- The fields that a record of a manga can have. -/
def fieldWords : List String :=
  (RequestField.all.filter (!·.isOfPage)).map RequestField.word

/-- The name of a field of a record. -/
def checkField : Check RequestField := fun v =>
  (Check.oneOf fieldWords v).bind fun word =>
    match RequestField.ofWord? word with
    | some f => .ok f
    | none => .refuse (.notOneOf fieldWords)

/-- A request from the members of a document. -/
def ofMembers (ms : List (String × Json)) : Checked MangaQuery :=
  MangaQuery.mk <$> mangaIdKey.require .nonEmpty ms
    <*> spiderIdKey.require .nonEmpty ms
    <*> fieldsKey.read none (.optional (.list checkField)) ms

/-- A request from a document. -/
def check : Check MangaQuery :=
  .model "MangaRequest" ofMembers

/-- A written request. -/
def toJson (q : MangaQuery) : Json :=
  .object [mangaIdKey.write .plain (.string q.mangaId),
    spiderIdKey.write .plain (.string q.spiderId),
    fieldsKey.write .plain (writeOptional
      (fun fields => .array (fields.map fun (f : RequestField) => .string f.word)) q.fields)]

end MangaQuery

/-- A number, or null. -/
def writeInt (n : Option Int) : Json :=
  writeOptional Json.int n

/-- A page in an answer. -/
structure PageEntry where
  page : Int
  url : String
  deriving DecidableEq, Repr

namespace PageEntry

/-- A page from a document. -/
def check : Check PageEntry :=
  .model "PageSchema" fun ms =>
    PageEntry.mk <$> (FieldKey.same "page").require .int ms
      <*> (FieldKey.same "url").require .string ms

/-- A written page. -/
def toJson (p : PageEntry) : Json :=
  .object [("page", .int p.page), ("url", .string p.url)]

end PageEntry

/-- The answer that lists the pages of a chapter. It is checked like a message from outside. -/
structure PageList where
  pages : List PageEntry
  chapterTitle : String
  mangaTitle : String
  chapterCount : Option Int
  deriving DecidableEq, Repr

namespace PageList

/-- An answer from a document. -/
def check : Check PageList :=
  .fields .notFields fun ms =>
    PageList.mk <$> (FieldKey.same "pages").require (.list PageEntry.check) ms
      <*> (FieldKey.same "chapter_title").require .string ms
      <*> (FieldKey.same "manga_title").require .string ms
      <*> (FieldKey.same "max_chapter_count").read none (.optional .int) ms

/-- A written answer. -/
def toJson (p : PageList) : Json :=
  .object [("pages", .array (p.pages.map PageEntry.toJson)),
    ("chapter_title", .string p.chapterTitle), ("manga_title", .string p.mangaTitle),
    ("max_chapter_count", writeInt p.chapterCount)]

end PageList

end MangaShelf.Web
