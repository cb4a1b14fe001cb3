import MangaShelf.Command.Help
import MangaShelf.Web.App

/-!
# Running tasks

What the program prints for a list of arguments, and the code that it ends with.
-/

namespace MangaShelf.Command

open Config (Crawler Manifest)
open Web (Setup)

/-- What a run of the program comes to. -/
structure Outcome where
  code : Nat
  output : String
  /-- What has stopped the program, if it did not end by itself. -/
  failure : Option Failure

namespace Outcome

/-- A run that has done its task. -/
def success (output : String) : Outcome :=
  ⟨0, output, none⟩

/-- A run that was stopped before it said anything. -/
def crash : Outcome :=
  ⟨1, "", none⟩

/-- A run that ends with a failure after some output. Refusals are printed. -/
def failed (output : String) : Failure → Outcome
  | .refused refusal => ⟨1, output ++ "Error: " ++ refusal.message ++ "\n", none⟩
  | failure => ⟨1, output, some failure⟩

/-- A run whose end depends on a computation; `output` is printed before. -/
def ofRun {α : Type} (output : String) (run : Run α) (finish : α → Outcome) : Outcome :=
  match run.outcome with
  | .ok a => finish a
  | .error failure => failed output failure

end Outcome

/-- A value as it is printed. -/
def printed (v : Json) : String :=
  v.renderLines ++ "\n"

/-- Print the manifest of a connection that has just been registered. -/
def registerTask (context : Catalog.Context) (source : Source) (url : String) : Outcome :=
  let said := "Registered " ++ url ++ "\n"
  .ofRun said (Catalog.manifest context (some url) source) fun m =>
    .success (said ++ printed (.array (m.crawlers.map Web.manifestEntry)))

/-- A line of the table of spiders. -/
def tableLine (id name link : String) : String :=
  padded 20 id ++ " " ++ padded 30 name ++ " " ++ padded 50 link ++ "\n"

/-- The table of spiders. -/
def spiderTable (m : Manifest) : String :=
  "\n" ++ tableLine "ID" "Name" "Link" ++ String.ofList (List.replicate 100 '-') ++ "\n" ++
    String.join (m.crawlers.map fun c => tableLine c.id c.name c.link) ++
    "\nTotal: " ++ toString m.crawlers.length ++ " spiders\n"

/-- Print the spiders of the active manifest. -/
def spidersTask (context : Catalog.Context) (source : Source) : Outcome :=
  .ofRun "" (Catalog.manifest context none source) fun m => .success (spiderTable m)

/-- The value of an event, printed; nothing for an event without one. -/
def printedEvent (e : String) : String :=
  match Text.stripPrefix? "data: ".toList e.toList with
  | none => ""
  | some cs =>
    match Json.read cs with
    | .ok v => printed v
    | .error _ => ""

/-- Print what all spiders find. -/
def searchTask (context : Catalog.Context) (source : Source) (query fields : String) : Outcome :=
  let search : Fetching Catalog.Stream := do
    let m ← Catalog.manifest context none
    Catalog.searchStream m query (Web.fieldsOf fields) none
  .ofRun "" (search source) fun s =>
    let output := String.join (s.events.map printedEvent)
    match s.failure with
    | none => .success output
    | some failure => .failed output failure

/-- Print the record of a manga. -/
def mangaTask (context : Catalog.Context) (source : Source) (spiderId mangaId fields : String) :
    Outcome :=
  .ofRun "" (Catalog.manga context spiderId mangaId (Web.fieldsOf fields) source) fun record =>
    match record with
    | none => ⟨1, "No results found\n", none⟩
    | some r =>
      if r.toJson.isWritable then .success (printed r.toJson)
      else .failed "" (.ofUnwritable r.toJson)

/-- Print the pages of a chapter. -/
def chapterTask (context : Catalog.Context) (source : Source) (spiderId mangaId : String)
    (number : Int) : Outcome :=
  .ofRun "" (Catalog.chapter context spiderId mangaId ⟨some number, none⟩ source) fun r =>
    .success (printed r.toJson)

/-- Run a task; the connections that are registered afterwards come with the outcome. -/
def runTask (setup : Setup) (source : Source) (registry : Registry) : Task → Registry × Outcome
  | .register url =>
    match (Session.start registry).register url with
    | (session, .error _) => (session.stored, .crash)
    | (session, .ok _) =>
      (session.stored, registerTask (setup.context session.stored) source url)
  | .spiders => (registry, spidersTask (setup.context registry) source)
  | .search query fields => (registry, searchTask (setup.context registry) source query fields)
  | .manga spiderId mangaId fields =>
    (registry, mangaTask (setup.context registry) source spiderId mangaId fields)
  | .chapter spiderId mangaId number =>
    (registry, chapterTask (setup.context registry) source spiderId mangaId number)

/-- Run the program, called by a name, with a list of arguments. -/
def run (program : String) (setup : Setup) (source : Source) (registry : Registry)
    (args : List String) : Registry × Outcome :=
  match parse false args with
  | .task t => runTask setup source registry t
  | .nothing => (registry, ⟨1, help program none, none⟩)
  | .help topic => (registry, .success (help program topic))
  | .misuse => (registry, ⟨2, "", none⟩)

/-- Run the program several times. -/
def runAll (program : String) (setup : Setup) (source : Source) :
    Registry → List (List String) → List Outcome
  | _, [] => []
  | registry, args :: rest =>
    let (registry, outcome) := run program setup source registry args
    outcome :: runAll program setup source registry rest

end MangaShelf.Command
