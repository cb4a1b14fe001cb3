import MangaShelf.Command.Run
import MangaShelf.Config.Settings
import MangaShelf.Fetch.Snapshot

/-!
# The command line

The program as it is called: it takes its settings from the environment, its connections and what
it knows of the sites from files in the working directory, and prints what a run comes to. All that
is decided is decided in `MangaShelf.Command`.
-/

namespace MangaShelf

/-- The file that keeps the registered connections. -/
def connectionFile : String := "connections.json"

/-- The file that keeps a snapshot of the sites. -/
def snapshotFile : String := "snapshot.json"

/-- The value that a file holds; null for a file that is missing or holds none. -/
def readFileOrNull (path : String) : IO Json := do
  try
    let text ← IO.FS.readFile path
    return (Json.parse text).toOption.getD .null
  catch _ => return .null

/-- The variables of the environment that are settings. -/
def readEnvironment : IO (List (String × String)) :=
  Config.Settings.variableNames.filterMapM fun name => do
    return (← IO.getEnv name).map fun value => (name, value)

/-- Run with some settings. -/
def runWith (settings : Config.Settings) (args : List String) : IO UInt32 := do
  let registry := Registry.ofJson (← readFileOrNull connectionFile)
  let snapshot := Snapshot.ofJson (← readFileOrNull snapshotFile)
  let setup : Web.Setup := ⟨settings.manifestUrl, settings.maxImageBytes, Script.addresses⟩
  let (registered, outcome) := Command.run "manga-shelf" setup snapshot.source registry args
  if registered.urls ≠ registry.urls then
    IO.FS.writeFile connectionFile (registered.toJson.renderLines ++ "\n")
  IO.print outcome.output
  if let some failure := outcome.failure then
    IO.eprintln failure.message
  return outcome.code.toUInt32

end MangaShelf

open MangaShelf in
/-- Run the program. -/
def main (args : List String) : IO UInt32 := do
  match Config.Settings.ofEnvironment (← readEnvironment) with
  | .ok settings => runWith settings args
  | .invalid issues =>
    IO.eprintln (Json.array (issues.map Config.Issue.toJson)).renderLines
    return 1
