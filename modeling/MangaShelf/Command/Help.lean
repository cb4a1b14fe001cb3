import MangaShelf.Command.Arguments

/-!
# Help

What the program says about itself and its tasks: a line of usage, and tables of arguments and
options whose explanations stand in one column.
-/

namespace MangaShelf.Command

/-- A line of a table: what is explained, and its explanation. -/
abbrev Entry := String × String

/-- A text filled up with spaces on the right. -/
def padded (width : Nat) (s : String) : String :=
  s ++ String.ofList (List.replicate (width - s.length) ' ')

/-- A line of a table whose explanations begin at `column`. -/
def entryLine (column : Nat) (e : Entry) : String :=
  padded column ("  " ++ e.1) ++ e.2 ++ "\n"

/-- The column at which the explanations of some entries begin. -/
def columnOf (entries : List Entry) : Nat :=
  (entries.map fun e => e.1.length + 4).foldl max 0

/-- What stands for the arguments of a task, each with its explanation. -/
def argumentsOf : TaskName → List Entry
  | .register => [("url", "Manifest URL")]
  | .spiders => []
  | .search => [("query", "Search text")]
  | .manga => [("spider_id", "Spider id from the manifest"), ("manga_id", "Manga id")]
  | .chapter =>
    [("spider_id", "Spider id from the manifest"), ("manga_id", "Manga id"),
      ("chapter", "1-based chapter number")]

/-- The option for help. -/
def helpOption : Entry :=
  ("-h, --help", "show this help message and exit")

/-- The options of a task. -/
def optionsOf (task : TaskName) : List Entry :=
  helpOption ::
    if task.takesFields then [("--fields FIELDS", "Comma separated record fields")] else []

/-- What a task does. -/
def purpose : TaskName → String
  | .register => "Register a manifest URL"
  | .spiders => "List manifest spiders"
  | .search => "Search every spider"
  | .manga => "Show a manga profile"
  | .chapter => "Resolve chapter pages"

/-- The help on a task of the named program. -/
def taskHelp (program : String) (task : TaskName) : String :=
  let column := columnOf (argumentsOf task ++ optionsOf task)
  let table (title : String) (entries : List Entry) : String :=
    if entries.isEmpty then ""
    else "\n" ++ title ++ ":\n" ++ String.join (entries.map (entryLine column))
  "usage: " ++ program ++ " " ++ task.word ++ " [-h]" ++
    (if task.takesFields then " [--fields FIELDS]" else "") ++
    String.join ((argumentsOf task).map fun e => " " ++ e.1) ++ "\n" ++
    table "positional arguments" (argumentsOf task) ++ table "options" (optionsOf task)

/-- The words for all tasks. -/
def taskChoice : String :=
  "\x7b" ++ ",".intercalate (TaskName.all.map TaskName.word) ++ "\x7d"

/-- The widest column at which explanations begin. -/
def maxColumn : Nat := 24

/-- The help on the named program. -/
def programHelp (program : String) : String :=
  "usage: " ++ program ++ " [-h] " ++ taskChoice ++ " ...\n\nManga Aggregator CLI\n\n" ++
    "positional arguments:\n  " ++ taskChoice ++ "\n" ++
    padded maxColumn "" ++ "Command to run\n" ++
    String.join (TaskName.all.map fun t => entryLine maxColumn ("  " ++ t.word, purpose t)) ++
    "\noptions:\n" ++ entryLine maxColumn helpOption

/-- The help on a topic. -/
def help (program : String) : Option TaskName → String
  | none => programHelp program
  | some task => taskHelp program task

end MangaShelf.Command
