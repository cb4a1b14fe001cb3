import MangaShelf.Record.RequestField
import MangaShelf.Text.Integer

/-!
# Arguments

What a list of arguments asks for. Options may stand between the other arguments and may be
shortened; after a double hyphen nothing is an option any more.
-/

namespace MangaShelf.Command

/-- What the program can do. -/
inductive Task where
  | register (url : String)
  | spiders
  | search (query fields : String)
  | manga (spiderId mangaId fields : String)
  | chapter (spiderId mangaId : String) (number : Int)
  deriving DecidableEq, Repr

/-- The names of the tasks. -/
inductive TaskName where
  | register
  | spiders
  | search
  | manga
  | chapter
  deriving DecidableEq, Repr

namespace TaskName

/-- All tasks. -/
def all : List TaskName := [.register, .spiders, .search, .manga, .chapter]

/-- The word for a task. -/
def word : TaskName → String
  | .register => "register"
  | .spiders => "spiders"
  | .search => "search"
  | .manga => "manga"
  | .chapter => "chapter"

/-- The task of a word. -/
def ofWord? (s : String) : Option TaskName :=
  all.find? fun t => t.word = s

/-- How many arguments a task takes. -/
def arity : TaskName → Nat
  | .register => 1
  | .spiders => 0
  | .search => 1
  | .manga => 2
  | .chapter => 3

/-- The task takes a list of fields. -/
def takesFields : TaskName → Bool
  | .search => true
  | .manga => true
  | _ => false

end TaskName

/-- What a list of arguments asks for. -/
inductive Invocation where
  | task (t : Task)
  | nothing
  /-- Help on the program or on one task. -/
  | help (topic : Option TaskName)
  | misuse
  deriving DecidableEq, Repr

/-- The fields that are asked for when none are named. -/
def defaultFields : String :=
  ",".intercalate ((RequestField.all.filter (!·.isOfPage)).map RequestField.word)

/-- The role of an argument. -/
inductive Role where
  | plain
  | help
  /-- The list of fields; its value may be given with it. -/
  | fields (value : Option String)
  | unknown
  /-- An option that cannot be used this way. -/
  | misused
  deriving DecidableEq, Repr

/-- Digits in groups with single underscores between them, and what follows them. -/
def digitGroups (after : Bool) : List Char → Option (List Char)
  | [] => if after then some [] else none
  | c :: cs =>
    if Text.isDecimal c then digitGroups true cs
    else if c = '_' ∧ after then digitGroups false cs
    else if after then some (c :: cs)
    else none

/-- A negative number, with or without a fraction. -/
def isNegativeNumber (cs : List Char) : Bool :=
  match cs with
  | '-' :: '.' :: rest => digitGroups false rest == some []
  | '-' :: rest =>
    match digitGroups false rest with
    | some [] => true
    | some ('.' :: fraction) => digitGroups false fraction == some []
    | _ => false
  | _ => false

/-- The role of an option that is written out or shortened. -/
def longOption (takesFields : Bool) (name : List Char) (value : Option (List Char)) : Option Role :=
  let isHelp := name.isPrefixOf "--help".toList
  let isFields := takesFields && name.isPrefixOf "--fields".toList
  if isHelp && isFields then some .misused
  else if isHelp then some (if value.isSome then .misused else .help)
  else if isFields then some (.fields (value.map String.ofList))
  else none

/-- The role of an option of one letter, written with what follows it. -/
def shortOption (cs : List Char) : Option Role :=
  match cs with
  | '-' :: 'h' :: rest =>
    match rest with
    | [] => some .help
    | c :: _ => some (if c = '=' ∨ c = '-' then .misused else .help)
  | _ => none

/-- The role of an argument. -/
def roleOf (takesFields : Bool) (arg : String) : Role :=
  let cs := arg.toList
  match cs with
  | '-' :: _ :: _ =>
    let (name, value) := Text.cutAt '=' cs
    let option :=
      if ['-', '-'].isPrefixOf cs then longOption takesFields name value else shortOption cs
    match option with
    | some role => role
    | none => if isNegativeNumber cs || cs.contains ' ' then .plain else .unknown
  | _ => .plain

/-- The arguments of a task while they are read. -/
structure Arguments where
  /-- The plain arguments, the last one first. -/
  plain : List String
  fields : String
  /-- Something was left over. -/
  excess : Bool

/-- What reading the arguments of a task comes to. -/
inductive Reading where
  | done (a : Arguments)
  | help
  | misuse

/-- An argument fits its place: the number of a chapter is a number. -/
def fits (task : TaskName) (place : Nat) (arg : String) : Bool :=
  !(task == .chapter && place == 2) || (Text.integer? arg).isSome

/-- Take a plain argument; `none` if it does not fit its place. -/
def Arguments.take (task : TaskName) (a : Arguments) (arg : String) : Option Arguments :=
  if a.plain.length < task.arity then
    if fits task a.plain.length arg then some { a with plain := arg :: a.plain } else none
  else some { a with excess := true }

/-- Take arguments none of which is an option. -/
def Arguments.takeAll (task : TaskName) (a : Arguments) : List String → Option Arguments
  | [] => some a
  | arg :: rest => (a.take task arg).bind fun a => a.takeAll task rest

/-- Read the arguments of a task. `follows` tells that a plain argument of the task stands right
before; `wantsFields` that a list of fields must come next. -/
def readArguments (task : TaskName) : Bool → Bool → Arguments → List String → Reading
  | _, true, _, [] => .misuse
  | _, false, a, [] => .done a
  | _, true, a, arg :: rest =>
    if arg ≠ "--" ∧ roleOf task.takesFields arg = .plain then
      readArguments task false false { a with fields := arg } rest
    else .misuse
  | follows, false, a, arg :: rest =>
    if arg = "--" then
      let wanted := a.plain.length < task.arity && !rest.isEmpty
      match a.takeAll task rest with
      | none => .misuse
      | some taken => .done (if follows || wanted then taken else { taken with excess := true })
    else
      match roleOf task.takesFields arg with
      | .help => .help
      | .misused => .misuse
      | .unknown => readArguments task false false { a with excess := true } rest
      | .fields none => readArguments task false true a rest
      | .fields (some value) => readArguments task false false { a with fields := value } rest
      | .plain =>
        match a.take task arg with
        | none => .misuse
        | some taken => readArguments task (a.plain.length < task.arity) false taken rest

/-- The task that its arguments make up. -/
def taskOf? (task : TaskName) (a : Arguments) : Option Task :=
  match task, a.plain.reverse with
  | .register, [url] => some (.register url)
  | .spiders, [] => some .spiders
  | .search, [query] => some (.search query a.fields)
  | .manga, [spiderId, mangaId] => some (.manga spiderId mangaId a.fields)
  | .chapter, [spiderId, mangaId, number] =>
    (Text.integer? number).map fun n => .chapter spiderId mangaId n
  | _, _ => none

/-- What a task and its arguments ask for. -/
def invoke (excess : Bool) (word : String) (rest : List String) : Invocation :=
  match TaskName.ofWord? word with
  | none => .misuse
  | some task =>
    match readArguments task false false ⟨[], defaultFields, false⟩ rest with
    | .help => .help (some task)
    | .misuse => .misuse
    | .done a =>
      match taskOf? task a with
      | some t => if excess || a.excess then .misuse else .task t
      | none => .misuse

/-- What a list of arguments asks for; `excess` tells that something was left over. -/
def parse (excess : Bool) : List String → Invocation
  | [] => if excess then .misuse else .nothing
  | arg :: rest =>
    if arg = "--" then
      match rest with
      | [] => .misuse
      | word :: rest => invoke excess word rest
    else
      match roleOf false arg with
      | .plain => invoke excess arg rest
      | .help => .help none
      | .unknown => parse true rest
      | _ => .misuse

end MangaShelf.Command
