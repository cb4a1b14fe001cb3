import MangaShelf.Config.Check

/-!
# Settings

The settings of the application, read from environment variables whose names may be in any case.
-/

namespace MangaShelf.Config

/-- The settings of the application. -/
structure Settings where
  databaseUrl : String
  manifestUrl : Option String
  apiHost : String
  apiPort : Int
  apiReload : Bool
  httpTimeout : Float
  userAgent : String
  maxImageBytes : Int
  logLevel : String

namespace Settings

/-- The settings of an empty environment. -/
def default : Settings where
  databaseUrl := "sqlite:///./user_data.db"
  manifestUrl := none
  apiHost := "0.0.0.0"
  apiPort := 8000
  apiReload := true
  httpTimeout := 30.0
  userAgent := "Mozilla/5.0 (Windows NT 10.0; Win64; x64) AppleWebKit/537.36 " ++
    "(KHTML, like Gecko) Chrome/122.0.0.0 Safari/537.36"
  maxImageBytes := 5000000
  logLevel := "INFO"

/-- A floating-point number. -/
def checkFloat : Check Float
  | .string s => floatText s
  | .float x => .ok x
  | _ => .refuse .unreadableFloat
where
  floatText := Check.floatText

/-- The variables with their names in lower case; the last of several variables counts. -/
def membersOf (env : List (String × String)) : List (String × Json) :=
  env.foldl (fun ms (name, value) => Json.setMember (Text.lowerAscii name) (.string value) ms) []

/-- The settings of an environment. -/
def ofEnvironment (env : List (String × String)) : Checked Settings :=
  let ms := membersOf env
  let d := default
  Settings.mk <$> (FieldKey.same "database_url").read d.databaseUrl .string ms
    <*> (FieldKey.same "manifest_url").read d.manifestUrl (.optional .string) ms
    <*> (FieldKey.same "api_host").read d.apiHost .string ms
    <*> (FieldKey.same "api_port").read d.apiPort .int ms
    <*> (FieldKey.same "api_reload").read d.apiReload .bool ms
    <*> (FieldKey.same "http_timeout").read d.httpTimeout checkFloat ms
    <*> (FieldKey.same "user_agent").read d.userAgent .string ms
    <*> (FieldKey.same "max_image_bytes").read d.maxImageBytes .int ms
    <*> (FieldKey.same "log_level").read d.logLevel .string ms

/-- The names of all settings, as environment variables are called. -/
def variableNames : List String :=
  ["DATABASE_URL", "MANIFEST_URL", "API_HOST", "API_PORT", "API_RELOAD", "HTTP_TIMEOUT",
    "USER_AGENT", "MAX_IMAGE_BYTES", "LOG_LEVEL"]

end Settings

end MangaShelf.Config
