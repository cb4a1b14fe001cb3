import MangaShelf.Config.Check
import MangaShelf.Url.Web

/-!
# Checked web addresses

An address in a document is taken when it is a web address of moderate length; what is kept is its
normal form.
-/

namespace MangaShelf.Config

/-- The normal form of an `http` or `https` address. -/
def webAddress (s : String) : Checked String :=
  if maxAddressLength < s.utf8ByteSize then .refuse .addressTooLong
  else
    match Url.Reading.ofText s with
    | .error fault => .refuse (.badAddress fault)
    | .ok (.web a) =>
      if a.scheme = "http" ∨ a.scheme = "https" then .ok a.toText else .refuse .badScheme
    | .ok (.other _) => .refuse .badScheme

/-- A web address. -/
def Check.address : Check String
  | .string s => webAddress s
  | _ => .refuse .notAddress

/-- The address of a connection: blanks around it are dropped, and then it is kept as it is. -/
def Check.connection (v : Json) : Checked String :=
  (Check.string v).bind fun s => (webAddress (Text.trim s)).map fun _ => Text.trim s

end MangaShelf.Config
