/-!
# Refusals

Conditions that end a whole request, each with the status that it is answered with.
-/

namespace MangaShelf.Catalog

/-- Why a request is refused. -/
inductive Refusal where
  /-- No manifest has been registered. -/
  | notRegistered
  | manifestUnavailable
  | spiderNotFound (id : String)
  | spiderUnavailable (id : String)
  deriving DecidableEq, Repr

namespace Refusal

/-- The wording of a refusal. -/
def message : Refusal → String
  | .notRegistered => "No registered connection URL found"
  | .manifestUnavailable => "Failed to load manifest"
  | .spiderNotFound id => "Spider '" ++ id ++ "' not found in manifest"
  | .spiderUnavailable id => "Failed to load config for spider '" ++ id ++ "'"

/-- The status that a refusal is answered with. -/
def status : Refusal → Nat
  | .notRegistered => 400
  | .manifestUnavailable => 500
  | .spiderNotFound _ => 404
  | .spiderUnavailable _ => 500

end Refusal

end MangaShelf.Catalog
