import MangaShelf.Config.Rules
import MangaShelf.Failure
import MangaShelf.Pattern.Template
import MangaShelf.Text.Search

/-!
# Addresses of profile pages

The address of a manga's profile page: the id, after the replacement of the site, in the place that
the pattern of the site keeps for it.
-/

namespace MangaShelf.Config

/-- An id after the replacement. A malformed pattern or template leaves it as it is. -/
def IdSubstitution.apply (r : IdSubstitution) (id : String) : Except Failure String :=
  match Pattern.substituteFirst r.pattern.toList r.template.toList id.toList with
  | .ok cs => .ok (String.ofList cs)
  | .error .malformed => .ok id
  | .error (.fault fault) => .error (.pattern fault)

/-- An id after the replacement, if the site has one. -/
def normalizeId (replacement : Option IdSubstitution) (id : String) : Except Failure String :=
  match replacement with
  | none => .ok id
  | some r => r.apply id

/-- The place of the id in a pattern. -/
def idPlace : String := "\x7bmanga_id\x7d"

/-- A pattern with an id, after the replacement, in its place. -/
def profileAddress (urlPattern : String) (replacement : Option IdSubstitution) (id : String) :
    Except Failure String := do
  return Text.replaceAll urlPattern idPlace (← normalizeId replacement id)

/-- The address of the profile page of a manga, or what keeps it from being put together. -/
def ProfilePage.findAddress (p : ProfilePage) (id : String) : Except Failure String :=
  profileAddress p.urlPattern p.replace id

/-- The address of the profile page of a manga, if it can be put together. -/
def ProfilePage.address (p : ProfilePage) (id : String) : String :=
  (p.findAddress id).toOption.getD ""

end MangaShelf.Config
