/-!
# Finding and replacing fixed texts

Prefixes, occurrences and replacements of a fixed text, on lists of characters and on strings.
-/

namespace MangaShelf.Text

/-- What follows `needle` at the front of a text, if it stands there. -/
def stripPrefix? : List Char → List Char → Option (List Char)
  | [], cs => some cs
  | _ :: _, [] => none
  | n :: ns, c :: cs => if n = c then stripPrefix? ns cs else none

/-- `s` begins with `needle`. -/
def startsWith (s needle : String) : Bool :=
  needle.toList.isPrefixOf s.toList

/-- `needle` occurs somewhere in the characters. -/
def occursIn (needle : List Char) : List Char → Bool
  | [] => needle.isEmpty
  | c :: cs => needle.isPrefixOf (c :: cs) || occursIn needle cs

/-- `needle` occurs somewhere in `s`. -/
def contains (s needle : String) : Bool :=
  occursIn needle.toList s.toList

/-- Write `new` for each occurrence of `needle`, from left to right and without overlap; the
number counts the characters of the last occurrence that are still to be passed over. -/
def substitute (needle new : List Char) : Nat → List Char → List Char
  | _, [] => []
  | skip + 1, _ :: cs => substitute needle new skip cs
  | 0, c :: cs =>
    if needle.isPrefixOf (c :: cs) then new ++ substitute needle new (needle.length - 1) cs
    else c :: substitute needle new 0 cs

/-- Replace every occurrence of the non-empty text `needle` by `new`. -/
def replaceAll (s needle new : String) : String :=
  String.ofList (substitute needle.toList new.toList 0 s.toList)

/-- The pieces of a text between the characters in `p`; never empty. -/
def pieces (p : Char → Bool) : List Char → List (List Char)
  | [] => [[]]
  | c :: cs =>
    if p c then [] :: pieces p cs
    else
      match pieces p cs with
      | [] => [[c]]
      | piece :: rest => (c :: piece) :: rest

/-- The pieces of a text between occurrences of `sep`. -/
def splitAt (s : String) (sep : Char) : List String :=
  (pieces (· == sep) s.toList).map String.ofList

/-- The text before the first `sep`, and what follows it if there is one. -/
def cutAt (sep : Char) : List Char → List Char × Option (List Char)
  | [] => ([], none)
  | c :: cs =>
    if c = sep then ([], some cs)
    else
      let (before, after) := cutAt sep cs
      (c :: before, after)

/-- The text before the last `sep` and what follows it, if there is one. -/
def cutAtLast (sep : Char) (cs : List Char) : Option (List Char × List Char) :=
  match cutAt sep cs.reverse with
  | (_, none) => none
  | (after, some before) => some (before.reverse, after.reverse)

/-- Lower case for the letters A to Z, all else as it is. -/
def lowerAscii (s : String) : String :=
  String.ofList (s.toList.map Char.toLower)

end MangaShelf.Text
