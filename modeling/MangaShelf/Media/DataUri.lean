import MangaShelf.Text.Base64
import MangaShelf.Text.Search

/-!
# Images as data addresses

An image inside an address: its media type, guessed from the name of its file, and its bytes.
-/

namespace MangaShelf.Media

/-- The image types by file extension. -/
def imageTypes : List (String × String) :=
  [(".avif", "image/avif"), (".bmp", "image/bmp"), (".emf", "image/emf"), (".fits", "image/fits"),
    (".g3", "image/g3fax"), (".gif", "image/gif"), (".heic", "image/heic"), (".heif", "image/heif"),
    (".ief", "image/ief"), (".jp2", "image/jp2"), (".jpe", "image/jpeg"), (".jpeg", "image/jpeg"),
    (".jpg", "image/jpeg"), (".jpm", "image/jpm"), (".jpx", "image/jpx"), (".jxl", "image/jxl"),
    (".png", "image/png"), (".svg", "image/svg+xml"), (".t38", "image/t38"),
    (".tiff", "image/tiff"), (".tif", "image/tiff"), (".tfx", "image/tiff-fx"),
    (".ico", "image/vnd.microsoft.icon"), (".webp", "image/webp"), (".wmf", "image/wmf"),
    (".ras", "image/x-cmu-raster"), (".pnm", "image/x-portable-anymap"),
    (".pbm", "image/x-portable-bitmap"), (".pgm", "image/x-portable-graymap"),
    (".ppm", "image/x-portable-pixmap"), (".rgb", "image/x-rgb"), (".xbm", "image/x-xbitmap"),
    (".xpm", "image/x-xpixmap"), (".xwd", "image/x-xwindowdump")]

/-- Extensions of compressed files; the name before them has the extension of the content. -/
def compressions : List String := [".gz", ".Z", ".bz2", ".xz", ".br"]

/-- The type of an image whose name has no known extension. -/
def defaultImageType : String := "image/webp"

/-- A file name and its extension: from the last point on, unless only points stand before it. -/
def cutExtension (path : List Char) : List Char × List Char :=
  let name := (path.reverse.takeWhile (· != '/')).reverse
  match Text.cutAtLast '.' name with
  | none => (path, [])
  | some (stem, extension) =>
    if stem.all (· == '.') then (path, [])
    else (path.take (path.length - extension.length - 1), '.' :: extension)

/-- The image type of a file name. -/
def typeOfPath? (path : List Char) : Option String :=
  let (stem, extension) := cutExtension path
  let (stem, extension) :=
    if Text.lowerAscii (String.ofList extension) = ".svgz" then (stem ++ ".svg".toList, ".gz".toList)
    else (stem, extension)
  let extension :=
    if compressions.contains (String.ofList extension) then (cutExtension stem).2 else extension
  imageTypes.lookup (Text.lowerAscii (String.ofList extension))

/-- The type that a data address names. -/
def typeOfData? (rest : List Char) : Option String :=
  match Text.cutAt ',' rest with
  | (_, none) => none
  | (front, some _) =>
    let named := (Text.cutAt ';' front).1
    if named.contains '=' || !named.contains '/' then none
    else some (String.ofList named)

/-- The image type that an address suggests. A name before the first colon, with no slash in it, is
a scheme; the rest of the address names a file. -/
def suggestedType? (url : List Char) : Option String :=
  match Text.cutAt ':' url with
  | (_, none) => typeOfPath? url
  | (scheme, some rest) =>
    if scheme.isEmpty || scheme.contains '/' then typeOfPath? url
    else if Text.lowerAscii (String.ofList scheme) = "data" then
      (typeOfData? rest).filter fun s => Text.startsWith s "image/"
    else typeOfPath? rest

/-- The image type of an address; what follows a question mark does not count. -/
def imageType (url : String) : String :=
  (suggestedType? (Text.cutAt '?' url.toList).1).getD defaultImageType

/-- An image as a data address. -/
def dataUri (url : String) (bytes : List UInt8) : String :=
  "data:" ++ imageType url ++ ";base64," ++ String.ofList (Text.base64Encode bytes)

end MangaShelf.Media
