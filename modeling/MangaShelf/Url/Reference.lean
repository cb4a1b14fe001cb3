import MangaShelf.Json.Display
import MangaShelf.Text.Search
import MangaShelf.Url.Web

/-!
# References

Addresses as they stand in a page, and their resolution against the address of that page. A
reference is cut into parts at its marks; the parts stay as they are written.
-/

namespace MangaShelf.Url

/-- Why a reference cannot be resolved. -/
inductive ReferenceFault where
  /-- Brackets that do not enclose a host. -/
  | badBrackets
  | badFutureHost
  | ipv4InBrackets
  | notAnIpAddress (host : String)
  /-- An authority with a character that stands for one of the marks. -/
  | disguisedMark (authority : String)
  deriving DecidableEq, Repr

/-- The wording of a fault in a reference. -/
def ReferenceFault.message : ReferenceFault → String
  | .badBrackets => "Invalid IPv6 URL"
  | .badFutureHost => "IPvFuture address is invalid"
  | .ipv4InBrackets => "An IPv4 address cannot be in brackets"
  | .notAnIpAddress host =>
    String.ofList (Json.showString host) ++ " does not appear to be an IPv4 or IPv6 address"
  | .disguisedMark authority =>
    "netloc '" ++ authority ++ "' contains invalid characters under NFKC normalization"

/-- The parts of a reference. -/
structure Reference where
  scheme : List Char
  authority : List Char
  path : List Char
  /-- What follows a semicolon in the last segment of the path. -/
  parameters : List Char
  query : List Char
  fragment : List Char
  deriving DecidableEq, Repr

/-- Schemes whose references may be relative. -/
def relativeSchemes : List String :=
  ["", "ftp", "http", "gopher", "nntp", "imap", "wais", "file", "https", "shttp", "mms",
    "prospero", "rtsp", "rtsps", "rtspu", "sftp", "svn", "svn+ssh", "ws", "wss"]

/-- Schemes whose references have an authority. -/
def authoritySchemes : List String :=
  ["", "ftp", "http", "gopher", "nntp", "telnet", "imap", "wais", "file", "mms", "https", "shttp",
    "snews", "prospero", "rtsp", "rtsps", "rtspu", "rsync", "svn", "svn+ssh", "sftp", "nfs", "git",
    "git+ssh", "ws", "wss", "itms-services"]

/-- Schemes whose paths have parameters. -/
def parameterSchemes : List String :=
  ["", "ftp", "hdl", "prospero", "http", "https", "shttp", "rtsp", "rtsps", "rtspu", "sip", "sips",
    "mms", "sftp", "tel"]

/-- The scheme is one of the listed ones. -/
def isScheme (schemes : List String) (scheme : List Char) : Bool :=
  schemes.contains (String.ofList scheme)

/-- A character that ends an authority. -/
def endsHost (c : Char) : Bool :=
  c == '/' || c == '?' || c == '#'

/-- A number of a dotted address: no leading zero, below 256. -/
def isOctet (cs : List Char) : Bool :=
  !cs.isEmpty && cs.length ≤ 3 && cs.all Json.isDigit && Json.digitsValue cs < 256 &&
    (cs.length == 1 || cs.head? != some '0')

/-- Four numbers with points between them. -/
def isDottedAddress (cs : List Char) : Bool :=
  let parts := Text.pieces (· == '.') cs
  parts.length == 4 && parts.all isOctet

/-- An address of eight groups; a zone may follow a percent sign. -/
def isGroupedAddress (cs : List Char) : Bool :=
  match Text.cutAt '%' cs with
  | (address, none) => (ipv6Value? address).isSome
  | (address, some zone) =>
    !zone.isEmpty && !zone.contains '%' && (ipv6Value? address).isSome

/-- A host of a future kind: `v`, a version in hexadecimal digits, a point and something more. -/
def isFutureHost (cs : List Char) : Bool :=
  match cs with
  | 'v' :: rest =>
    let version := rest.takeWhile fun c => (Json.hexValue? c).isSome
    match rest.drop version.length with
    | '.' :: c :: _ => !version.isEmpty && c != '\n'
    | _ => false
  | _ => false

/-- Check what stands in brackets as a host. -/
def checkBracketed (host : List Char) : Except ReferenceFault Unit :=
  if host.head? = some 'v' then
    if isFutureHost host then .ok () else .error .badFutureHost
  else if isDottedAddress host then .error .ipv4InBrackets
  else if isGroupedAddress host then .ok ()
  else .error (.notAnIpAddress (String.ofList host))

/-- Check an authority that has brackets: the host stands in them, and only a port may follow. -/
def checkBrackets (authority : List Char) : Except ReferenceFault Unit :=
  let hostPort :=
    match Text.cutAtLast '@' authority with
    | some (_, hostPort) => hostPort
    | none => authority
  match Text.cutAt '[' hostPort with
  | (host, none) => checkBracketed (Text.cutAt ':' host).1
  | (before, some inside) =>
    if !before.isEmpty then .error .badBrackets
    else
      match Text.cutAt ']' inside with
      | (host, none) => checkBracketed host
      | (host, some port) =>
        if port.isEmpty || port.head? = some ':' then checkBracketed host
        else .error .badBrackets

/-- Characters that are written forms of one of the marks of an address. -/
def isDisguisedMark (c : Char) : Bool :=
  [0x2047, 0x2048, 0x2049, 0x2100, 0x2101, 0x2105, 0x2106, 0x2A74, 0xFE13, 0xFE16, 0xFE55, 0xFE56,
    0xFE5F, 0xFE6B, 0xFF03, 0xFF0F, 0xFF1A, 0xFF1F, 0xFF20].contains c.toNat

/-- Check an authority. -/
def checkAuthority (authority : List Char) : Except ReferenceFault Unit := do
  if authority.contains '[' != authority.contains ']' then throw .badBrackets
  if authority.contains '[' then checkBrackets authority
  if authority.any isDisguisedMark then throw (.disguisedMark (String.ofList authority))

/-- A first character that is dropped: a control character or a space. -/
def isLeadingJunk (c : Char) : Bool :=
  c.toNat ≤ 32

/-- A character that is dropped everywhere. -/
def isLineBreakOrTab (c : Char) : Bool :=
  c == '\t' || c == '\n' || c == '\r'

/-- The scheme of a reference in lower case and what follows its colon. -/
def schemeOf? (cs : List Char) : Option (List Char × List Char) :=
  match Text.cutAt ':' cs with
  | (c :: name, some rest) =>
    if c.isAlpha && name.all (fun d => d.isAlphanum || d == '+' || d == '-' || d == '.') then
      some ((c :: name).map Char.toLower, rest)
    else none
  | _ => none

/-- The parameters of the last segment of a path, and the path without them. -/
def cutParameters (path : List Char) : List Char × List Char :=
  let last := (path.reverse.takeWhile (· != '/')).reverse
  let front := path.take (path.length - last.length)
  match Text.cutAt ';' last with
  | (_, none) => (path, [])
  | (segment, some parameters) => (front ++ segment, parameters)

/-- The parts of a reference; one without a scheme has the scheme `default`. -/
def Reference.ofChars (default cs : List Char) : Except ReferenceFault Reference := do
  let cs := (cs.dropWhile isLeadingJunk).filter (!isLineBreakOrTab ·)
  let (scheme, rest) := (schemeOf? cs).getD (default, cs)
  let (authority, rest) :=
    match rest with
    | '/' :: '/' :: more => (more.takeWhile (!endsHost ·), more.dropWhile (!endsHost ·))
    | _ => ([], rest)
  checkAuthority authority
  let (rest, fragment) := Text.cutAt '#' rest
  let (path, query) := Text.cutAt '?' rest
  let (path, parameters) := if isScheme parameterSchemes scheme then cutParameters path else (path, [])
  return ⟨scheme, authority, path, parameters, query.getD [], fragment.getD []⟩

/-- A part with its mark; an empty part has none. -/
def marked (mark : Char) (part : List Char) : List Char :=
  if part.isEmpty then [] else mark :: part

/-- A reference put together from its parts. -/
def Reference.toChars (r : Reference) : List Char :=
  let path := r.path ++ marked ';' r.parameters
  let rest :=
    if !r.authority.isEmpty then
      '/' :: '/' :: r.authority ++
        (if path.isEmpty || path.head? = some '/' then path else '/' :: path)
    else if ['/', '/'].isPrefixOf path then '/' :: '/' :: path
    else if !r.scheme.isEmpty && isScheme authoritySchemes r.scheme &&
        (path.isEmpty || path.head? = some '/') then '/' :: '/' :: path
    else path
  (if r.scheme.isEmpty then rest else r.scheme ++ ':' :: rest) ++ marked '?' r.query ++
    marked '#' r.fragment

/-- The segments that remain when dot segments are followed; `done` has the last one first. -/
def followDots : List (List Char) → List (List Char) → List (List Char)
  | done, [] => done.reverse
  | done, s :: rest =>
    if s = ['.', '.'] then followDots (done.drop 1) rest
    else if s = ['.'] then followDots done rest
    else followDots (s :: done) rest

/-- Drop the empty segments between the first and the last one. -/
def dropInnerEmpty : List (List Char) → List (List Char)
  | [] => []
  | first :: rest =>
    match rest.getLast? with
    | none => [first]
    | some last => first :: (rest.dropLast.filter (!·.isEmpty)) ++ [last]

/-- The path of a relative reference, seen from a base path. -/
def joinPaths (base path : List Char) : List Char :=
  let own := Text.pieces (· == '/') path
  let segments :=
    if path.head? = some '/' then own
    else
      let around := Text.pieces (· == '/') base
      let around := if around.getLast? = some [] then around else around.dropLast
      dropInnerEmpty (around ++ own)
  let resolved := followDots [] segments
  let resolved :=
    if segments.getLast? = some ['.'] ∨ segments.getLast? = some ['.', '.'] then resolved ++ [[]]
    else resolved
  match List.intercalate ['/'] resolved with
  | [] => ['/']
  | joined => joined

/-- Resolve a reference against a base: what the reference leaves out is taken from the base. -/
def resolve (base reference : String) : Except ReferenceFault String := do
  if base = "" then return reference
  if reference = "" then return base
  let b ← Reference.ofChars [] base.toList
  let r ← Reference.ofChars b.scheme reference.toList
  if r.scheme ≠ b.scheme ∨ ¬ isScheme relativeSchemes r.scheme then return reference
  let takesAuthority := isScheme authoritySchemes r.scheme
  if takesAuthority && !r.authority.isEmpty then return String.ofList r.toChars
  let authority := if takesAuthority then b.authority else r.authority
  let r := { r with authority }
  if r.path.isEmpty && r.parameters.isEmpty then
    let r := { r with
      path := b.path
      parameters := b.parameters
      query := if r.query.isEmpty then b.query else r.query }
    return String.ofList r.toChars
  return String.ofList { r with path := joinPaths b.path r.path }.toChars

/-- The reference begins with a web scheme. -/
def isAbsolute (reference : String) : Bool :=
  Text.startsWith reference "http://" || Text.startsWith reference "https://"

/-- The reference resolved against the page it stands on, unless it is absolute already or there
is no page. -/
def absolute (reference base : String) : Except ReferenceFault String :=
  if reference = "" ∨ isAbsolute reference ∨ base = "" then .ok reference
  else resolve base reference

end MangaShelf.Url
