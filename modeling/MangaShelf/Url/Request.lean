import MangaShelf.Text.Integer
import MangaShelf.Url.Reference

/-!
# Addresses of requests

An address as it is sent: escapes that are there stay, what an address cannot hold is escaped, the
host is written in ASCII, and dot segments are followed. How a host in other scripts is written in
ASCII is left open.
-/

namespace MangaShelf.Url

/-- Why an address cannot be asked for. -/
inductive RequestFault where
  | tooLong
  | control (c : Char) (position : Nat)
  | badPort (port : String)
  | badIpv4 (host : String)
  | badIpv6 (host : String)
  | badDomain (host : String)
  /-- The path does not begin with a slash. -/
  | pathWithoutSlash
  | pathWithHost
  | pathWithColon
  deriving DecidableEq, Repr

/-- A text in quotes. -/
def shown (s : String) : String :=
  String.ofList (Json.showString s)

/-- The wording of a fault in an address. -/
def RequestFault.message : RequestFault → String
  | .tooLong => "URL too long"
  | .control c position =>
    "Invalid non-printable ASCII character in URL, " ++ shown c.toString ++ " at position " ++
      toString position ++ "."
  | .badPort port => "Invalid port: " ++ shown port
  | .badIpv4 host => "Invalid IPv4 address: " ++ shown host
  | .badIpv6 host => "Invalid IPv6 address: " ++ shown host
  | .badDomain host => "Invalid IDNA hostname: " ++ shown host
  | .pathWithoutSlash => "For absolute URLs, path must be empty or begin with '/'"
  | .pathWithHost => "Relative URLs cannot have a path starting with '//'"
  | .pathWithColon => "Relative URLs cannot have a path starting with ':'"

/-- The parts of an address that is sent. -/
structure RequestUrl where
  scheme : List Char
  userInfo : List Char
  host : List Char
  port : Option Int
  path : List Char
  query : Option (List Char)
  fragment : Option (List Char)
  deriving DecidableEq, Repr

/-- A visible ASCII character other than the listed ones. -/
def visibleBut (marks : String) (c : Char) : Bool :=
  32 < c.toNat && c.toNat < 127 && !marks.toList.contains c

/-- The characters that each part keeps. -/
def sentInFragment : Char → Bool := visibleBut "\"<>\x60"
def sentInQuery : Char → Bool := visibleBut "\"#<>"
def sentInPath : Char → Bool := visibleBut "\"#<>?\x60\x7b\x7d"
def sentInUserInfo : Char → Bool := visibleBut "\"#<>?\x60\x7b\x7d/;=@[\\]^|"

/-- A character that a host name keeps. -/
def sentInHost (c : Char) : Bool :=
  c.isAlphanum || "-._~!$&'()*+,;=\"\x60\x7b\x7d%|\\".toList.contains c

/-- The longest address that is taken. -/
def maxRequestLength : Nat := 65536

/-- A control character. -/
def isControl (c : Char) : Bool :=
  c.toNat < 32 || c.toNat == 127

/-- A host that is spelt like four numbers, with any character between them. -/
def looksDotted (host : List Char) : Bool :=
  let digits (cs : List Char) : List Char × List Char :=
    (cs.takeWhile Json.isDigit, cs.dropWhile Json.isDigit)
  let rec number (fuel count : Nat) (cs : List Char) : Bool :=
    match fuel with
    | 0 => false
    | fuel + 1 =>
      let (run, rest) := digits cs
      if run.isEmpty then false
      else if count = 0 then rest.isEmpty
      else
        number fuel (count - 1) (rest.drop 1) ||
          (2 < run.length && (List.range (run.length - 2)).any fun i =>
            number fuel (count - 1) (run.drop (i + 2) ++ rest))
  number 5 3 host

/-- How a host that is not in ASCII is written in ASCII, if that can be done. -/
abbrev Domains := List Char → Option (List Char)

/-- A host as it is sent. -/
def sentHost (domains : Domains) (host : List Char) : Except RequestFault (List Char) :=
  if host.isEmpty then .ok []
  else if looksDotted host then
    if isDottedAddress host then .ok host else .error (.badIpv4 (String.ofList host))
  else if host.head? = some '[' && host.getLast? = some ']' && 1 < host.length then
    let address := (host.drop 1).dropLast
    if isGroupedAddress address then .ok address else .error (.badIpv6 (String.ofList host))
  else if host.all (·.toNat < 128) then
    .ok (Text.percentEncode sentInHost (host.map Char.toLower))
  else
    match domains host with
    | some domain => .ok domain
    | none => .error (.badDomain (String.ofList host))

/-- A port as it is sent; the default one of the scheme is left out. -/
def sentPort (scheme port : List Char) : Except RequestFault (Option Int) :=
  if port.isEmpty then .ok none
  else
    match Text.integer? (String.ofList port) with
    | none => .error (.badPort (String.ofList port))
    | some n =>
      .ok (if ((defaultPort? (String.ofList scheme)).map fun p => (p : Int)) = some n then none
        else some n)

/-- Where host and port of an authority are: a host in brackets ends at the last bracket, any other
at the first colon. -/
def cutPort (cs : List Char) : List Char × List Char :=
  let bracketed :=
    match cs with
    | '[' :: _ => (Text.cutAtLast ']' cs).map fun (host, port) => (host ++ [']'], port)
    | _ => none
  match bracketed with
  | some (host, ':' :: port) => (host, port)
  | some (host, port) => (host, port)
  | none =>
    match Text.cutAt ':' cs with
    | (host, some port) => (host, port)
    | (host, none) => (host, [])

/-- The segments that remain when dot segments are followed; the first slash is never lost. -/
def foldDots : List (List Char) → List (List Char) → List (List Char)
  | done, [] => done.reverse
  | done, s :: rest =>
    if s = ['.'] then foldDots done rest
    else if s = ['.', '.'] then foldDots (if done = [[]] then done else done.drop 1) rest
    else foldDots (s :: done) rest

/-- A path with its dot segments followed. -/
def foldPath (path : List Char) : List Char :=
  let segments := Text.pieces (· == '/') path
  if segments.contains ['.'] || segments.contains ['.', '.'] then
    List.intercalate ['/'] (foldDots [] segments)
  else path

/-- A path fits the rest of its address. -/
def checkPath (hasScheme hasHost : Bool) (path : List Char) : Except RequestFault Unit :=
  if hasHost then
    if path.isEmpty || path.head? = some '/' then .ok () else .error .pathWithoutSlash
  else if hasScheme then .ok ()
  else if ['/', '/'].isPrefixOf path then .error .pathWithHost
  else if path.head? = some ':' then .error .pathWithColon
  else .ok ()

namespace RequestUrl

/-- The scheme of an address as it is written, and what follows its colon. -/
def cutScheme (cs : List Char) : List Char × List Char :=
  match Text.cutAt ':' cs with
  | ([], some rest) => ([], rest)
  | (c :: name, some rest) =>
    if c.isAlpha && name.all (fun d => d.isAlphanum || d == '+' || d == '-' || d == '.') then
      (c :: name, rest)
    else ([], cs)
  | _ => ([], cs)

/-- Read an address. -/
def ofChars (domains : Domains) (cs : List Char) : Except RequestFault RequestUrl := do
  if maxRequestLength < cs.length then throw .tooLong
  match cs.zipIdx.find? fun (c, _) => isControl c with
  | some (c, i) => throw (.control c i)
  | none => pure ()
  let (scheme, rest) := cutScheme cs
  let (authority, rest) :=
    match rest with
    | '/' :: '/' :: more => (more.takeWhile (!endsHost ·), more.dropWhile (!endsHost ·))
    | _ => ([], rest)
  let (rest, fragment) := Text.cutAt '#' rest
  let (path, query) := Text.cutAt '?' rest
  let (user, hostPort) := (Text.cutAtLast '@' authority).getD ([], authority)
  let (host, port) := cutPort hostPort
  let userInfo := Text.percentEncode sentInUserInfo user
  let host ← sentHost domains host
  let port ← sentPort scheme port
  let hasHost := !userInfo.isEmpty || !host.isEmpty || port.isSome
  checkPath (!scheme.isEmpty) hasHost path
  let path := if !scheme.isEmpty || hasHost then foldPath path else path
  return {
    scheme := scheme.map Char.toLower
    userInfo
    host
    port
    path := Text.percentEncode sentInPath path
    query := query.map (Text.percentEncode sentInQuery)
    fragment := fragment.map (Text.percentEncode sentInFragment) }

/-- The authority as it is sent. -/
def authority (u : RequestUrl) : List Char :=
  (if u.userInfo.isEmpty then [] else u.userInfo ++ ['@']) ++
    (if u.host.contains ':' then '[' :: u.host ++ [']'] else u.host) ++
    match u.port with
    | none => []
    | some p => ':' :: Json.intDigits p

/-- The address as it is sent. -/
def toChars (u : RequestUrl) : List Char :=
  (if u.scheme.isEmpty then [] else u.scheme ++ [':']) ++
    (if u.authority.isEmpty then [] else '/' :: '/' :: u.authority) ++ u.path ++
    (match u.query with
      | none => []
      | some q => '?' :: q) ++
    match u.fragment with
    | none => []
    | some f => '#' :: f

/-- The address as a text. -/
def toText (u : RequestUrl) : String :=
  String.ofList u.toChars

/-- The address has a scheme and a host. -/
def isComplete (u : RequestUrl) : Bool :=
  !u.scheme.isEmpty && !u.host.isEmpty

/-- The address that is asked for: one without a scheme or a host is only a path. -/
def ofText (domains : Domains) (s : String) : Except RequestFault RequestUrl := do
  let u ← ofChars domains s.toList
  if u.isComplete then return u
  else
    return { u with
      scheme := []
      userInfo := []
      host := []
      port := none
      path := '/' :: u.path.dropWhile (· == '/')
      fragment := none }

end RequestUrl

end MangaShelf.Url
