import MangaShelf.Config.Issue
import MangaShelf.Text.Blank
import MangaShelf.Text.Case
import MangaShelf.Text.Percent
import MangaShelf.Text.Search
import MangaShelf.Text.Utf8
import MangaShelf.Url.Punycode

/-!
# Web addresses

The parts of a web address as browsers read it, and its normal form: scheme and host in lower
case, hosts in ASCII, numbers as IP addresses, no default port, no dot segments, and everything
that an address cannot hold percent-encoded.
-/

namespace MangaShelf.Url

open Config (AddressFault)

/-- The parts of an address in normal form. -/
structure WebAddress where
  scheme : String
  userInfo : String
  host : String
  port : Option Nat
  path : String
  query : Option String
  fragment : Option String
  deriving DecidableEq, Repr

/-- The address as a text. -/
def WebAddress.toText (a : WebAddress) : String :=
  a.scheme ++ "://" ++ (if a.userInfo = "" then "" else a.userInfo ++ "@") ++ a.host ++
    (match a.port with
      | none => ""
      | some p => ":" ++ toString p) ++
    a.path ++
    (match a.query with
      | none => ""
      | some q => "?" ++ q) ++
    match a.fragment with
    | none => ""
    | some f => "#" ++ f

/-- Schemes whose addresses have a host, with their default ports. -/
def defaultPort? (scheme : String) : Option Nat :=
  if scheme = "http" ∨ scheme = "ws" then some 80
  else if scheme = "https" ∨ scheme = "wss" then some 443
  else if scheme = "ftp" then some 21
  else none

/-- A character that a fragment keeps. -/
def keptInFragment (c : Char) : Bool :=
  32 < c.toNat && c.toNat < 127 && !(['"', '<', '>', '\x60'].contains c)

/-- A character that a path keeps. -/
def keptInPath (c : Char) : Bool :=
  keptInFragment c && !(['#', '?', '{', '}'].contains c)

/-- A character that a user name keeps. -/
def keptInUserInfo (c : Char) : Bool :=
  keptInPath c && !(['/', ':', ';', '=', '@', '[', '\\', ']', '^', '|'].contains c)

/-- A character that a query keeps. -/
def keptInQuery (c : Char) : Bool :=
  32 < c.toNat && c.toNat < 127 && !(['"', '#', '<', '>', '\''].contains c)

/-- The scheme and what follows its colon. -/
def splitScheme (cs : List Char) : Option (String × List Char) :=
  match Text.cutAt ':' cs with
  | (c :: name, some rest) =>
    if c.isAlpha && name.all (fun d => d.isAlphanum || d == '+' || d == '-' || d == '.') then
      some (Text.lowerAscii (String.ofList (c :: name)), rest)
    else none
  | _ => none

/-- A slash of either direction. -/
def isSlash (c : Char) : Bool :=
  c == '/' || c == '\\'

/-- A character that ends the authority. -/
def endsAuthority (c : Char) : Bool :=
  isSlash c || c == '?' || c == '#'

/-- One number of an IPv4 address: decimal, octal after `0`, hexadecimal after `0x`. -/
def ipv4Number? (cs : List Char) : Option Nat :=
  let inBase (base : Nat) (ds : List Char) : Option Nat :=
    ds.foldlM (fun n c =>
      match Json.hexValue? c with
      | some d => if d < base then some (base * n + d) else none
      | none => none) 0
  match cs with
  | [] => none
  | '0' :: x :: ds =>
    if x = 'x' ∨ x = 'X' then inBase 16 ds else inBase 8 (x :: ds)
  | ds => inBase 10 ds

/-- The labels of a domain without a final empty one. -/
def domainLabels (host : List Char) : List (List Char) :=
  let labels := Text.pieces (· == '.') host
  if labels.length > 1 ∧ labels.getLast? = some [] then labels.dropLast else labels

/-- A host whose last label is a number is an IPv4 address. -/
def endsInNumber (host : List Char) : Bool :=
  match (domainLabels host).getLast? with
  | some label =>
    (!label.isEmpty && label.all Json.isDigit) ||
      (label.take 2 |>.map Char.toLower) == ['0', 'x'] && (ipv4Number? label).isSome
  | none => false

/-- The value of an IPv4 address with one to four numbers, the last one filling up the rest. -/
def ipv4Value? (host : List Char) : Option Nat := do
  let numbers ← (domainLabels host).mapM ipv4Number?
  let last ← numbers.getLast?
  let first := numbers.dropLast
  if numbers.length ≤ 4 ∧ first.all (· < 256) ∧ last < Nat.pow 256 (5 - numbers.length) then
    some (first.foldl (fun value n => 256 * value + n) 0 * Nat.pow 256 (5 - numbers.length) + last)
  else none

/-- Four numbers with points between them. -/
def ipv4Text (n : Nat) : List Char :=
  let part (k : Nat) : List Char := Nat.toDigits 10 (n / Nat.pow 256 k % 256)
  part 3 ++ '.' :: part 2 ++ '.' :: part 1 ++ '.' :: part 0

/-- The 16-bit groups written between colons; an IPv4 address may stand for the last two. -/
def ipv6Groups? (cs : List Char) : Option (List Nat) :=
  if cs.isEmpty then some []
  else
    let parts := Text.pieces (· == ':') cs
    let group? (p : List Char) : Option Nat :=
      if p.isEmpty || 4 < p.length then none
      else p.foldlM (fun n c => (Json.hexValue? c).map (16 * n + ·)) 0
    match parts.getLast? with
    | some last =>
      if last.contains '.' then do
        let front ← parts.dropLast.mapM group?
        let numbers ← (Text.pieces (· == '.') last).mapM fun p =>
          if !p.isEmpty && p.length ≤ 3 && p.all Json.isDigit && Json.digitsValue p < 256 &&
              (p.length = 1 || p.head? != some '0') then some (Json.digitsValue p) else none
        match numbers with
        | [a, b, c, d] => some (front ++ [256 * a + b, 256 * c + d])
        | _ => none
      else parts.mapM group?
    | none => none

/-- The first place of a double colon. -/
def splitDoubleColon : List Char → Option (List Char × List Char)
  | [] => none
  | ':' :: ':' :: rest => some ([], rest)
  | c :: cs => (splitDoubleColon cs).map fun (a, b) => (c :: a, b)

/-- The eight groups of an IPv6 address. -/
def ipv6Value? (cs : List Char) : Option (List Nat) :=
  match splitDoubleColon cs with
  | none => (ipv6Groups? cs).filter (·.length = 8)
  | some (front, back) => do
    let a ← ipv6Groups? front
    let b ← ipv6Groups? back
    if front.contains '.' then none
    else if a.length + b.length ≤ 7 then
      some (a ++ List.replicate (8 - a.length - b.length) 0 ++ b)
    else none

/-- The length of the run of zeros at the front. -/
def zeroRun (groups : List Nat) : Nat :=
  (groups.takeWhile (· == 0)).length

/-- Start and length of the first longest run of zeros. -/
def longestZeroRun : Nat → List Nat → Nat × Nat
  | _, [] => (0, 0)
  | i, g :: gs =>
    let here := zeroRun (g :: gs)
    let later := longestZeroRun (i + 1) gs
    if later.2 ≤ here then (i, here) else later

/-- Groups in hexadecimal with colons between them. -/
def ipv6Part (groups : List Nat) : List Char :=
  List.intercalate [':'] (groups.map (Nat.toDigits 16))

/-- An IPv6 address with its longest run of zeros left out. -/
def ipv6Text (groups : List Nat) : List Char :=
  let (start, length) := longestZeroRun 0 groups
  if length < 2 then ipv6Part groups
  else ipv6Part (groups.take start) ++ [':', ':'] ++ ipv6Part (groups.drop (start + length))

/-- Characters that no domain name may hold. -/
def forbiddenInDomain (c : Char) : Bool :=
  c.toNat ≤ 32 || c.toNat == 127 ||
    ['#', '%', '/', ':', '<', '>', '?', '@', '[', '\\', ']', '^', '|'].contains c

/-- The character that a domain name has for another one; soft hyphens and joiners vanish. -/
def domainChar (c : Char) : List Char :=
  let n := c.toNat
  if n == 0xAD || n == 0x200B || n == 0x2060 || n == 0xFEFF then []
  else if n == 0x3002 || n == 0xFF0E || n == 0xFF61 then ['.']
  else if 0xFF01 ≤ n && n ≤ 0xFF5E then [(Char.ofNat (n - 0xFEE0)).toLower]
  else Text.lowerChar c

/-- The normal form of a host. -/
def host (cs : List Char) : Except AddressFault String :=
  match cs with
  | [] => .error .emptyHost
  | '[' :: rest =>
    if rest.getLast? = some ']' then
      match ipv6Value? rest.dropLast with
      | some groups => .ok (String.ofList ('[' :: ipv6Text groups ++ [']']))
      | none => .error .badIpv6
    else .error .badIpv6
  | _ =>
    match Text.utf8Text? (Text.percentBytes cs) with
    | none => .error .badDomain
    | some decoded =>
      let mapped := decoded.flatMap domainChar
      let domain := List.intercalate ['.'] ((Text.pieces (· == '.') mapped).map asciiLabel)
      if domain.any forbiddenInDomain then .error .badDomain
      else if domain.isEmpty then .error .emptyHost
      else if endsInNumber domain then
        match ipv4Value? domain with
        | some n => .ok (String.ofList (ipv4Text n))
        | none => .error .badIpv4
      else .ok (String.ofList domain)

/-- Where the host ends: at the first colon outside brackets. -/
def splitPort : Bool → List Char → List Char × Option (List Char)
  | _, [] => ([], none)
  | inside, c :: cs =>
    if c = ':' ∧ ¬ inside then ([], some cs)
    else
      let inside := if c = '[' then true else if c = ']' then false else inside
      let (h, p) := splitPort inside cs
      (c :: h, p)

/-- The port, unless it is the default one. -/
def port (default : Option Nat) : Option (List Char) → Except AddressFault (Option Nat)
  | none => .ok none
  | some digits =>
    if !digits.all Json.isDigit then .error .badPort
    else if digits.isEmpty then .ok none
    else
      let n := Json.digitsValue digits
      if 65535 < n then .error .badPort else .ok (if some n = default then none else some n)

/-- User name and password as they stand before the at sign. -/
def userInfo (cs : List Char) : String :=
  let encode := Text.percentEncode keptInUserInfo
  match Text.cutAt ':' cs with
  | (user, none) => String.ofList (encode user)
  | (user, some []) => String.ofList (encode user)
  | (user, some password) => String.ofList (encode user ++ ':' :: encode password)

/-- A segment that stands for the current level. -/
def isSingleDot (s : List Char) : Bool :=
  s == ['.'] || (s.map Char.toLower) == ['%', '2', 'e']

/-- A segment that stands for the level above. -/
def isDoubleDot (s : List Char) : Bool :=
  let s := s.map Char.toLower
  s == ['.', '.'] || s == ".%2e".toList || s == "%2e.".toList || s == "%2e%2e".toList

/-- The segments that remain when dot segments are followed; `done` has the last one first. -/
def resolveDots : List (List Char) → List (List Char) → List (List Char)
  | done, [] => done.reverse
  | done, s :: rest =>
    if isDoubleDot s then
      resolveDots (if rest.isEmpty then [] :: done.drop 1 else done.drop 1) rest
    else if isSingleDot s then
      resolveDots (if rest.isEmpty then [] :: done else done) rest
    else resolveDots (Text.percentEncode keptInPath s :: done) rest

/-- The normal form of a path after the host. -/
def normalPath (cs : List Char) : String :=
  let cs :=
    match cs with
    | c :: rest => if isSlash c then rest else cs
    | [] => []
  String.ofList ('/' :: List.intercalate ['/'] (resolveDots [] (Text.pieces isSlash cs)))

/-- The parts after the slashes that follow a scheme. -/
def WebAddress.afterSlashes (scheme : String) (cs : List Char) :
    Except AddressFault WebAddress := do
  let authority := cs.takeWhile (!endsAuthority ·)
  let rest := cs.dropWhile (!endsAuthority ·)
  let (user, hostPort) :=
    match Text.cutAtLast '@' authority with
    | some (user, hostPort) => (user, hostPort)
    | none => ([], authority)
  let (hostChars, portChars) := splitPort false hostPort
  let host ← Url.host hostChars
  let port ← Url.port (defaultPort? scheme) portChars
  let (beforeFragment, fragment) := Text.cutAt '#' rest
  let (path, query) := Text.cutAt '?' beforeFragment
  return {
    scheme
    userInfo := Url.userInfo user
    host
    port
    path := normalPath path
    query := query.map fun q => String.ofList (Text.percentEncode keptInQuery q)
    fragment := fragment.map fun f => String.ofList (Text.percentEncode keptInFragment f) }

/-- What an address text stands for. -/
inductive Reading where
  | web (address : WebAddress)
  /-- An address of a scheme without a host of this kind. -/
  | other (scheme : String)

/-- Read an address text: control characters and spaces around it are dropped, tabs and line
breaks are dropped everywhere. -/
def Reading.ofText (s : String) : Except AddressFault Reading :=
  if s = "" then .error .emptyInput
  else
    let cs := (Text.trimBoth (·.toNat ≤ 32) s.toList).filter
      fun c => c != '\t' && c != '\n' && c != '\r'
    match splitScheme cs with
    | none => .error .noScheme
    | some (scheme, rest) =>
      if (defaultPort? scheme).isSome then
        (WebAddress.afterSlashes scheme (rest.dropWhile isSlash)).map .web
      else .ok (.other scheme)

end MangaShelf.Url
