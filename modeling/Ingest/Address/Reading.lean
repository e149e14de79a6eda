import Ingest.Address.Basic
import Ingest.Address.DomainName
import Ingest.Address.Ip
import Ingest.Text.Percent

/-!
# Address/Reading — taking addresses apart

Spaces and controls around an address, and tabs and line breaks in it, do not count. Schemes of the web
name a server by a domain name and take a backslash for a slash; the scheme of files may do without a
server; all other schemes leave the name of the server as it is.
-/

namespace Ingest.Address

open Text

/-! ## Schemes -/

/-- How a scheme names servers. -/
inductive SchemeKind where
  | web
  | file
  | other
deriving DecidableEq, Repr

/-- The kind of a scheme. -/
def kindOf (scheme : String) : SchemeKind :=
  if ["http", "https", "ws", "wss", "ftp"].contains scheme then .web
  else if scheme = "file" then .file
  else .other

/-- The port of a scheme that need not be given. -/
def standardPort? (scheme : String) : Option Nat :=
  [("http", 80), ("https", 443), ("ws", 80), ("wss", 443), ("ftp", 21)].lookup scheme

/-- The characters of an address that count. -/
def significant (s : String) : List Char :=
  let strip (cs : List Char) := cs.dropWhile (· ≤ ' ')
  let inner := (strip (strip s.toList).reverse).reverse
  inner.filter fun c => !(c == '\t' || c == '\n' || c == '\r')

/-- The scheme of an address and what follows it: a letter, then letters, digits, `+`, `-` and `.` up
to a colon. -/
def scheme? (cs : List Char) : Option (String × List Char) :=
  let inScheme (c : Char) := c.isAlphanum || c == '+' || c == '-' || c == '.'
  match cs.head?, cs.dropWhile inScheme with
  | some c, ':' :: rest =>
    if c.isAlpha then some ((String.ofList (cs.takeWhile inScheme)).toLower, rest) else none
  | _, _ => none

/-- Whether a character counts as a slash. -/
def isSlash (kind : SchemeKind) (c : Char) : Bool := c == '/' || (kind ≠ .other && c == '\\')

/-- Whether a character ends the part of an address that names the server. -/
def endsServer (kind : SchemeKind) (c : Char) : Bool := isSlash kind c || c == '?' || c == '#'

/-! ## Servers -/

/-- Reads the name of a server where a scheme leaves it as it is. -/
def plainHost (cs : List Char) : Except AddressFault (List Char) :=
  match cs with
  | '[' :: inner =>
    if inner.getLast? = some ']' ∧ (Ip.version6? inner.dropLast).isSome then .ok cs else .error .badIpv6
  | _ =>
    if cs.any "\x00\t\n\r #/:<>?@[\\]^|".toList.contains then .error .badHostCharacter else .ok cs

/-- Reads the name of a server of the web. -/
def webHost (cs : List Char) : Except AddressFault (List Char) :=
  match cs with
  | '[' :: _ => plainHost cs
  | _ =>
    match DomainName.read? (decodePercent (utf8Bytes cs)) with
    | none => .error .badDomainName
    | some name =>
      if name.isEmpty then .error .emptyHost
      else if Ip.endsInNumber name then
        match Ip.hostVersion4? name with
        | some bytes => .ok (Ip.version4Text bytes)
        | none => .error .badIpv4
      else .ok name

/-- The name of a server at the front of a text, and what follows it. A colon ends the name, but not
in brackets. -/
def takeHost (kind : SchemeKind) (inBrackets : Bool) : List Char → List Char × List Char
  | [] => ([], [])
  | c :: rest =>
    if endsServer kind c || (c == ':' && !inBrackets) then ([], c :: rest)
    else
      let (host, after) := takeHost kind (c == '[' || (inBrackets && c != ']')) rest
      (c :: host, after)

/-- The port after the name of a server, and what follows it. No digits are no port. -/
def takePort : List Char → Except AddressFault (Option Nat × List Char)
  | ':' :: cs =>
    let digits := cs.takeWhile Char.isDigit
    let rest := cs.dropWhile Char.isDigit
    let ends := rest.head?.all fun c => endsServer .web c
    match readDigits 65535 0 digits with
    | .ok port =>
      if ends then .ok (if digits.isEmpty then none else some port, rest) else .error .badPort
    | .error _ => .error .badPort
  | cs => .ok (none, cs)

/-- A user and a password, as they stand before the last `@`. -/
structure Credentials where
  /-- The name of the user. -/
  user : List Char := []
  /-- The password. -/
  password : List Char := []
deriving DecidableEq, Repr

/-- The user and the password at the front of a text, and what follows them. Without both, an `@` must
not stand before the end of the server. -/
def takeCredentials (kind : SchemeKind) (cs : List Char) :
    Except AddressFault (Credentials × List Char) :=
  let front := cs.takeWhile fun c => !endsServer kind c
  let server := (front.reverse.takeWhile (· != '@')).reverse
  if server.length = front.length then .ok ({}, cs)
  else
    let credentials := front.take (front.length - server.length - 1)
    let rest := cs.drop (credentials.length + 1)
    if credentials.isEmpty ∧ rest.head?.any (endsServer kind) then .error .emptyHost
    else
      .ok (⟨credentials.takeWhile (· != ':'), (credentials.dropWhile (· != ':')).drop 1⟩, rest)

/-! ## Paths -/

/-- The segments of a path without those that stand for no step or one back; `done` holds the segments
before, last first. -/
def resolve (done : List (List Char)) : List (List Char) → List (List Char)
  | [] => done.reverse
  | segment :: rest =>
    let plain := (String.ofList segment).toLower
    let isBack := ["..", ".%2e", "%2e.", "%2e%2e"].contains plain
    if isBack || [".", "%2e"].contains plain then
      let done := if isBack then done.drop 1 else done
      resolve (if rest.isEmpty then [] :: done else done) rest
    else resolve (segment :: done) rest

/-- Divides what follows the server into a path and a query. -/
def pathAndQuery (cs : List Char) : List Char × List Char :=
  let inQuery := (cs.dropWhile fun c => !(c == '?' || c == '#'))
  let query := match inQuery with
    | '?' :: rest => rest.takeWhile (· != '#')
    | _ => []
  (cs.takeWhile fun c => !(c == '?' || c == '#'), query)

/-- An address with its path and its query. A path starts with a slash. -/
def finish (a : Address) (kind : SchemeKind) (cs : List Char) : Address :=
  let (path, query) := pathAndQuery cs
  let steps := path.map fun c => if isSlash kind c then '/' else c
  let steps := if steps.head? = some '/' then steps.drop 1 else steps
  if path.isEmpty ∧ kind = .other then { a with query := query }
  else
    { a with path := '/' :: ['/'].intercalate (resolve [] (steps.splitOn '/')), query := query }

/-! ## Addresses -/

/-- Reads what follows the slashes before a server. -/
def withServer (scheme : String) (cs : List Char) : Except AddressFault Address := do
  let kind := kindOf scheme
  let (credentials, cs) ← takeCredentials kind cs
  let (host, cs) := takeHost kind false cs
  if kind = .web ∧ host.isEmpty then .error .emptyHost
  let host ← if kind = .web then webHost host else plainHost host
  if host.isEmpty ∧ cs.head? = some ':' then .error .emptyHost
  let (port, cs) ← takePort cs
  if host.isEmpty ∧ !(credentials.user.isEmpty ∧ credentials.password.isEmpty) then
    .error .emptyHost
  let a : Address :=
    { scheme := scheme
      user := credentials.user
      password := credentials.password
      host := if host.isEmpty then none else some host
      port := if port = standardPort? scheme then none else port }
  return a.finish kind cs

/-- Whether a text is the letter of a drive. -/
def isDrive : List Char → Bool
  | [c, mark] => c.isAlpha && (mark == ':' || mark == '|')
  | _ => false

/-- Reads what follows the scheme of files. A drive is no server, and the server `localhost` need not
be named. -/
def ofFile (cs : List Char) : Except AddressFault Address := do
  let a : Address := { scheme := "file" }
  match cs with
  | first :: second :: rest =>
    if isSlash .file first ∧ isSlash .file second then
      let server := rest.takeWhile fun c => !endsServer .file c
      if server.isEmpty ∨ isDrive server then return a.finish .file rest
      let host ← webHost server
      let named := if host = "localhost".toList then none else some host
      return { a with host := named }.finish .file (rest.drop server.length)
    else return a.finish .file cs
  | _ => return a.finish .file cs

/-- Reads an address. -/
def ofText (s : String) : Except AddressFault Address :=
  match scheme? (significant s) with
  | none => .error .noScheme
  | some (scheme, rest) =>
    let a : Address := { scheme := scheme }
    match kindOf scheme, rest with
    | .web, _ => withServer scheme (rest.dropWhile (isSlash .web))
    | .file, _ => ofFile rest
    | .other, '/' :: '/' :: server => withServer scheme server
    | .other, '/' :: _ => .ok (a.finish .other rest)
    | .other, _ => .ok { a with path := (pathAndQuery rest).1, query := (pathAndQuery rest).2 }

end Ingest.Address
