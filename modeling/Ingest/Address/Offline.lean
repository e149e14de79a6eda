import Ingest.Address.Ip

/-!
# Address/Offline — connecting without a network

A host without a network has no way to any other host, and not even to itself. It has a list with its
own name; for all other names it would have to ask, so it can only tell which are none.
-/

namespace Ingest.Offline

/-! ## Addresses -/

/-- There is no way to the address. -/
def noRoute : String := "Network is unreachable (os error 101)"

/-- Why an address of version 6 cannot be reached. There is no address to send from; groups of hosts
and addresses that stand for one of version 4 are looked up before that is noticed, and addresses of a
single link need to name the link. -/
def version6Fault (groups : List Nat) : String :=
  let first := groups.headD 0
  if groups.take 6 = [0, 0, 0, 0, 0, 0xFFFF] ∨ 0xFF00 ≤ first then noRoute
  else if 0xFE80 ≤ first ∧ first < 0xFEC0 then "Invalid argument (os error 22)"
  else "Cannot assign requested address (os error 99)"

/-! ## Names -/

/-- Whether a text is an address of version 4 in one of the forms that names of servers have, where
each number has digits and nothing follows the last one. -/
def isLooseVersion4 (cs : List Char) : Bool :=
  (Ip.hostVersion4? cs).isSome &&
    (cs.splitOn '.').all fun part => !part.isEmpty && part != ['0', 'x'] && part != ['0', 'X']

/-- Whether a text is a part of a name between dots. -/
def isLabel (cs : List Char) : Bool :=
  !cs.isEmpty && cs.length ≤ 63 && cs.all fun c => c.isAlphanum || c == '-' || c == '_'

/-- Whether a text is a name that one could ask for. A dot may end it, and stands for the root if it is
alone. -/
def isName (cs : List Char) : Bool :=
  let labels := Ip.hostParts cs
  cs == ['.'] ||
    (cs.head? != some '-' && labels.all isLabel && (['.'].intercalate labels).length ≤ 253)

/-- Why a server cannot be reached. Brackets around an address do not count. -/
def serverFault (host : String) : String :=
  let strip (cs : List Char) := cs.dropWhile fun c => c == '[' || c == ']'
  let name := (strip (strip host.toList).reverse).reverse
  let lookupFault (detail : String) := "failed to lookup address information: " ++ detail
  match Ip.version6? name with
  | some groups => version6Fault groups
  | none =>
    if name.contains '\x00' then "file name contained an unexpected NUL byte"
    else if isLooseVersion4 name || (String.ofList name).toLower = "localhost" then noRoute
    else if isName name then lookupFault "Temporary failure in name resolution"
    else lookupFault "Name or service not known"

/-! ## Sockets -/

/-- The longest path of a socket, in bytes. -/
def maxSocketPath : Nat := 107

/-- Why a socket cannot be opened. -/
def socketFault (path : String) : String :=
  if path.toList.contains '\x00' then "paths must not contain interior null bytes"
  else if maxSocketPath < path.utf8ByteSize then "path must be shorter than SUN_LEN"
  else "No such file or directory (os error 2)"

end Ingest.Offline
