import Ingest.Text.Numeral
import Ingest.Text.Quoted
import Ingest.Text.Utf8

/-!
# Address/Basic — addresses of databases

An address names a scheme, and perhaps a server, a user, a path and a query. It is taken apart first;
what its parts mean for a connection is decided afterwards, so there are faults of both kinds.
-/

namespace Ingest

open Text

/-- Why an address is unusable. -/
inductive AddressFault where
  | noScheme
  | emptyHost
  | badDomainName
  | badHostCharacter
  | badPort
  | badIpv4
  | badIpv6
  /-- A part of the address is no text. -/
  | notText (fault : Utf8Fault)
  /-- What should be an IP address is none. -/
  | notIp
  /-- What should be a number is none. -/
  | notNumber (fault : NumeralError)
  | unknownSslMode (word : String)
deriving DecidableEq, Repr

namespace AddressFault

/-- The wording of a fault with the causes below it, outermost first. -/
def chain : AddressFault → List String
  | noScheme => ["relative URL without a base"]
  | emptyHost => ["empty host"]
  | badDomainName => ["invalid international domain name"]
  | badHostCharacter => ["invalid domain character"]
  | badPort => ["invalid port number"]
  | badIpv4 => ["invalid IPv4 address"]
  | badIpv6 => ["invalid IPv6 address"]
  | notText fault => [fault.message]
  | notIp => ["invalid IP address syntax"]
  | notNumber fault => [fault.message]
  | unknownSslMode word =>
    let cause := "unknown value " ++ quoted word ++ " for `ssl_mode`"
    ["error with configuration: " ++ cause, cause]

/-- The wording of a fault. -/
def message (f : AddressFault) : String := f.chain.headD ""

end AddressFault

/-- An address, taken apart. -/
structure Address where
  /-- The scheme, in lower case. -/
  scheme : String
  /-- The name of the user, as it is written. -/
  user : List Char := []
  /-- The password, as it is written. -/
  password : List Char := []
  /-- The server, if one is named. -/
  host : Option (List Char) := none
  /-- The port, if one is given. -/
  port : Option Nat := none
  /-- The path, as it is written. -/
  path : List Char := []
  /-- The query, as it is written. -/
  query : List Char := []
deriving DecidableEq, Repr

end Ingest
