import Ingest.Address.Offline
import Ingest.Address.Reading
import Ingest.Error
import Ingest.Settings.Error

/-!
# Settings/Connection — how connections are pooled

An address names an endpoint, and may override it with options in its query; what it does not tell is
taken from the environment. An address is checked before anything is sent to it. A setting that cannot
be read counts as not set.
-/

namespace Ingest

open Text

/-- A number up to a bound, if it is set and can be read. -/
def Environment.number? (env : Environment) (bound : Nat) (name : String) : Option Nat :=
  (env name).bind fun value => (readNumeral bound value).toOption

/-! ## Endpoints -/

/-- Where a server listens. -/
structure Endpoint where
  /-- The name of the server. -/
  host : String := "localhost"
  /-- The port. -/
  port : Nat := 5432
  /-- The directory of a socket, which counts instead of the name. -/
  socket : Option String := none
deriving DecidableEq, Repr

namespace Endpoint

/-- The endpoint if an address names none. -/
def ofEnvironment (env : Environment) : Endpoint where
  host := ((env "PGHOSTADDR").or (env "PGHOST")).getD "localhost"
  port := (env.number? 65535 "PGPORT").getD 5432

/-- The text that a part of an address stands for. -/
def part (cs : List Char) : Except AddressFault String :=
  (ofUtf8 (decodePercent (utf8Bytes cs))).mapError .notText

/-- The words for how a connection is encrypted. -/
def sslModes : List String := ["disable", "allow", "prefer", "require", "verify-ca", "verify-full"]

/-- The endpoint after an option of an address. Options that are about something else are checked
only. -/
def withOption (e : Endpoint) (option : String × String) : Except AddressFault Endpoint :=
  let (name, value) := option
  if name = "sslmode" ∨ name = "ssl-mode" then
    if sslModes.contains value.toLower then .ok e else .error (.unknownSslMode value)
  else if name = "statement-cache-capacity" then
    match readNumeral maxUnsigned64 value with
    | .ok _ => .ok e
    | .error fault => .error (.notNumber fault)
  else if name = "host" then
    .ok (if value.startsWith "/" then { e with socket := some value } else { e with host := value })
  else if name = "hostaddr" then
    if Ip.isAddress value.toList then .ok { e with host := value } else .error .notIp
  else if name = "port" then
    match readNumeral 65535 value with
    | .ok port => .ok { e with port := port }
    | .error fault => .error (.notNumber fault)
  else .ok e

/-- The endpoint with the name of a server in an address. A name that starts with a slash, once percent
signs are decoded, is the directory of a socket. -/
def withHost (e : Endpoint) (host : Option (List Char)) : Except AddressFault Endpoint :=
  match host with
  | none => .ok e
  | some cs =>
    if (decodePercent (utf8Bytes cs)).head? = some 0x2F then do
      return { e with socket := some (← part cs) }
    else .ok { e with host := String.ofList cs }

/-- The endpoint that an address names, which overrides another one. Options in the query of the address
override its other parts, and each other. -/
def withAddress (e : Endpoint) (a : Address) : Except AddressFault Endpoint := do
  let e ← e.withHost a.host
  let _ ← part a.user
  let _ ← part a.password
  let _ ← part (a.path.dropWhile (· == '/'))
  (formPairs a.query).foldlM withOption { e with port := a.port.getD e.port }

/-- The directory of the socket that counts. A name that starts with a slash is one. -/
def socketDirectory? (e : Endpoint) : Option String :=
  e.socket.or (if e.host.startsWith "/" then some e.host else none)

/-- Why no connection to an endpoint is made on a host without sockets and without a network. -/
def offlineFault (e : Endpoint) : String :=
  match e.socketDirectory? with
  | some directory => Offline.socketFault (directory ++ "/.s.PGSQL." ++ toString e.port)
  | none => Offline.serverFault e.host

end Endpoint

/-! ## Pools -/

/-- How connections to a database are pooled. -/
structure ConnectionSettings where
  /-- The address of the database. -/
  url : String
  /-- The greatest number of connections. -/
  maxConnections : Nat
  /-- The least number of connections. -/
  minConnections : Nat
  /-- How long to wait for a connection, in seconds. -/
  connectTimeout : Nat
  /-- How long a connection may be idle, in seconds. -/
  idleTimeout : Option Nat
  /-- Where to connect to if the address does not tell. -/
  fallback : Endpoint := {}
deriving DecidableEq, Repr

namespace ConnectionSettings

/-- The pool settings for an address. -/
def ofEnvironment (env : Environment) (url : String) : ConnectionSettings where
  url := url
  maxConnections := (env.number? maxUnsigned32 "DB_MAX_CONNECTIONS").getD 10
  minConnections := (env.number? maxUnsigned32 "DB_MIN_CONNECTIONS").getD 1
  connectTimeout := (env.number? maxUnsigned64 "DB_CONNECT_TIMEOUT").getD 30
  idleTimeout := env.number? maxUnsigned64 "DB_IDLE_TIMEOUT"
  fallback := .ofEnvironment env

/-- Why a connection fails on a host without sockets and without a network. A pool that may hold no
connection or may not wait for one never gets as far as the network. -/
def unreachable (s : ConnectionSettings) : DatabaseError :=
  match (Address.ofText s.url).bind s.fallback.withAddress with
  | .error fault => .address fault
  | .ok endpoint =>
    if s.maxConnections = 0 ∨ s.connectTimeout = 0 then .poolTimedOut
    else .network endpoint.offlineFault

end ConnectionSettings

end Ingest
