import Ingest.Address.Basic
import Ingest.Time.Stamp
import Ingest.Value.Reading

/-!
# Error — what ends a run

An `Error` is the cause of a failed extraction, aggregation, commit or checkpoint access; `message`
is its wording. Code that is handed to a pipeline (sources, sinks, keys, merges) may also panic, as
does a sum that its counter cannot hold, and a `Fault` is either of the two.
-/

namespace Ingest

/-- Why a database did not answer a statement. -/
inductive DatabaseError where
  | rowNotFound
  | poolTimedOut
  | poolClosed
  | workerCrashed
  /-- The server broke the wire protocol. -/
  | protocol (detail : String)
  /-- The server refused the statement. -/
  | server (detail : String)
  /-- The server could not be reached. -/
  | network (detail : String)
  /-- The address of the server is unusable. -/
  | address (fault : AddressFault)
deriving DecidableEq, Repr

namespace DatabaseError

/-- The wording of a database error. -/
def message : DatabaseError → String
  | rowNotFound => "no rows returned by a query that expected to return at least one row"
  | poolTimedOut => "pool timed out while waiting for an open connection"
  | poolClosed => "attempted to acquire a connection on a closed pool"
  | workerCrashed => "attempted to communicate with a crashed background worker"
  | protocol d => "encountered unexpected or invalid data: " ++ d
  | server d => "error returned from database: " ++ d
  | network d => "error communicating with database: " ++ d
  | address fault => "error with configuration: " ++ fault.message

/-- The causes below a database error, outermost first. -/
def causes : DatabaseError → List String
  | server d | network d => [d]
  | address fault => fault.chain
  | _ => []

end DatabaseError

/-- What ends a run. -/
inductive Error where
  /-- A row has an earlier timestamp than one before it. -/
  | ordering (current previous : Instant)
  /-- A full page holds one timestamp only, so it has no safe end. -/
  | pageBoundary (limit page : Nat)
  | batchCommit (detail : String)
  | extraction (detail : String)
  | transform (detail : String)
  /-- A group left the cache while the hand-off queue was full. -/
  | handOffOverflow (capacity : Nat)
  | repository (detail : String)
  | database (cause : DatabaseError)
  | config (detail : String)
  | pipelineNotFound (name : String)
  /-- A panic that was caught. -/
  | panicked (detail : String)
  | io (detail : String)
  | serialization (cause : Value.ReadError)
deriving DecidableEq

namespace Error

/-- The wording of an error. -/
def message : Error → String
  | ordering current previous =>
    "Timestamps are not in ascending order: " ++ current.display ++ " < " ++ previous.display
  | pageBoundary limit page =>
    "No rows could be emitted on page " ++ toString page ++ " because all " ++ toString limit ++
      " fetched rows share one timestamp. Please increase the extraction limit (current: " ++
      toString limit ++ ")."
  | batchCommit d => "Batch commit failed: " ++ d
  | extraction d => "Extraction failed: " ++ d
  | transform d => "Transformation failed: " ++ d
  | handOffOverflow capacity =>
    "Aggregation hand-off queue overflowed its capacity of " ++ toString capacity ++ " groups"
  | repository d => "Metadata repository error: " ++ d
  | database e => "Database error: " ++ e.message
  | config d => "Configuration error: " ++ d
  | pipelineNotFound name => "Pipeline '" ++ name ++ "' is not registered with this orchestrator"
  | panicked d => "Pipeline panicked: " ++ d
  | io d => "IO error: " ++ d
  | serialization e => "Serialization error: " ++ e.message

/-- The wording of an error and of each cause below it, outermost first. -/
def chain (e : Error) : List String :=
  e.message ::
    match e with
    | database cause => cause.message :: cause.causes
    | io d => [d]
    | serialization cause => [cause.message]
    | _ => []

end Error

/-- What a panic carries. -/
inductive Panic where
  /-- A text. -/
  | text (s : String)
  /-- Something that is no text. -/
  | other
deriving DecidableEq, Repr

namespace Panic

/-- The wording of a panic. -/
def message : Panic → String
  | text s => s
  | other => "unknown panic payload"

/-- A counter cannot hold a sum. -/
def counterOverflow : Panic := .text "attempt to add with overflow"

/-- A duration cannot hold a sum. -/
def durationOverflow : Panic := .text "overflow when adding durations"

end Panic

/-- How a step of foreign code can go wrong. -/
inductive Fault where
  | error (e : Error)
  | panic (p : Panic)
deriving DecidableEq

/-- The error that stands for a fault once panics are caught. -/
def Fault.caught : Fault → Error
  | .error e => e
  | .panic p => .panicked p.message

/-- What a step of foreign code answers. -/
abbrev Attempt (α : Type) := Except Fault α

end Ingest
