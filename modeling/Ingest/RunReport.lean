import Ingest.Status
import Ingest.Time.Stamp
import Ingest.Value.Basic

/-!
# RunReport — what is told about one run

A report names the group and the job, and says how far the job got.
-/

namespace Ingest

/-- What an orchestrator tells about one run. -/
structure RunReport where
  /-- The group the job was run for. -/
  group : String
  /-- The name of the job. -/
  pipeline : String
  /-- Whether the run succeeded. -/
  status : Status
  /-- Everything up to this instant is committed to every sink. -/
  upTo : Instant
  /-- The rows of the run. -/
  rows : Nat
  /-- The duration of the run in milliseconds. -/
  duration : Nat
  /-- What went wrong. -/
  message : Option String
deriving DecidableEq

namespace RunReport

/-- The fields with their values, in their order. -/
def members (r : RunReport) : List (String × Value) :=
  [("group_id", .string r.group), ("pipeline_name", .string r.pipeline),
    ("status", .string r.status.text), ("last_processed_at", .string r.upTo.text),
    ("rows_processed", .ofNat r.rows), ("duration_ms", .ofNat r.duration),
    ("error_message", .ofString? r.message)]

/-- Whether the run failed. -/
def isFailed (r : RunReport) : Bool := r.status = .failed

end RunReport

end Ingest
