import Ingest.Error
import Ingest.Row
import Ingest.Status
import Ingest.Value.Record

/-!
# Checkpoint — how far a pipeline has come

One checkpoint is kept for each pipeline of a group. It is written when a run starts and when it
ends, and only `upTo` says where the next run starts. Counters are signed integers of 64 bits:
`recorded` adds them up without this limit, and `TotalsFit` says that they stay within it. A program
that adds up totals beyond it panics.
-/

namespace Ingest

/-- The stored state of a pipeline. -/
structure Checkpoint where
  /-- The group the pipeline is run for. -/
  group : String
  /-- The name of the pipeline. -/
  pipeline : String
  /-- Everything up to this instant is committed to every sink. -/
  upTo : Instant
  /-- When the last run started. -/
  lastRunAt : Instant
  /-- How the last run ended, or that one is going on. -/
  status : Status
  /-- The duration of the last run in milliseconds. -/
  duration : Int
  /-- The rows of the last run. -/
  rows : Int
  /-- What went wrong in the last run. -/
  message : Option String
  /-- The duration of all runs. -/
  totalDuration : Int
  /-- The rows of all runs. -/
  totalRows : Int
deriving DecidableEq

namespace Checkpoint

/-- The checkpoint of a pipeline that was never run and starts after `initial`. -/
def neverRun (group pipeline : String) (initial : Instant) : Checkpoint where
  group := group
  pipeline := pipeline
  upTo := initial
  lastRunAt := initial
  status := .neverRun
  duration := 0
  rows := 0
  message := none
  totalDuration := 0
  totalRows := 0

/-- The checkpoint while a run that started at `now` goes on. -/
def loading (c : Checkpoint) (now : Instant) : Checkpoint :=
  { c with lastRunAt := now, status := .loading, message := none }

/-- The checkpoint after a run that started at `now`, whatever the size of the totals. -/
def recorded (c : Checkpoint) (now : Instant) (status : Status) (upTo : Instant)
    (duration rows : Int) (message : Option String) : Checkpoint :=
  { c with
    upTo := upTo
    lastRunAt := now
    status := status
    duration := duration
    rows := rows
    message := message
    totalDuration := c.totalDuration + duration
    totalRows := c.totalRows + rows }

/-- Whether a number is a signed integer of 64 bits. -/
def IsCounter (n : Int) : Prop := -0x8000000000000000 ≤ n ∧ n ≤ 0x7fffffffffffffff

/-- Whether the totals are counters. -/
def TotalsFit (c : Checkpoint) : Prop := IsCounter c.totalDuration ∧ IsCounter c.totalRows

instance (n : Int) : Decidable (IsCounter n) := inferInstanceAs (Decidable (_ ∧ _))

instance (c : Checkpoint) : Decidable c.TotalsFit := inferInstanceAs (Decidable (_ ∧ _))

/-! ## As data -/

/-- The names of the fields, in their order. -/
def fieldNames : List String :=
  ["group_id", "pipeline_name", "last_processed_at", "last_run_at", "status", "duration_ms",
    "rows_processed", "error_message", "total_duration_ms", "total_rows_processed"]

/-- The fields with their values, in their order. -/
def members (c : Checkpoint) : List (String × Value) :=
  [("group_id", .string c.group), ("pipeline_name", .string c.pipeline),
    ("last_processed_at", .string c.upTo.text), ("last_run_at", .string c.lastRunAt.text),
    ("status", .string c.status.text), ("duration_ms", .ofInt c.duration),
    ("rows_processed", .ofInt c.rows), ("error_message", .ofString? c.message),
    ("total_duration_ms", .ofInt c.totalDuration), ("total_rows_processed", .ofInt c.totalRows)]

/-- The checkpoint as an object. -/
def toValue (c : Checkpoint) : Value := .ofMembers c.members

/-- Reads a checkpoint. Only the message may be missing. -/
def ofValue? (v : Value) : Option Checkpoint := do
  let field ← v.fields? .json fieldNames
  return {
    group := ← (← field "group_id").string?
    pipeline := ← (← field "pipeline_name").string?
    upTo := ← Row.timestampOf? (← field "last_processed_at")
    lastRunAt := ← Row.timestampOf? (← field "last_run_at")
    status := ← Status.ofText? (← (← field "status").caseName? .json)
    duration := ← (← field "duration_ms").int64?
    rows := ← (← field "rows_processed").int64?
    message := ← Value.optional? Value.string? (field "error_message")
    totalDuration := ← (← field "total_duration_ms").int64?
    totalRows := ← (← field "total_rows_processed").int64? }

end Checkpoint

end Ingest
