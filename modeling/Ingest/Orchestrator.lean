import Ingest.CheckpointStore
import Ingest.Pipeline
import Ingest.RunReport

/-!
# Orchestrator — running jobs from their checkpoints

A run reads the checkpoint of its job, marks it as loading, executes the window from there to now
and records the outcome. Errors and panics of the job are recorded as a failed run that leaves `upTo`
where it was. Jobs run one at a time, and a failed one does not stop the others.

Sums are made where nothing catches a panic: a run whose totals are too great panics after it was
executed and before it is recorded, and the jobs after it do not run.

The duration of a run would be measured. It is the one of its result here, and zero without one.
-/

namespace Ingest

/-- Jobs and the place of their checkpoints. -/
structure Orchestrator (ω : Type) where
  /-- The group the jobs are run for. -/
  group : String
  /-- The jobs, in the order in which they run. -/
  jobs : List (Job ω)
  /-- Where the checkpoints are. -/
  store : CheckpointStore ω
  /-- The current time. -/
  clock : StateM ω Instant
  /-- The number of rows that completes a batch. -/
  batchSize : Nat := 1000
  /-- A job without a checkpoint starts after this instant. -/
  initial : Instant := .epoch

namespace Orchestrator

variable {ω : Type}

/-! ## One run -/

/-- The signed integer of 64 bits with the bits of a count. -/
def signed (count : Nat) : Int := (count : Int).bmod UInt64.size

/-- The checkpoint a job starts from. -/
def readCheckpoint (o : Orchestrator ω) (name : String) :
    StateM ω (Except Error Checkpoint) := do
  return (← o.store.get o.group name).map (·.getD (.neverRun o.group name o.initial))

/-- Reads the checkpoint of a job and marks it as loading. -/
def begin (o : Orchestrator ω) (name : String) (now : Instant) :
    StateM ω (Except Error Checkpoint) := do
  match ← o.readCheckpoint name with
  | .error e => return .error e
  | .ok previous => return (← o.store.put (previous.loading now)).map fun () => previous

/-- The report of a run of a job that started after `since`. -/
def reportOf (o : Orchestrator ω) (name : String) (since : Instant) :
    Attempt PipelineResult → RunReport
  | .ok r => ⟨o.group, name, r.status, max r.upTo since, r.rows, r.duration, r.message⟩
  | .error fault => ⟨o.group, name, .failed, since, 0, 0, some fault.caught.message⟩

/-- The report of a run whose checkpoint could not be read or marked. -/
def skipped (o : Orchestrator ω) (name : String) (e : Error) : RunReport :=
  ⟨o.group, name, .failed, o.initial, 0, 0, some e.message⟩

/-- The checkpoint that records a report. -/
def checkpointOf (previous : Checkpoint) (now : Instant) (r : RunReport) : Checkpoint :=
  previous.recorded now r.status r.upTo (signed r.duration) (signed r.rows) r.message

/-- Records a report. A report that cannot be recorded becomes a failure, and with totals that are
too great there is none. -/
def record (o : Orchestrator ω) (previous : Checkpoint) (now : Instant) (r : RunReport) :
    StateM ω (Except Panic RunReport) := do
  if ¬(checkpointOf previous now r).TotalsFit then return .error .counterOverflow
  match ← o.store.put (checkpointOf previous now r) with
  | .ok () => return .ok r
  | .error e =>
    return .ok { r with status := .failed, message := joinMessages r.message e.message }

/-- Runs one job. -/
def runJob (o : Orchestrator ω) (job : Job ω) : StateM ω (Except Panic RunReport) := do
  let now ← o.clock
  match ← o.begin job.name now with
  | .error e => return .ok (o.skipped job.name e)
  | .ok previous =>
    let outcome ← job.execute ⟨o.group, ⟨previous.upTo, now⟩, max o.batchSize 1⟩
    o.record previous now (o.reportOf job.name previous.upTo outcome)

/-! ## Commands -/

/-- Runs the first job with a given name. -/
def run (o : Orchestrator ω) (name : String) : StateM ω (Attempt RunReport) :=
  match o.jobs.find? fun job => job.name = name with
  | some job => return (← o.runJob job).mapError .panic
  | none => return .error (.error (.pipelineNotFound name))

/-- Runs jobs in order, up to the first panic. -/
def runJobs (o : Orchestrator ω) : List (Job ω) → StateM ω (Except Panic (List RunReport))
  | [] => return .ok []
  | job :: rest => do
    match ← o.runJob job with
    | .ok report => return (← o.runJobs rest).map (report :: ·)
    | .error p => return .error p

/-- The rows of all runs. -/
def sumRows (reports : List RunReport) : Nat := reports.foldr (fun report n => report.rows + n) 0

/-- Reports whose rows can be counted over all runs. -/
def countedReports (reports : List RunReport) : Except Panic (List RunReport) :=
  if LoadResult.maxRows < sumRows reports then .error .counterOverflow else .ok reports

/-- Runs every job in order. -/
def runAll (o : Orchestrator ω) : StateM ω (Except Panic (List RunReport)) := do
  return (← o.runJobs o.jobs).bind countedReports

/-- Does something for every job in order, up to the first failure. -/
def forEachJob (act : Job ω → StateM ω (Except Error Unit)) :
    List (Job ω) → StateM ω (Except Error Unit)
  | [] => return .ok ()
  | job :: rest => do
    match ← act job with
    | .ok () => forEachJob act rest
    | .error e => return .error e

/-- Forgets every checkpoint, empties the sinks if asked to, and runs every job from the start. -/
def rerun (o : Orchestrator ω) (deleteData : Bool) : StateM ω (Attempt (List RunReport)) := do
  match ← forEachJob (fun job => o.store.delete o.group job.name) o.jobs with
  | .error e => return .error (.error e)
  | .ok () =>
    let emptied := if deleteData then o.jobs else []
    match ← forEachJob (fun job => job.cleanUp o.group) emptied with
    | .error e => return .error (.error e)
    | .ok () => return (← o.runAll).mapError .panic

/-- The checkpoints of jobs with these names, taken out of the stored ones; a checkpoint is taken
once. -/
def statusOf (o : Orchestrator ω) : List String → OrderedMap String Checkpoint → List Checkpoint
  | [], _ => []
  | name :: rest, stored =>
    (stored.get? name).getD (.neverRun o.group name o.initial) ::
      o.statusOf rest (stored.erase name)

/-- The checkpoint of every job; a job without one was never run. -/
def status (o : Orchestrator ω) : StateM ω (Except Error (List Checkpoint)) := do
  return (← o.store.list o.group).map fun stored =>
    o.statusOf (o.jobs.map (·.name)) (.ofList (stored.map fun c => (c.pipeline, c)))

end Orchestrator

end Ingest
