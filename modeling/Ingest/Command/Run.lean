import Ingest.Command.Arguments
import Ingest.Command.Failure
import Ingest.Orchestrator
import Ingest.Report.Results
import Ingest.Settings.Connection
import Ingest.Settings.Logging
import Ingest.Sql.CheckpointTable

/-!
# Command/Run — carrying out a command line

Nothing is done before everything is ready: the settings, the pipelines file, the connections, the
table of checkpoints and every pipeline, in this order. The exit code is 0 if every run succeeded, 1
if some run failed, and 2 if the command could not be carried out. A panic that nothing catches ends
the process with the exit code 101; its wording is not noted.
-/

namespace Ingest

/-- The process that carries out a command. `ω` is the world that statements may read and change. -/
structure Host (ω : Type) where
  /-- The settings of the process. -/
  environment : Environment
  /-- The text of a file, or why it cannot be read. -/
  fileText : String → Except String String
  /-- Creates a directory, or tells why not. -/
  createDirectory : String → Except String Unit
  /-- Opens a connection to a database. -/
  connect : ConnectionSettings → StateM ω (Except DatabaseError (Sql.Session ω))
  /-- The current time. -/
  clock : StateM ω Instant

/-- What a process leaves behind. -/
structure Outcome where
  /-- The exit code. -/
  exitCode : Nat
  /-- What is printed as the result. -/
  output : String := ""
  /-- Lines about errors, in order. -/
  notes : List String := []
deriving DecidableEq, Repr

namespace Host

variable {ω : Type}

/-! ## Logging -/

/-- The log settings of a command before the environment overrides them: statements are logged
only when something is wrong with them. -/
def logDefaults (verbose : Bool) : LogSettings :=
  { level := if verbose then .debug else .info, filter := some "sql=warn" }

/-- The log settings of a command; unusable ones are reported and ignored as a whole. -/
def logSettings (host : Host ω) (verbose : Bool) : LogSettings × List String :=
  match (logDefaults verbose).merge host.environment with
  | .ok settings => (settings, [])
  | .error e => (logDefaults verbose, ["Warning: ignoring LOG_* settings: " ++ e.message])

/-- What is reported while logging is set up. -/
def logNotes (host : Host ω) (verbose : Bool) : List String :=
  let (settings, notes) := host.logSettings verbose
  match settings.fault? host.createDirectory with
  | none => notes
  | some fault => notes ++ ["Warning: logging disabled: " ++ chainText fault.chain]

/-! ## Getting ready -/

/-- What a command does: it may read and change the world, and it may fail. -/
abbrev Action (ω : Type) := ExceptT CommandFailure (StateM ω)

/-- Turns an answer into an action. -/
def orFail {ε α : Type} (failure : ε → CommandFailure) (answer : Except ε α) : Action ω α :=
  liftM (answer.mapError failure : Except CommandFailure α)

/-- Opens a connection to an address. -/
def open? (host : Host ω) (url : String) (failure : DatabaseError → CommandFailure) :
    Action ω (Sql.Session ω) := do
  orFail failure (← host.connect (.ofEnvironment host.environment url))

/-- Opens the connections to the source and the target, which are one if their addresses are. -/
def connections (host : Host ω) (settings : Settings) :
    Action ω (Sql.Session ω × Sql.Session ω) := do
  let target ← host.open? settings.targetUrl .target
  if settings.sourceUrl = settings.targetUrl then return (target, target)
  return (← host.open? settings.sourceUrl .source, target)

/-- The table of checkpoints in the target database, which is created if it does not exist. -/
def checkpoints (settings : Settings) (target : Sql.Session ω) : Action ω (CheckpointStore ω) := do
  let schema ← orFail .execution (Sql.CheckpointSchema.ofName settings.schema)
  orFail .execution (← schema.create target)
  return schema.store target

/-- The orchestrator of the pipelines of a file. -/
def orchestrator (host : Host ω) (path : String) : Action ω (Orchestrator ω) := do
  let settings ← orFail .settings (Settings.ofEnvironment host.environment)
  let pipelines ← orFail .pipelinesFile (PipelineSettings.load path (host.fileText path))
  let (source, target) ← host.connections settings
  let store ← checkpoints settings target
  let jobs ← pipelines.mapM fun p => do
    return (← orFail (.pipeline p.name) (p.build settings source target)).toJob
  return {
    group := settings.group
    jobs := jobs
    store := store
    clock := host.clock
    batchSize := settings.batchSize
    initial := settings.initial }

/-! ## Commands -/

/-- The outcome of runs. -/
def runsOutcome (json : Bool) (reports : List RunReport) : Outcome where
  exitCode := if reports.any RunReport.isFailed then 1 else 0
  output := reportsText json reports ++ "\n"

/-- The outcome of what runs answer. -/
def answerOutcome (json : Bool) : Attempt (List RunReport) → Except CommandFailure Outcome
  | .ok reports => .ok (runsOutcome json reports)
  | .error (.error e) => .error (.execution e)
  | .error (.panic _) => .ok { exitCode := 101 }

/-- Carries out a command. -/
def perform (o : Orchestrator ω) (json : Bool) : Command → Action ω Outcome
  | .run name => do liftM (answerOutcome json ((← o.run name).map ([·])))
  | .runAll => do liftM (answerOutcome json ((← o.runAll).mapError .panic))
  | .rerun deleteData => do liftM (answerOutcome json (← o.rerun deleteData))
  | .status => do
    let checkpoints ← orFail .execution (← o.status)
    return { exitCode := 0, output := checkpointsText json checkpoints ++ "\n" }

/-- Carries out what the command line asks for, once logging is set up. -/
def invoke (host : Host ω) (i : Invocation) : StateM ω Outcome := do
  let notes := host.logNotes i.verbose
  let action : Action ω Outcome := do perform (← host.orchestrator i.pipelines) i.json i.command
  match ← action.run with
  | .ok outcome => return { outcome with notes := notes }
  | .error failure =>
    return { exitCode := 2, notes := notes ++ ["Error: " ++ chainText failure.chain] }

/-- Carries out a command line. -/
def run (host : Host ω) (args : List String) : StateM ω Outcome :=
  match Invocation.ofArguments (host.environment "ETL_PIPELINES_FILE") args with
  | .ok i => host.invoke i
  | .error e => return { exitCode := e.exitCode }

end Host

end Ingest
