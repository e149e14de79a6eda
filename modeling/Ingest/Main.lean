import Ingest.Command.Run

/-!
# Main — the command line program

Everything that a command may need is gathered first; what is done with it is decided in
`Ingest.Host.run`. The program is built without a database driver, so every connection fails as on a
host without a network, and the clock is never read.
-/

namespace Ingest

/-- The names of all settings. -/
def settingNames : List String :=
  ["DATABASE_URL", "SOURCE_DATABASE_URL", "ETL_PIPELINES_FILE", "ETL_BATCH_SIZE",
    "ETL_EXTRACTION_LIMIT", "ETL_FANOUT_BUFFER", "ETL_PROGRESS_INTERVAL_SECS",
    "ETL_INIT_TIMESTAMP", "ETL_GROUP_ID", "ETL_SCHEMA", "DB_MAX_CONNECTIONS",
    "DB_MIN_CONNECTIONS", "DB_CONNECT_TIMEOUT", "DB_IDLE_TIMEOUT", "PGHOSTADDR", "PGHOST", "PGPORT",
    "LOG_LEVEL", "LOG_OUTPUT", "LOG_FORMAT", "LOG_DIR", "LOG_FILE_PREFIX", "LOG_FILTER",
    "LOG_INCLUDE_LOCATION"]

/-- The settings of this process. -/
def readSettings : IO Environment := do
  let found ← settingNames.mapM fun name => do return (name, ← IO.getEnv name)
  return fun name => (found.lookup name).bind id

/-- The wording of an operating system error. -/
def systemErrorText : IO.Error → String
  | .noFileOrDirectory .. => "No such file or directory (os error 2)"
  | .permissionDenied .. => "Permission denied (os error 13)"
  | .alreadyExists .. => "File exists (os error 17)"
  | .inappropriateType (some _) 21 _ | .inappropriateType none 21 _ =>
    "Is a directory (os error 21)"
  | .inappropriateType .. => "Not a directory (os error 20)"
  | e => toString e

/-- The text of a file, or why it cannot be read. -/
def readText (path : String) : IO (Except String String) := do
  match ← (IO.FS.readBinFile path).toBaseIO with
  | .error e => return .error (systemErrorText e)
  | .ok bytes =>
    match String.fromUTF8? bytes with
    | some text => return .ok text
    | none => return .error "stream did not contain valid UTF-8"

/-- Creates a directory with the ones above it. -/
def makeDirectory (path : String) : IO (Except String Unit) := do
  return (← (IO.FS.createDirAll path).toBaseIO).mapError systemErrorText

/-- The host of a command line: this process with what the command line needs of it. -/
def gather (args : List String) : IO (Host Unit) := do
  let environment ← readSettings
  let bare : Host Unit := {
    environment := environment
    fileText := fun _ => .ok ""
    createDirectory := fun _ => .ok ()
    connect := fun settings => return .error settings.unreachable
    clock := return .epoch }
  match Invocation.ofArguments (environment "ETL_PIPELINES_FILE") args with
  | .error _ => return bare
  | .ok i =>
    let content ← readText i.pipelines
    let (logs, _) := bare.logSettings i.verbose
    let created ← if logs.writesFiles && logs.filterFault?.isNone then makeDirectory logs.directory
      else pure (.ok ())
    return { bare with fileText := fun _ => content, createDirectory := fun _ => created }

end Ingest

/-- Carries out the command line. -/
def main (args : List String) : IO UInt32 := do
  let (outcome, _) := (← Ingest.gather args).run args ()
  outcome.notes.forM IO.eprintln
  IO.print outcome.output
  return outcome.exitCode.toUInt32
