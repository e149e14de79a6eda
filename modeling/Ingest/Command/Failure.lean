import Ingest.Error
import Ingest.Settings.File

/-!
# Command/Failure — why a command did nothing

A command that cannot be carried out tells where it stopped, and below that every cause down to the
first one.
-/

namespace Ingest

/-- Why a command did nothing. -/
inductive CommandFailure where
  /-- The settings are unusable. -/
  | settings (cause : SettingsError)
  /-- The pipelines file is unusable. -/
  | pipelinesFile (cause : FileError)
  /-- The target database cannot be reached. -/
  | target (cause : DatabaseError)
  /-- The source database cannot be reached. -/
  | source (cause : DatabaseError)
  /-- A pipeline of the file cannot be built. -/
  | pipeline (name : String) (cause : Error)
  /-- The checkpoints or the named pipeline cannot be used. -/
  | execution (cause : Error)
deriving DecidableEq

namespace CommandFailure

/-- The wording of a failure and of each cause below it, outermost first. -/
def chain : CommandFailure → List String
  | settings cause => ["Invalid ETL configuration", cause.message]
  | pipelinesFile cause => cause.chain
  | target cause => "Failed to connect to the target database" :: (Error.database cause).chain
  | source cause => "Failed to connect to the source database" :: (Error.database cause).chain
  | pipeline name cause => ("Failed to build pipeline '" ++ name ++ "'") :: cause.chain
  | execution cause => cause.chain

end CommandFailure

/-- Wordings on one line, outermost first. -/
def chainText (chain : List String) : String := ": ".intercalate chain

end Ingest
