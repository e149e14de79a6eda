import Ingest.Settings.Error
import Ingest.Text.Blank
import Ingest.Text.Numeral
import Ingest.Time.Reading

/-!
# Settings/Basic — how pipelines are run

Every setting has a default except the address of the target database. Settings are read in a fixed
order and checked only after all of them are read, so of several faults the first one in that order
is reported.
-/

namespace Ingest

open Text

/-- How pipelines are run. -/
structure Settings where
  /-- The number of rows that completes a batch. -/
  batchSize : Nat
  /-- The wanted size of a page. -/
  extractionLimit : Nat
  /-- The number of rows kept between the extraction and the loaders. -/
  fanOutBuffer : Nat
  /-- The time between two reports of progress, in seconds. -/
  progressInterval : Nat
  /-- A pipeline that was never run starts after this instant. -/
  initial : Instant
  /-- The group that is processed. -/
  group : String
  /-- The schema of the checkpoints. -/
  schema : String
  /-- The address of the target database, which also holds the checkpoints. -/
  targetUrl : String
  /-- The address of the source database. -/
  sourceUrl : String
deriving DecidableEq

namespace Settings

/-- Refuses a number that must not be zero. -/
def checkPositive (name : String) (n : Nat) : Except SettingsError Unit :=
  if n = 0 then .error (.invalid name "0" "must be greater than 0") else .ok ()

/-- Refuses a text of nothing but blanks. -/
def checkPresent (s complaint : String) : Except SettingsError Unit :=
  if blank s then .error (.config complaint) else .ok ()

/-- Refuses settings with which nothing can be run. -/
def check (s : Settings) : Except SettingsError Unit := do
  checkPositive "ETL_BATCH_SIZE" s.batchSize
  checkPositive "ETL_EXTRACTION_LIMIT" s.extractionLimit
  checkPositive "ETL_FANOUT_BUFFER" s.fanOutBuffer
  checkPositive "ETL_PROGRESS_INTERVAL_SECS" s.progressInterval
  checkPresent s.group "ETL_GROUP_ID must not be empty"
  checkPresent s.targetUrl "DATABASE_URL not set"
  checkPresent s.sourceUrl "SOURCE_DATABASE_URL is empty"

/-- Reads a number of 64 bits, if it is set; blanks around it are ignored. -/
def readNumber (env : Environment) (name : String) (default : Nat) : Except SettingsError Nat :=
  match env name with
  | none => .ok default
  | some value =>
    (readNumeral maxUnsigned64 (trim value)).mapError fun e => .invalid name value e.message

/-- Reads an instant, if it is set. -/
def readInstant (env : Environment) (name : String) (default : Instant) :
    Except SettingsError Instant :=
  match env name with
  | none => .ok default
  | some value => (Instant.ofStamp value).mapError fun e => .invalid name value e.message

/-- Reads and checks the settings. -/
def ofEnvironment (env : Environment) : Except SettingsError Settings := do
  let targetUrl := (env "DATABASE_URL").getD ""
  let initial ← readInstant env "ETL_INIT_TIMESTAMP" .epoch
  let settings : Settings := {
    batchSize := ← readNumber env "ETL_BATCH_SIZE" 1000
    extractionLimit := ← readNumber env "ETL_EXTRACTION_LIMIT" 100000
    fanOutBuffer := ← readNumber env "ETL_FANOUT_BUFFER" 2000
    progressInterval := ← readNumber env "ETL_PROGRESS_INTERVAL_SECS" 10
    initial := initial
    group := (env "ETL_GROUP_ID").getD "default"
    schema := (env "ETL_SCHEMA").getD "etl"
    targetUrl := targetUrl
    sourceUrl := (env "SOURCE_DATABASE_URL").getD targetUrl }
  settings.check
  return settings

end Settings

end Ingest
