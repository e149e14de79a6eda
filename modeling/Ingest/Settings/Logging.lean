import Ingest.Settings.Directive
import Ingest.Settings.Error

/-!
# Settings/Logging — where log lines go

Log settings start from defaults and are overridden one by one. Words are recognised in any case and
with blanks around them.
-/

namespace Ingest

open Text

/-- How important a log line is. -/
inductive LogLevel where
  | trace
  | debug
  | info
  | warn
  | error
deriving DecidableEq, Repr

/-- Where log lines are written. -/
inductive LogOutput where
  | console
  | file
  | both
deriving DecidableEq, Repr

/-- How log lines are written. -/
inductive LogFormat where
  | text
  | json
deriving DecidableEq, Repr

/-- The word for a level. -/
def LogLevel.word : LogLevel → String
  | trace => "trace"
  | debug => "debug"
  | info => "info"
  | warn => "warn"
  | error => "error"

/-- The word for an output. -/
def LogOutput.word : LogOutput → String
  | console => "console"
  | file => "file"
  | both => "both"

/-- The word for a format. -/
def LogFormat.word : LogFormat → String
  | text => "text"
  | json => "json"

/-- Finds a word among choices. -/
def choose {α : Type} (setting value : String) (choices : List (String × α)) :
    Except SettingsError α :=
  match choices.lookup (trim value).toLower with
  | some choice => .ok choice
  | none =>
    .error (.invalid setting value ("expected one of " ++ ", ".intercalate (choices.map (·.1))))

/-- Reads a level. -/
def LogLevel.ofText (s : String) : Except SettingsError LogLevel :=
  choose "LOG_LEVEL" s
    [("trace", trace), ("debug", debug), ("info", info), ("warn", warn), ("warning", warn),
      ("error", error)]

/-- Reads an output. -/
def LogOutput.ofText (s : String) : Except SettingsError LogOutput :=
  choose "LOG_OUTPUT" s [("console", console), ("stdout", console), ("file", file), ("both", both)]

/-- Reads a format. -/
def LogFormat.ofText (s : String) : Except SettingsError LogFormat :=
  choose "LOG_FORMAT" s [("text", text), ("json", json)]

/-- Reads a switch. -/
def readSwitch (setting value : String) : Except SettingsError Bool :=
  if value = "true" then .ok true
  else if value = "false" then .ok false
  else .error (.invalid setting value "provided string was not `true` or `false`")

/-- Which log lines are written, and where. -/
structure LogSettings where
  /-- The least level that is written. -/
  level : LogLevel := .info
  /-- Where lines go. -/
  output : LogOutput := .console
  /-- How lines look. -/
  format : LogFormat := .text
  /-- The directory of log files. -/
  directory : String := "./logs"
  /-- How the names of log files start. -/
  fileName : String := "tidemark"
  /-- Further rules about what is written. -/
  filter : Option String := none
  /-- Whether lines tell where they come from. -/
  includeLocation : Bool := false
deriving DecidableEq, Repr

namespace LogSettings

/-- Overrides one setting, if it is set. -/
def override (env : Environment) (name : String) (set : String → Except SettingsError LogSettings)
    (settings : LogSettings) : Except SettingsError LogSettings :=
  match env name with
  | none => .ok settings
  | some value => set value

/-- Overrides all settings that are set. -/
def merge (s : LogSettings) (env : Environment) : Except SettingsError LogSettings := do
  let s ← override env "LOG_LEVEL" (fun v => do return { s with level := ← LogLevel.ofText v }) s
  let s ← override env "LOG_OUTPUT" (fun v => do return { s with output := ← LogOutput.ofText v }) s
  let s ← override env "LOG_FORMAT" (fun v => do return { s with format := ← LogFormat.ofText v }) s
  let s ← override env "LOG_DIR" (fun v => .ok { s with directory := v }) s
  let s ← override env "LOG_FILE_PREFIX" (fun v => .ok { s with fileName := v }) s
  let s ← override env "LOG_FILTER" (fun v => .ok { s with filter := some v }) s
  override env "LOG_INCLUDE_LOCATION"
    (fun v => do return { s with includeLocation := ← readSwitch "LOG_INCLUDE_LOCATION" v }) s

/-- The settings as an object. -/
def toValue (s : LogSettings) : Value :=
  .ofMembers
    [("level", .string s.level.word), ("output", .string s.output.word),
      ("format", .string s.format.word), ("log_dir", .string s.directory),
      ("log_file_prefix", .string s.fileName), ("filter_directives", .ofString? s.filter),
      ("include_location", .bool s.includeLocation)]

/-- The rules of the filter. -/
def directives (s : LogSettings) : List String :=
  (((s.filter.getD "").splitOn ",").map trim).filter fun d => !d.isEmpty

/-- Whether log files are written. -/
def writesFiles (s : LogSettings) : Bool := s.output ≠ .console

/-- Why logging cannot be set up. -/
inductive Fault where
  /-- A rule of the filter cannot be read. -/
  | directive (text : String) (fault : DirectiveFault)
  /-- The directory of log files cannot be created. -/
  | directory (path detail : String)
deriving DecidableEq, Repr

/-- The wording of a fault and of the cause below it. -/
def Fault.chain : Fault → List String
  | directive text fault => ("Invalid LOG_FILTER directive '" ++ text ++ "'") :: fault.chain
  | directory path detail => ["Failed to create log directory " ++ path, detail]

/-- The first fault among the rules of the filter. -/
def filterFault? (s : LogSettings) : Option Fault :=
  s.directives.findSome? fun d => (directiveFault? d).map (.directive d)

/-- Why logging cannot be set up. Directories are created by `create`, and only if files are
written. -/
def fault? (s : LogSettings) (create : String → Except String Unit) : Option Fault :=
  match s.filterFault? with
  | some fault => some fault
  | none =>
    if s.writesFiles then
      match create s.directory with
      | .ok () => none
      | .error detail => some (.directory s.directory detail)
    else none

end LogSettings

end Ingest
