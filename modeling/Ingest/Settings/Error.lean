import Ingest.Value.Reading

/-!
# Settings/Error — what is wrong with the settings

Errors that arise before any pipeline runs: unusable settings, files that cannot be read, files that
hold something else.
-/

namespace Ingest

/-- The settings of a process, by name. -/
abbrev Environment := String → Option String

/-- What is wrong with the settings. -/
inductive SettingsError where
  | io (detail : String)
  | serialization (cause : Value.ReadError)
  | config (detail : String)
  /-- A setting has a value that it cannot have. -/
  | invalid (name value reason : String)
deriving DecidableEq

/-- The wording of an error. -/
def SettingsError.message : SettingsError → String
  | io d => "IO error: " ++ d
  | serialization e => "Serialization error: " ++ e.message
  | config d => "Configuration error: " ++ d ++ ". Check the environment and the pipelines file."
  | invalid name value reason => "Invalid value '" ++ value ++ "' for " ++ name ++ ": " ++ reason

end Ingest
