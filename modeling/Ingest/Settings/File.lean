import Ingest.Settings.Pipelines
import Ingest.Toml.Reading

/-!
# Settings/File — the file that lists the pipelines

The file is read, then parsed, then checked; each step has an error of its own that names the file.
-/

namespace Ingest

/-- Why a pipelines file cannot be used. -/
inductive FileError where
  /-- The file cannot be read. -/
  | unreadable (path detail : String)
  /-- The file is no TOML, or lists no pipelines. -/
  | malformed (path : String)
  /-- A pipeline in the file cannot be run. -/
  | invalid (path fault : String)
deriving DecidableEq, Repr

namespace FileError

/-- The wording of an error. -/
def message : FileError → String
  | unreadable path _ => "Failed to read pipelines file " ++ path
  | malformed path => "Failed to parse pipelines file " ++ path
  | invalid path _ => "Invalid pipelines file " ++ path

/-- The wording of an error and of the cause below it. -/
def chain (e : FileError) : List String :=
  [e.message,
    match e with
    | unreadable _ detail => detail
    | malformed _ => "TOML parse error"
    | invalid _ fault => fault]

end FileError

namespace PipelineSettings

/-- The pipelines that the text of a file lists. -/
def listOfText (path text : String) : Except FileError (List PipelineSettings) :=
  match (Toml.read? text).bind (listOfValue? Toml.recordForm) with
  | none => .error (.malformed path)
  | some pipelines =>
    match firstFault? [] pipelines with
    | some fault => .error (.invalid path fault)
    | none => .ok pipelines

/-- The pipelines that a file lists, or why it cannot be read. -/
def load (path : String) (content : Except String String) :
    Except FileError (List PipelineSettings) :=
  match content with
  | .error detail => .error (.unreadable path detail)
  | .ok text => listOfText path text

end PipelineSettings

end Ingest
