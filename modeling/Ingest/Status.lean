/-!
# Status — how far a run has come

Reading is the inverse of writing (`ofText?_text`); the lenient reader takes any other text for
`neverRun`.
-/

namespace Ingest

/-- The state of a loader or of a pipeline. -/
inductive Status where
  | neverRun
  | loading
  | success
  | failed
deriving DecidableEq, Repr, Inhabited

namespace Status

/-- The written form. -/
def text : Status → String
  | neverRun => "never_run"
  | loading => "loading"
  | success => "success"
  | failed => "failed"

/-- Reads a written form. -/
def ofText? (s : String) : Option Status :=
  if s = "never_run" then some neverRun
  else if s = "loading" then some loading
  else if s = "success" then some success
  else if s = "failed" then some failed
  else none

/-- Reads a written form, and any other text as `neverRun`. -/
def ofText (s : String) : Status := (ofText? s).getD neverRun

@[simp] theorem ofText?_text (s : Status) : ofText? s.text = some s := by
  cases s <;> decide

end Status

end Ingest
