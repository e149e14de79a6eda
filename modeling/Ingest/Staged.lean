import Ingest.Error
import Ingest.Row

/-!
# Staged — rows on their way to a sink

A stage that holds rows back tells with each row how far its input has left it. The loader may move a
checkpoint no further than that.
-/

namespace Ingest

/-- A row on its way to a sink. -/
structure Staged (ρ : Type) where
  /-- The row. -/
  row : ρ
  /-- Every input row up to this instant has been passed on with this row or before it; no bound if
  nothing is held back. -/
  settled : Option Instant
deriving DecidableEq

/-- A stage between the extraction and a loader. Errors travel in the stream, and nothing follows
the first one. -/
structure Stage (ρ : Type) where
  /-- The name of the stage. -/
  name : String
  /-- The rows passed on for a stream of input rows. -/
  transform : List (Except Error ρ) → List (Except Error (Staged ρ))

/-- The stage that passes every row on at once. -/
def Stage.direct (ρ : Type) : Stage ρ :=
  ⟨"direct", List.map fun item => item.map fun r => ⟨r, none⟩⟩

/-- Runs a stage given by its steps: `step` for an input row, `finish` at the end of the input. The
first fault ends the stream as an error. -/
def Stage.fold {σ ρ : Type} (step : σ → ρ → Attempt (σ × List (Staged ρ)))
    (finish : σ → Attempt (List (Staged ρ))) :
    σ → List (Except Error ρ) → List (Except Error (Staged ρ))
  | s, [] =>
    match finish s with
    | .ok out => out.map .ok
    | .error f => [.error f.caught]
  | _, .error e :: _ => [.error e]
  | s, .ok r :: rest =>
    match step s r with
    | .ok (s', out) => out.map .ok ++ Stage.fold step finish s' rest
    | .error f => [.error f.caught]

end Ingest
