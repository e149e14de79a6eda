import Ingest.Extraction
import Ingest.Loading
import Ingest.PipelineResult

/-!
# Pipeline — one source, several sinks

One extraction feeds every branch, and a branch is a loader behind an optional stage. Each branch
sees the whole stream that the extraction sends, whatever becomes of the other branches, so a
pipeline is the extraction followed by one loader after another. `Proofs/Concurrent/Schedules` has it
for parts that take turns. If a part panics there is no result, and what comes after it is not done.

The duration of a pipeline would be measured. It is the sum of the durations of its loaders here,
which are in turn what their sinks reported.
-/

namespace Ingest

/-- A loader and what stands before it. -/
structure Branch (ω ρ : Type) where
  /-- The stage between the extraction and the sink. -/
  stage : Stage ρ := .direct ρ
  /-- The sink of the loader. -/
  sink : Sink ω ρ

/-- A named source with its sinks. -/
structure Pipeline (ω ρ : Type) where
  /-- The name of the pipeline. -/
  name : String
  /-- How the source is read. -/
  extraction : Extraction ω ρ
  /-- The loaders, in the order in which their results are listed. -/
  branches : List (Branch ω ρ)

/-- What an orchestrator drives: something with a name that can be executed and cleaned up. -/
structure Job (ω : Type) where
  /-- The name of the job. -/
  name : String
  /-- Moves the rows of a window to the sinks. -/
  execute : Execution → StateM ω (Attempt PipelineResult)
  /-- Removes everything loaded for a group. -/
  cleanUp : String → StateM ω (Except Error Unit)

namespace Pipeline

variable {ω ρ : Type}

/-- What one execution leaves behind. -/
structure Outcome where
  /-- The result, unless the source, a sink or a sum panicked. -/
  result : Except Panic PipelineResult
  /-- What observers of the extraction heard. -/
  extraction : List ExtractEvent := []
  /-- What observers of each loader heard, by the name of its sink. -/
  loaders : List (String × List LoadEvent) := []

variable [Timed ρ]

/-- Loads one stream into every branch. -/
def loadAll (e : Execution) (rows : List ρ) :
    List (Branch ω ρ) → StateM ω (Except Panic (List (String × LoadResult × List LoadEvent)))
  | [] => return .ok []
  | branch :: rest => do
    let outcome ← Loading.run branch.sink e (branch.stage.transform (rows.map .ok))
    match outcome.result with
    | .error p => return .error p
    | .ok result =>
      return (← loadAll e rows rest).map ((branch.sink.name, result, outcome.events) :: ·)

/-- The wording of what ended an extraction. -/
def extractionFault (p : Pipeline ω ρ) (e : Error) : String :=
  "extractor " ++ p.extraction.source.name ++ ": " ++ e.message

/-- The result of a pipeline from what its extraction and its loaders did. -/
def conclude (p : Pipeline ω ρ) (since : Instant) (fault : Option Error)
    (loaded : List (String × LoadResult × List LoadEvent)) : PipelineResult :=
  .reduce p.name since (fault.map p.extractionFault) (loaded.map fun l => (l.1, l.2.1))
    (loaded.foldr (fun l n => l.2.1.duration + n) 0)

/-- Moves the rows of a window to every sink. A pipeline without sinks reads nothing. -/
def run (p : Pipeline ω ρ) (e : Execution) : StateM ω Outcome := do
  if p.branches.isEmpty then return { result := .ok (p.conclude e.window.since none []) }
  let extracted ← p.extraction.run (pure true) e.group e.window
  let fault ← match extracted.result with
    | .ok _ => pure none
    | .error (.error err) => pure (some err)
    | .error (.panic cause) => return { result := .error cause }
  match ← loadAll e extracted.sent p.branches with
  | .error cause => return { result := .error cause }
  | .ok loaded =>
    return {
      result := (p.conclude e.window.since fault loaded).counted
      extraction := extracted.events
      loaders := loaded.map fun l => (l.1, l.2.2) }

/-- Empties sinks in order, up to the first that fails. -/
def emptySinks (group : String) : List (Branch ω ρ) → StateM ω (Except Error Unit)
  | [] => return .ok ()
  | branch :: rest => do
    match ← branch.sink.deleteAll group with
    | .ok () => emptySinks group rest
    | .error e => return .error e

/-- The job of running the pipeline. -/
def toJob (p : Pipeline ω ρ) : Job ω where
  name := p.name
  execute e := do return (← p.run e).result.mapError .panic
  cleanUp group := emptySinks group p.branches

end Pipeline

end Ingest
