import Ingest.LoadResult

/-!
# PipelineResult — what a pipeline achieved

A pipeline is as far as the loader that is least far, and it succeeded only if every loader did and
nothing was reported as wrong. `reduce` adds up rows whatever their number, and a program panics if
they cannot be `counted`.
-/

namespace Ingest

/-- The result of one execution of a pipeline. -/
structure PipelineResult where
  /-- The name of the pipeline. -/
  pipeline : String
  /-- Whether everything succeeded. -/
  status : Status
  /-- Everything up to this instant is committed to every sink. -/
  upTo : Instant
  /-- Rows committed, over all sinks. -/
  rows : Nat
  /-- Duration in milliseconds. -/
  duration : Nat
  /-- What went wrong. -/
  message : Option String
  /-- The result of each loader, by the name of its sink. -/
  loaders : List (String × LoadResult)
deriving DecidableEq

namespace PipelineResult

/-- Whether the execution failed. -/
def isFailed (r : PipelineResult) : Bool := r.status = .failed

/-- The earliest of some instants, or `since` if there are none or it is later. -/
def leastUpTo (since : Instant) : List Instant → Instant
  | [] => since
  | t :: ts => max (ts.foldl min t) since

/-- Everything that was reported as wrong, the extraction first. -/
def faults (extraction : Option String) (loaders : List (String × LoadResult)) : List String :=
  extraction.toList ++
    loaders.filterMap fun l => l.2.message.map fun m => "loader " ++ l.1 ++ ": " ++ m

/-- The result of a pipeline from the results of its loaders. -/
def reduce (pipeline : String) (since : Instant) (extraction : Option String)
    (loaders : List (String × LoadResult)) (duration : Nat) : PipelineResult :=
  let wrong := faults extraction loaders
  { pipeline := pipeline
    status :=
      if (loaders.all fun l => l.2.status = .success) && wrong.isEmpty then .success else .failed
    upTo := leastUpTo since (loaders.map (·.2.upTo))
    rows := loaders.foldr (fun l n => l.2.rows + n) 0
    duration := duration
    message := if wrong.isEmpty then none else some ("; ".intercalate wrong)
    loaders := loaders }

/-- The result, if its rows can be counted. -/
def counted (r : PipelineResult) : Except Panic PipelineResult :=
  if LoadResult.maxRows < r.rows then .error .counterOverflow else .ok r

/-- The result itself is counted, or there is none. -/
theorem counted_eq_ok_iff {r counted : PipelineResult} :
    r.counted = .ok counted ↔ r.rows ≤ LoadResult.maxRows ∧ counted = r := by
  unfold PipelineResult.counted
  by_cases h : LoadResult.maxRows < r.rows
  · simp [h, Nat.not_le.mpr h]
  · simp [h, Nat.not_lt.mp h, eq_comm]

end PipelineResult

end Ingest
