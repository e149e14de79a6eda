import Ingest.Aggregation.GroupBy

/-!
# Aggregation/Grouping — grouping few keys

All groups stay until more than `threshold` keys are held; then every group is emitted, by timestamp.
The groups come out of a map whose order is not specified: it is a parameter, and groups of equal
timestamp keep it.
-/

namespace Ingest

/-- A grouping stage that emits everything once it holds more than `threshold` groups. -/
structure GroupingAggregation (κ ρ : Type) extends GroupBy κ ρ where
  /-- The name of the stage. -/
  name : String
  /-- The greatest number of groups that stay; zero counts as one. -/
  limit : Nat
  /-- The order in which the map gives out its groups at the `n`-th flush. -/
  order : Nat → List (κ × Pending ρ) → List (κ × Pending ρ) := fun _ groups => groups

namespace GroupingAggregation

variable {κ ρ : Type}

/-- The greatest number of groups that stay. -/
def threshold (a : GroupingAggregation κ ρ) : Nat := max a.limit 1

/-- What the stage holds between two input rows. -/
structure State (κ ρ : Type) where
  /-- The groups held, by key. -/
  groups : List (κ × Pending ρ)
  /-- The timestamps read. -/
  clock : InputClock
  /-- How often everything was emitted. -/
  flushes : Nat

/-- The stage before its first input row. -/
def start : State κ ρ := ⟨[], .start, 0⟩

/-- The group of a key, if it is held. -/
def find? [DecidableEq κ] (groups : List (κ × Pending ρ)) (k : κ) : Option (Pending ρ) :=
  (groups.find? fun e => e.1 = k).map (·.2)

variable [Timed ρ]

/-- Emits groups by timestamp, each with the least floor of those after it. -/
def emit (groups : List (Pending ρ)) : List (Staged ρ) :=
  let sorted := groups.mergeSort fun a b => decide (time a.row ≤ time b.row)
  (Floors.drain ⟨sorted.map (·.floor)⟩ sorted).2

/-- Emits every group held. -/
def flush (a : GroupingAggregation κ ρ) (s : State κ ρ) : State κ ρ × List (Staged ρ) :=
  ({ s with groups := [], flushes := s.flushes + 1 },
    emit ((a.order s.flushes s.groups).map (·.2)))

/-- Puts one input row into its group, and emits everything if that made too many groups. -/
def step [DecidableEq κ] (a : GroupingAggregation κ ρ) (s : State κ ρ) (row : ρ) :
    Attempt (State κ ρ × List (Staged ρ)) := do
  let (clock, k) ← a.enter s.clock row
  let group ← a.extend clock row (find? s.groups k)
  let groups := (s.groups.filter fun e => e.1 ≠ k) ++ [(k, group)]
  let s : State κ ρ := { s with groups := groups, clock := clock }
  if a.threshold < groups.length then return a.flush s else return (s, [])

/-- Emits every group still held. -/
def finish (a : GroupingAggregation κ ρ) (s : State κ ρ) : Attempt (List (Staged ρ)) :=
  .ok (a.flush s).2

/-- The stage. -/
def stage [DecidableEq κ] (a : GroupingAggregation κ ρ) : Stage ρ :=
  ⟨a.name, Stage.fold a.step a.finish start⟩

end GroupingAggregation

end Ingest
