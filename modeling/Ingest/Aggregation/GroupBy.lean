import Ingest.Aggregation.Fields
import Ingest.Staged

/-!
# Aggregation/GroupBy — groups and what they hold back

A group is held back from its first row until it is emitted. Its *floor* is the latest input
timestamp before that row's. The input has left a stage up to the least floor of the groups that the
stage still holds.
-/

namespace Ingest

/-- A key for each row and a merge of two rows of one key. Either may panic, a merge may fail. -/
structure GroupBy (κ ρ : Type) where
  /-- The key of a row. -/
  key : ρ → Except Panic κ
  /-- A group's row so far with the next row of the group. -/
  merge : ρ → ρ → Attempt ρ

/-- Grouping of schema-less rows by their fields. -/
def FieldAggregation.toGroupBy (a : FieldAggregation) : GroupBy String Row where
  key r := .ok (a.key r)
  merge current next := (a.merge current next).mapError .error

/-- A group that is held back. -/
structure Pending (ρ : Type) where
  /-- The merged row. -/
  row : ρ
  /-- The latest input timestamp before the first row of the group. -/
  floor : Instant
deriving DecidableEq

/-- The floors of the groups that are held back, one for each group. -/
structure Floors where
  /-- The floors, in no particular order. -/
  held : List Instant
deriving DecidableEq

namespace Floors

/-- No group is held back. -/
def empty : Floors := ⟨[]⟩

/-- One more group with this floor is held back. -/
def hold (f : Floors) (floor : Instant) : Floors := ⟨floor :: f.held⟩

/-- One group with this floor is no longer held back. -/
def release (f : Floors) (floor : Instant) : Floors := ⟨f.held.erase floor⟩

/-- Every input row up to this instant has left the stage; no bound if nothing is held back. -/
def settled (f : Floors) : Option Instant := f.held.min?

end Floors

/-- The latest input timestamp, and the latest one strictly before it. -/
structure InputClock where
  /-- The timestamp of the latest input row. -/
  current : Option Instant
  /-- The latest timestamp strictly before it. -/
  before : Instant
deriving DecidableEq

namespace InputClock

/-- Nothing has been read. -/
def start : InputClock := ⟨none, .earliest⟩

/-- The clock after one more input row; input must not descend. -/
def advance (c : InputClock) (t : Instant) : Except Error InputClock :=
  match c.current with
  | none => .ok ⟨some t, c.before⟩
  | some u =>
    if t < u then .error (.ordering t u)
    else if u < t then .ok ⟨some t, u⟩
    else .ok ⟨some t, c.before⟩

/-- The floor of a group that starts with the latest row. -/
def floor (c : InputClock) : Instant := c.before

end InputClock

namespace GroupBy

variable {κ ρ : Type} [Timed ρ]

/-- The group after one more row, which starts it if there is none. -/
def extend (g : GroupBy κ ρ) (clock : InputClock) (row : ρ) :
    Option (Pending ρ) → Attempt (Pending ρ)
  | none => .ok ⟨row, clock.floor⟩
  | some group => (g.merge group.row row).map fun merged => ⟨merged, group.floor⟩

/-- The clock and the key for one more input row. -/
def enter (g : GroupBy κ ρ) (clock : InputClock) (row : ρ) : Attempt (InputClock × κ) := do
  let clock ← (clock.advance (time row)).mapError Fault.error
  let k ← (g.key row).mapError Fault.panic
  return (clock, k)

end GroupBy

/-- Emits groups in order. Each carries the least floor of the groups held back after it. -/
def Floors.drain {ρ : Type} : Floors → List (Pending ρ) → Floors × List (Staged ρ)
  | f, [] => (f, [])
  | f, group :: rest =>
    let f := f.release group.floor
    let (f', out) := Floors.drain f rest
    (f', ⟨group.row, f.settled⟩ :: out)

end Ingest
