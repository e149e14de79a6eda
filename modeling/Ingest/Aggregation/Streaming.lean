import Ingest.Aggregation.GroupBy
import Ingest.Aggregation.RecencyCache

/-!
# Aggregation/Streaming — grouping in bounded memory

At most `bufferSize` groups are held in a cache. A group leaves it when a new key needs its place, or
when the input ends; it then passes through a bounded hand-off queue that is emptied after every
input row.
-/

namespace Ingest

/-- A grouping stage that holds at most `bufferSize` groups. -/
structure StreamingAggregation (κ ρ : Type) extends GroupBy κ ρ where
  /-- The name of the stage. -/
  name : String
  /-- The greatest number of groups held; zero counts as one. -/
  buffer : Nat

namespace StreamingAggregation

variable {κ ρ : Type}

/-- The greatest number of groups held. -/
def bufferSize (a : StreamingAggregation κ ρ) : Nat := max a.buffer 1

/-- The hand-off queue between the cache and the output. -/
structure HandOff (ρ : Type) where
  /-- The groups on their way out, the first to leave first. -/
  queue : List (Pending ρ)
  /-- Whether a group found the queue full. -/
  overflowed : Bool

/-- The queue after one more group; a full queue loses the group and remembers that it did. -/
def HandOff.offer (h : HandOff ρ) (capacity : Nat) (group : Pending ρ) : HandOff ρ :=
  if h.queue.length < capacity then { h with queue := h.queue ++ [group] }
  else { h with overflowed := true }

/-- What the stage holds between two input rows. -/
structure State (κ ρ : Type) where
  /-- The groups held, by key. -/
  cache : RecencyCache κ (Pending ρ)
  /-- The hand-off queue. -/
  handOff : HandOff ρ
  /-- The floors of the groups held. -/
  floors : Floors
  /-- The timestamps read. -/
  clock : InputClock

/-- The stage before its first input row. -/
def start (a : StreamingAggregation κ ρ) : State κ ρ :=
  ⟨.ofCapacity a.buffer, ⟨[], false⟩, .empty, .start⟩

/-- Emits everything in the hand-off queue. -/
def drain (s : State κ ρ) : State κ ρ × List (Staged ρ) :=
  let (floors, out) := s.floors.drain s.handOff.queue
  ({ s with handOff := { s.handOff with queue := [] }, floors := floors }, out)

variable [DecidableEq κ]

/-- Puts one input row into its group and emits the group that had to leave. -/
def step [Timed ρ] (a : StreamingAggregation κ ρ) (s : State κ ρ) (row : ρ) :
    Attempt (State κ ρ × List (Staged ρ)) := do
  let (clock, k) ← a.enter s.clock row
  let floors := if (s.cache.get? k).isNone then s.floors.hold clock.floor else s.floors
  let (result, cache) := s.cache.compute k (a.extend clock row)
  let evicted ← result
  let handOff := evicted.elim s.handOff fun e => s.handOff.offer a.bufferSize e.2
  if handOff.overflowed then throw (.error (.handOffOverflow a.bufferSize))
  return drain ⟨cache, handOff, floors, clock⟩

/-- Emits every group still held, the least recently touched first. -/
def finish (a : StreamingAggregation κ ρ) (s : State κ ρ) : Attempt (List (Staged ρ)) := do
  let (evicted, cache) := s.cache.evictAll
  let handOff := evicted.foldl (fun h e => h.offer a.bufferSize e.2) s.handOff
  if handOff.overflowed then throw (.error (.handOffOverflow a.bufferSize))
  return (drain { s with cache := cache, handOff := handOff }).2

/-- The stage. -/
def stage [Timed ρ] (a : StreamingAggregation κ ρ) : Stage ρ :=
  ⟨a.name, Stage.fold a.step a.finish a.start⟩

end StreamingAggregation

end Ingest
