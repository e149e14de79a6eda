/-!
# Aggregation/RecencyCache — a bounded map that hands out what it evicts

Entries stand in the order of their last successful computation, oldest first. A new key in a full
cache evicts the oldest entry.
-/

namespace Ingest

/-- A map of at most `capacity` entries, the least recently computed first. -/
structure RecencyCache (κ α : Type) where
  /-- The greatest number of entries. -/
  capacity : Nat
  /-- The entries, oldest first. -/
  entries : List (κ × α)
deriving DecidableEq, Repr

namespace RecencyCache

variable {κ α ε : Type} [DecidableEq κ]

/-- The empty cache; a capacity of zero counts as one. -/
def ofCapacity (capacity : Nat) : RecencyCache κ α := ⟨max capacity 1, []⟩

/-- The value of a key, if it is resident. -/
def get? (c : RecencyCache κ α) (k : κ) : Option α :=
  (c.entries.find? fun e => e.1 = k).map (·.2)

/-- The cache without a key. -/
def erase (c : RecencyCache κ α) (k : κ) : RecencyCache κ α :=
  { c with entries := c.entries.filter fun e => e.1 ≠ k }

/-- The cache with a new entry for a key it does not hold, and the entry that had to leave. -/
def push (c : RecencyCache κ α) (k : κ) (x : α) : Option (κ × α) × RecencyCache κ α :=
  match c.entries with
  | [] => (none, { c with entries := [(k, x)] })
  | oldest :: rest =>
    if c.capacity ≤ c.entries.length then (some oldest, { c with entries := rest ++ [(k, x)] })
    else (none, { c with entries := c.entries ++ [(k, x)] })

/-- Replaces the entry of `k` by what `f` makes of it and marks it most recent; answers the entry
that had to leave. If `f` fails, `k` is no longer resident. -/
def compute (c : RecencyCache κ α) (k : κ) (f : Option α → Except ε α) :
    Except ε (Option (κ × α)) × RecencyCache κ α :=
  match f (c.get? k) with
  | .error e => (.error e, c.erase k)
  | .ok x =>
    let (evicted, c) := (c.erase k).push k x
    (.ok evicted, c)

/-- All entries, oldest first, and the empty cache. -/
def evictAll (c : RecencyCache κ α) : List (κ × α) × RecencyCache κ α :=
  (c.entries, { c with entries := [] })

end RecencyCache

end Ingest
