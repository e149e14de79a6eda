import Ingest.LoadResult
import Ingest.Staged
import Ingest.Window

/-!
# Loading — committing a stream in batches

A loader reads rows in ascending order and hands them to its sink in batches that end between two
timestamps. Its result says how far the sink got: no further than the last batch committed, and no
further than the rows of that batch say their input is settled.

A loader breaks off without a result if its sink panics, if its batches run out of numbers, or if
the rows or durations that the sink reports cannot be added. Its duration is the sum of these
durations; the time spent between commits is not counted.
-/

namespace Ingest

/-- A batch on its way to a sink. -/
structure Commit (ρ : Type) where
  /-- The group that is processed. -/
  group : String
  /-- The number of the batch, from 1. -/
  batch : Nat
  /-- The rows of the batch. -/
  rows : List ρ
deriving DecidableEq

/-- Where rows go. `ω` is the world that commits may read and change. -/
structure Sink (ω ρ : Type) where
  /-- The name of the sink. -/
  name : String
  /-- Whether the sink wants a row; other rows are skipped without being an error. -/
  processable : ρ → Bool
  /-- Commits a batch as a whole or not at all. -/
  commit : Commit ρ → StateM ω (Attempt CommitReply)
  /-- Removes everything loaded for a group. -/
  deleteAll : String → StateM ω (Except Error Unit)

/-- A batch that was committed. -/
structure BatchInfo where
  /-- The number of the batch, from 1. -/
  batch : Nat
  /-- The rows the sink reported as committed. -/
  rows : Nat
  /-- Everything up to this instant is committed. -/
  upTo : Instant
  /-- The duration the sink reported, in milliseconds. -/
  duration : Nat
  /-- The result of the loader after this batch. -/
  total : LoadResult
deriving DecidableEq

/-- What an observer of a loader hears. -/
inductive LoadEvent where
  | started
  | batch (info : BatchInfo)
  | completed (result : LoadResult)
deriving DecidableEq

namespace Loading

variable {ω ρ : Type}

/-- What a loader knows between two rows. -/
structure State (ρ : Type) where
  /-- The result so far. -/
  total : LoadResult
  /-- The rows of the batch that is not yet committed. -/
  buffer : List ρ := []
  /-- The timestamp of the last row read. -/
  last : Option Instant := none
  /-- The bound that came with the last row read. -/
  settled : Option Instant := none
  /-- The batches handed to the sink. -/
  batches : Nat := 0
  /-- What observers heard. -/
  events : List LoadEvent := [.started]

/-- Why a loader stopped reading. -/
inductive Ending where
  /-- No more rows are wanted, or there are none. -/
  | finished
  | failed (message : String)
  | panicked (p : Panic)
deriving DecidableEq

/-- What a loader leaves behind. -/
structure Outcome where
  /-- The final result, unless the loader broke off. -/
  result : Except Panic LoadResult
  /-- What observers heard. -/
  events : List LoadEvent

/-- How far a checkpoint may move once everything up to `boundary` is committed. -/
def checkpointAfter (boundary : Instant) (settled : Option Instant) (since : Instant) : Instant :=
  max (settled.elim boundary (min boundary)) since

/-! ## Batches -/

/-- The wording of a batch that was not committed. -/
def batchFailure (batch size : Nat) (what sink detail : String) : String :=
  "batch " ++ toString batch ++ " of " ++ toString size ++ " rows " ++ what ++ " " ++ sink ++ ": " ++
    detail

/-- The greatest number of a batch. -/
def maxBatches : Nat := 0xffffffff

/-- Hands the buffer to the sink. A batch that is committed moves the result to `upTo`. -/
def flush (sink : Sink ω ρ) (group : String) (upTo : Instant) (s : State ρ) :
    StateM ω (State ρ × Option Ending) := do
  if maxBatches ≤ s.batches then return (s, some (.panicked .counterOverflow))
  let number := s.batches + 1
  let size := s.buffer.length
  let after := { s with buffer := [], batches := number }
  match ← sink.commit ⟨group, number, s.buffer⟩ with
  | .ok (.committed rows duration) =>
    match s.total.add? (.committed rows upTo duration) with
    | .ok total =>
      let event := .batch ⟨number, rows, upTo, duration, total⟩
      return ({ after with total := total, events := s.events ++ [event] }, none)
    | .error p => return (after, some (.panicked p))
  | .ok (.rejected reason) =>
    let detail := reason.getD "no reason given"
    return (after, some (.failed (batchFailure number size "was rejected by" sink.name detail)))
  | .error (.error e) =>
    return (after, some (.failed (batchFailure number size "failed in" sink.name e.message)))
  | .error (.panic p) => return (after, some (.panicked p))

/-! ## Rows -/

variable [Timed ρ]

/-- The state after a row was read and not kept. -/
def State.pass (s : State ρ) (item : Staged ρ) : State ρ :=
  { s with last := some (time item.row), settled := item.settled }

/-- The state after a row was read and kept for the next batch. -/
def State.keep (s : State ρ) (item : Staged ρ) : State ρ :=
  { s.pass item with buffer := s.buffer ++ [item.row] }

/-- The timestamp of the last row, if a row at `t` descends from it. -/
def State.descent? (s : State ρ) (t : Instant) : Option Instant := s.last.filter fun last => t < last

/-- Commits the buffer if it is large enough and a row at `t` starts a new timestamp. -/
def closeBatch (sink : Sink ω ρ) (e : Execution) (t : Instant) (s : State ρ) :
    StateM ω (State ρ × Option Ending) :=
  match s.last with
  | some last =>
    if t ≠ last ∧ max e.batchSize 1 ≤ s.buffer.length then
      flush sink e.group (checkpointAfter last s.settled e.window.since) s
    else return (s, none)
  | none => return (s, none)

/-- Reads one row or error. -/
def step (sink : Sink ω ρ) (e : Execution) (s : State ρ) :
    Except Error (Staged ρ) → StateM ω (State ρ × Option Ending)
  | .error err => return (s, some (.failed err.message))
  | .ok item => do
    let t := time item.row
    match s.descent? t with
    | some last => return (s, some (.failed (Error.ordering t last).message))
    | none =>
      if t ≤ e.window.since then return (s.pass item, none)
      if e.window.upTo < t then return (s, some .finished)
      match ← closeBatch sink e t s with
      | (s, some ending) => return (s, some ending)
      | (s, none) =>
        return (if sink.processable item.row then s.keep item else s.pass item, none)

/-- Reads rows until there is a reason to stop. -/
def consume (sink : Sink ω ρ) (e : Execution) :
    List (Except Error (Staged ρ)) → State ρ → StateM ω (State ρ × Ending)
  | [], s => return (s, .finished)
  | item :: rest, s => do
    match ← step sink e s item with
    | (s, some ending) => return (s, ending)
    | (s, none) => consume sink e rest s

/-- Commits what is left. With an empty buffer everything read is done. -/
def finish (sink : Sink ω ρ) (e : Execution) (s : State ρ) : StateM ω (State ρ × Ending) := do
  match s.last with
  | none => return (s, .finished)
  | some last =>
    let upTo := checkpointAfter last s.settled e.window.since
    if s.buffer.isEmpty then
      return ({ s with total := { s.total with upTo := max s.total.upTo upTo } }, .finished)
    let (s, ending) ← flush sink e.group upTo s
    return (s, ending.getD .finished)

/-- The outcome of a loader that stopped for a reason. -/
def conclude (s : State ρ) : Ending → Outcome
  | .panicked p => ⟨.error p, s.events⟩
  | .failed message =>
    let result := s.total + .failed s.total.upTo message
    ⟨.ok result, s.events ++ [.completed result]⟩
  | .finished =>
    let result := { s.total with status := .success }
    ⟨.ok result, s.events ++ [.completed result]⟩

/-- Loads the rows of a window from a stream. -/
def run (sink : Sink ω ρ) (e : Execution) (items : List (Except Error (Staged ρ))) :
    StateM ω Outcome := do
  let (s, ending) ← consume sink e items { total := .started e.window.since }
  match ending with
  | .finished =>
    let (s, ending) ← finish sink e s
    return conclude s ending
  | ending => return conclude s ending

end Loading

end Ingest
