import Ingest.Error
import Ingest.Status

/-!
# LoadResult — what a loader achieved

Results are added in the order in which they arise. A failure stays, rows and durations add up, the
latest instant wins and messages are joined. Rows are counted with 64 bits, and so are the seconds
of a duration. `combine` is the sum without these limits; a program adds by `add?`, which panics
where a limit is passed.

No clock is read here: where a time would be measured it is left to the sink, whose reply has the
time that a commit took, and the time of a loader is the sum of these.
-/

namespace Ingest

/-- What became of a batch that was handed to a sink. -/
inductive CommitReply where
  /-- The batch is committed. `duration` is the time it took, in milliseconds: what the sink tells,
  or what is measured if the sink tells nothing. -/
  | committed (rows duration : Nat)
  /-- The sink turned the batch down. -/
  | rejected (reason : Option String)
deriving DecidableEq, Repr

/-- The running or final result of one loader. -/
structure LoadResult where
  /-- The state of the loader. -/
  status : Status
  /-- Rows the sink reported as committed. -/
  rows : Nat
  /-- Everything up to this instant is committed. -/
  upTo : Instant
  /-- Time that commits took, in milliseconds. -/
  duration : Nat
  /-- What went wrong. -/
  message : Option String
deriving DecidableEq

/-- Two optional messages as one. -/
def joinMessages : Option String → Option String → Option String
  | some a, some b => some (a ++ "; " ++ b)
  | some a, none => some a
  | none, b => b

namespace LoadResult

/-- Nothing is loaded yet. -/
def started (since : Instant) : LoadResult := ⟨.loading, 0, since, 0, none⟩

/-- One batch is committed. -/
def committed (rows : Nat) (upTo : Instant) (duration : Nat) : LoadResult :=
  ⟨.loading, rows, upTo, duration, none⟩

/-- Loading failed. -/
def failed (upTo : Instant) (message : String) : LoadResult :=
  ⟨.failed, 0, upTo, 0, some message⟩

/-- Whether loading failed. -/
def isFailed (r : LoadResult) : Bool := r.status = .failed

/-- Both results, `b` after `a`, whatever the size of the sums. -/
def combine (a b : LoadResult) : LoadResult where
  status := if a.isFailed || b.isFailed then .failed else b.status
  rows := a.rows + b.rows
  upTo := max a.upTo b.upTo
  duration := a.duration + b.duration
  message := joinMessages a.message b.message

instance : Add LoadResult := ⟨combine⟩

/-! ## Sums that have a limit -/

/-- The greatest number of rows. -/
def maxRows : Nat := 0xffffffffffffffff

/-- The greatest duration in whole milliseconds. -/
def maxDuration : Nat := 0xffffffffffffffff * 1000 + 999

/-- Both results, `b` after `a`, if rows and durations can hold the sums. Rows are added first. -/
def add? (a b : LoadResult) : Except Panic LoadResult :=
  if maxRows < a.rows + b.rows then .error .counterOverflow
  else if maxDuration < a.duration + b.duration then .error .durationOverflow
  else .ok (a + b)

/-- A sum is right, or there is none. -/
theorem add?_eq_ok_iff {a b c : LoadResult} : a.add? b = .ok c ↔
    a.rows + b.rows ≤ maxRows ∧ a.duration + b.duration ≤ maxDuration ∧ c = a + b := by
  unfold add?
  by_cases hrows : maxRows < a.rows + b.rows
  · simp [hrows, Nat.not_le.mpr hrows]
  by_cases hduration : maxDuration < a.duration + b.duration
  · simp [hrows, hduration, Nat.not_le.mpr hduration]
  · simp [hrows, hduration, Nat.not_lt.mp hrows, Nat.not_lt.mp hduration, eq_comm]

/-- There is no sum only if a limit is passed. -/
theorem add?_eq_error {a b : LoadResult} {p : Panic} (h : a.add? b = .error p) :
    p = .counterOverflow ∧ maxRows < a.rows + b.rows ∨
      p = .durationOverflow ∧ maxDuration < a.duration + b.duration := by
  unfold add? at h
  by_cases hrows : maxRows < a.rows + b.rows
  · rw [if_pos hrows] at h
    exact .inl ⟨(Except.error.inj h).symm, hrows⟩
  by_cases hduration : maxDuration < a.duration + b.duration
  · rw [if_neg hrows, if_pos hduration] at h
    exact .inr ⟨(Except.error.inj h).symm, hduration⟩
  · rw [if_neg hrows, if_neg hduration] at h
    cases h

/-! ## The running total -/

/-- Adds `b` to a running result. While the two are combined, an empty one stands in its place. -/
def accrue (b : LoadResult) : StateM LoadResult Unit := do
  let current ← getModify fun _ => started b.upTo
  set (current.combine b)

end LoadResult

end Ingest
