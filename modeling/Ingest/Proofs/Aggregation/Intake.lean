import Ingest.Proofs.Aggregation.Course
import Ingest.Proofs.Aggregation.Grouping

/-!
# Proofs/Aggregation/Intake — what a grouping stage makes of one row

Both stages first advance their clock, find the key of the row and extend the group that they hold
of it (`GroupBy.intake`). Only after that do they differ: one of them lets a group out of its cache
(`StreamingAggregation.put`), the other counts its groups. A step can only fail in `intake`: the row
descends, its key panics, or its merge does not succeed (`GroupBy.FailsAt`). Main statements:
`GroupBy.intake_error_iff` — the reasons; `StreamingAggregation.step_eq` — a step of the bounded
stage, taken apart.
-/

namespace Ingest

variable {κ ρ : Type} [Timed ρ]

namespace GroupBy

/-! ## One row -/

/-- The clock, the key and the group after one more row; `held` is the group held of each key. -/
def intake (g : GroupBy κ ρ) (clock : InputClock) (held : κ → Option (Pending ρ)) (row : ρ) :
    Attempt (InputClock × κ × Pending ρ) := do
  let (clock, k) ← g.enter clock row
  let group ← g.extend clock row (held k)
  return (clock, k, group)

/-- The entry that follows the rows `read` fails with an error: it is one, or it descends from the
row before it, or its key panics, or the merge with the group held of its key fails or panics. -/
inductive FailsAt (g : GroupBy κ ρ) (read : List ρ) (held : κ → Option (Pending ρ)) :
    Except Error ρ → Error → Prop where
  | input (e : Error) : FailsAt g read held (.error e) e
  | descends {prev r : ρ} (hprev : read.getLast? = some prev) (hlt : time r < time prev) :
      FailsAt g read held (.ok r) (.ordering (time r) (time prev))
  | key {r : ρ} {p : Panic} (hr : ∀ prev ∈ read.getLast?, time prev ≤ time r)
      (hkey : g.key r = .error p) : FailsAt g read held (.ok r) (.panicked p.message)
  | merge {r : ρ} {k : κ} {q : Pending ρ} {f : Fault}
      (hr : ∀ prev ∈ read.getLast?, time prev ≤ time r) (hkey : g.key r = .ok k)
      (hheld : held k = some q) (hmerge : g.merge q.row r = .error f) :
      FailsAt g read held (.ok r) f.caught

variable {g : GroupBy κ ρ} {c c' : InputClock} {held : κ → Option (Pending ρ)} {read : List ρ}
  {r : ρ} {k : κ}

/-- A row that comes too late is not taken in. -/
theorem intake_of_descent {e : Error} (hadv : c.advance (time r) = .error e) :
    g.intake c held r = .error (.error e) := by
  rw [intake, enter, hadv]
  rfl

/-- A row whose key panics is not taken in. -/
theorem intake_of_key_panic {p : Panic} (hadv : c.advance (time r) = .ok c')
    (hkey : g.key r = .error p) : g.intake c held r = .error (.panic p) := by
  rw [intake, enter, hadv, hkey]
  rfl

/-- A row with a key joins the group of the key. -/
theorem intake_of_key (hadv : c.advance (time r) = .ok c') (hkey : g.key r = .ok k) :
    g.intake c held r = (g.extend c' r (held k)).map fun p => (c', k, p) := by
  simp only [intake, enter_of_advance hadv hkey, bind, Except.bind]
  rcases g.extend c' r (held k) with f | p <;> rfl

/-- Where the intake of a row fails, the row fails. -/
theorem failsAt_of_intake_error (h : c.Reads read) {f : Fault} (hf : g.intake c held r = .error f) :
    g.FailsAt read held (.ok r) f.caught := by
  by_cases hr : ∀ prev ∈ read.getLast?, time prev ≤ time r
  swap
  · obtain ⟨prev, hprev, hlt⟩ : ∃ prev ∈ read.getLast?, time r < time prev := by simpa using hr
    rw [intake_of_descent (h.advance_of_lt hprev hlt)] at hf
    exact Except.error.inj hf ▸ .descends hprev hlt
  obtain ⟨c', hadv⟩ := h.exists_advance_of_last hr
  rcases hkey : g.key r with p | k
  · rw [intake_of_key_panic hadv hkey] at hf
    exact Except.error.inj hf ▸ .key hr hkey
  rw [intake_of_key hadv hkey] at hf
  rcases hheld : held k with _ | q <;> rw [hheld] at hf
  · cases hf
  rw [extend] at hf
  rcases hmerge : g.merge q.row r with f' | y <;> rw [hmerge] at hf
  · obtain rfl : f' = f := Except.error.inj hf
    exact .merge hr hkey hheld hmerge
  · cases hf

/-- Where a row fails, its intake fails. -/
theorem FailsAt.exists_intake_error (h : c.Reads read) {e : Error}
    (hfails : g.FailsAt read held (.ok r) e) :
    ∃ f, g.intake c held r = .error f ∧ f.caught = e := by
  cases hfails with
  | descends hprev hlt => exact ⟨_, intake_of_descent (h.advance_of_lt hprev hlt), rfl⟩
  | key hr hkey =>
    obtain ⟨c', hadv⟩ := h.exists_advance_of_last hr
    exact ⟨_, intake_of_key_panic hadv hkey, rfl⟩
  | @merge _ k q f hr hkey hheld hmerge =>
    obtain ⟨c', hadv⟩ := h.exists_advance_of_last hr
    refine ⟨f, ?_, rfl⟩
    rw [intake_of_key hadv hkey, hheld, extend, hmerge]
    rfl

/-- **Why a row is not taken in.** -/
theorem intake_error_iff (h : c.Reads read) {e : Error} :
    (∃ f, g.intake c held r = .error f ∧ f.caught = e) ↔ g.FailsAt read held (.ok r) e :=
  ⟨fun ⟨_, hf, he⟩ => he ▸ failsAt_of_intake_error h hf, FailsAt.exists_intake_error h⟩

end GroupBy

variable [DecidableEq κ]

/-! ## The bounded stage -/

namespace StreamingAggregation

variable {a : StreamingAggregation κ ρ} {s s₁ : State κ ρ} {r : ρ}

omit [Timed ρ] in
/-- Puts a group into the cache. The group that has to leave for it is offered to the queue. -/
def store (a : StreamingAggregation κ ρ) (s : State κ ρ) (clock : InputClock) (k : κ)
    (group : Pending ρ) : State κ ρ :=
  let (evicted, cache) := (s.cache.erase k).push k group
  ⟨cache, evicted.elim s.handOff fun e => s.handOff.offer a.bufferSize e.2,
    if (s.cache.get? k).isNone then s.floors.hold clock.floor else s.floors, clock⟩

/-- Puts one input row into its group. -/
def put (a : StreamingAggregation κ ρ) (s : State κ ρ) (row : ρ) : Attempt (State κ ρ) :=
  (a.intake s.clock s.cache.get? row).map fun (clock, k, group) => a.store s clock k group

omit [Timed ρ] [DecidableEq κ] in
/-- Offers every group held to the queue. -/
def evict (a : StreamingAggregation κ ρ) (s : State κ ρ) : State κ ρ :=
  { s with
    cache := s.cache.evictAll.2
    handOff := s.cache.evictAll.1.foldl (fun h e => h.offer a.bufferSize e.2) s.handOff }

omit [Timed ρ] [DecidableEq κ] in
/-- Empties the queue, unless a group found it full. -/
def relieve (a : StreamingAggregation κ ρ) (s : State κ ρ) :
    Attempt (State κ ρ × List (Staged ρ)) :=
  if s.handOff.overflowed then .error (.error (.handOffOverflow a.bufferSize)) else .ok (drain s)

/-- **A step, taken apart.** -/
theorem step_eq (a : StreamingAggregation κ ρ) (s : State κ ρ) (r : ρ) :
    a.step s r = a.put s r >>= a.relieve := by
  simp only [StreamingAggregation.step, put, GroupBy.intake, RecencyCache.compute, bind,
    Except.bind]
  rcases a.enter s.clock r with f | ⟨c, k⟩
  · rfl
  dsimp only
  rcases a.extend c r (s.cache.get? k) with f | p <;> rfl

omit [Timed ρ] in
/-- At most one group has to leave the cache for a row, and an empty queue takes it in. -/
theorem handOff_store (hempty : s.handOff = ⟨[], false⟩) (c : InputClock) (k : κ) (p : Pending ρ) :
    (a.store s c k p).handOff.overflowed = false ∧ (a.store s c k p).handOff.queue.length ≤ 1 := by
  simp only [store, hempty]
  rcases ((s.cache.erase k).push k p).1 with _ | e
  · exact ⟨rfl, Nat.zero_le _⟩
  · simp [HandOff.offer, a.bufferSize_pos]

/-- A row fills the queue with one group at most. -/
theorem handOff_of_put (hempty : s.handOff = ⟨[], false⟩) (hput : a.put s r = .ok s₁) :
    s₁.handOff.overflowed = false ∧ s₁.handOff.queue.length ≤ 1 := by
  rcases hintake : a.intake s.clock s.cache.get? r with f | ⟨c, k, p⟩ <;> rw [put, hintake] at hput
  · cases hput
  obtain rfl := Except.ok.inj hput
  exact handOff_store hempty c k p

/-- **A step fails exactly where its row is not taken in.** -/
theorem step_error_iff (hempty : s.handOff = ⟨[], false⟩) {f : Fault} :
    a.step s r = .error f ↔ a.intake s.clock s.cache.get? r = .error f := by
  rw [step_eq]
  rcases hintake : a.intake s.clock s.cache.get? r with f' | ⟨c, k, p⟩ <;> rw [put, hintake]
  · exact ⟨fun h => congrArg _ (Except.error.inj h), fun h => congrArg _ (Except.error.inj h)⟩
  · have hrelieve : a.relieve (a.store s c k p) = .ok (drain (a.store s c k p)) := by
      rw [relieve, (handOff_store hempty c k p).1, if_neg Bool.false_ne_true]
    exact ⟨fun h => absurd (hrelieve.symm.trans h) nofun, nofun⟩

end StreamingAggregation

namespace GroupingAggregation

variable {a : GroupingAggregation κ ρ} {s : State κ ρ} {r : ρ} {read : List ρ}
  {out : List (Staged ρ)}

theorem put_eq (a : GroupingAggregation κ ρ) (s : State κ ρ) (r : ρ) :
    a.put s r = (a.intake s.clock (find? s.groups) r).map fun (clock, k, group) =>
      { s with groups := (s.groups.filter fun e => e.1 ≠ k) ++ [(k, group)], clock := clock } := by
  simp only [put, GroupBy.intake, bind, Except.bind]
  rcases a.enter s.clock r with f | ⟨c, k⟩
  · rfl
  dsimp only
  rcases a.extend c r (find? s.groups k) with f | p <;> rfl

/-- **A step fails exactly where its row is not taken in.** -/
theorem step_error_iff {f : Fault} :
    a.step s r = .error f ↔ a.intake s.clock (find? s.groups) r = .error f := by
  rw [step_eq, put_eq]
  rcases a.intake s.clock (find? s.groups) r with f' | x
  · exact ⟨fun h => congrArg _ (Except.error.inj h), fun h => congrArg _ (Except.error.inj h)⟩
  · exact ⟨nofun, nofun⟩

/-- The clock tells what was read. -/
theorem clock_of_runs (hruns : Stage.Runs a.step start read out s) : s.clock.Reads read := by
  induction hruns with
  | start => exact InputClock.reads_start
  | next _ hstep ih =>
    obtain ⟨s₁, hput, hrelieve⟩ := exists_put_of_step hstep
    obtain ⟨c', k, p, hadv, -, -, rfl⟩ := exists_extend_of_put hput
    have hclock := congrArg (·.1.clock) hrelieve
    unfold relieve flush at hclock
    split at hclock <;> exact hclock ▸ (ih.advance hadv).1

end GroupingAggregation

end Ingest
