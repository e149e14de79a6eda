import Ingest.Proofs.Loading.Batches
import Mathlib.Algebra.BigOperators.Group.List.Basic
import Mathlib.Algebra.Order.Ring.Nat

/-!
# Proofs/Loading/Breaking — why a loader breaks off

A loader counts its batches and what its sink reports of them, so its counters say what is in the
log (`Counted`). Main statement: `run_broken` — if there is no result, then the sink panicked, or
there are more batches than numbers, or the rows or the durations in the log cannot be added up.
-/

namespace Ingest

variable {ω ρ : Type}

/-! ## What a sink reports -/

/-- The rows that a reply reports as committed. -/
def repliedRows : Attempt CommitReply → Nat
  | .ok (.committed rows _) => rows
  | _ => 0

/-- The duration that a reply reports. -/
def repliedDuration : Attempt CommitReply → Nat
  | .ok (.committed _ duration) => duration
  | _ => 0

/-- A reply that reports nothing and is no panic. -/
structure Silent (reply : Attempt CommitReply) : Prop where
  rows : repliedRows reply = 0
  duration : repliedDuration reply = 0
  calm : ∀ p, reply ≠ .error (.panic p)

namespace Loading

/-- The rows that are reported in a log. -/
def loggedRows (log : List (Commit ρ × Attempt CommitReply)) : Nat :=
  (log.map fun entry => repliedRows entry.2).sum

/-- The durations that are reported in a log. -/
def loggedDuration (log : List (Commit ρ × Attempt CommitReply)) : Nat :=
  (log.map fun entry => repliedDuration entry.2).sum

@[simp] theorem loggedRows_concat (log : List (Commit ρ × Attempt CommitReply)) (c : Commit ρ)
    (reply : Attempt CommitReply) :
    loggedRows (log ++ [(c, reply)]) = loggedRows log + repliedRows reply := by
  simp [loggedRows]

@[simp] theorem loggedDuration_concat (log : List (Commit ρ × Attempt CommitReply)) (c : Commit ρ)
    (reply : Attempt CommitReply) :
    loggedDuration (log ++ [(c, reply)]) = loggedDuration log + repliedDuration reply := by
  simp [loggedDuration]

@[simp] theorem loggedDuration_cons (c : Commit ρ) (reply : Attempt CommitReply)
    (log : List (Commit ρ × Attempt CommitReply)) :
    loggedDuration ((c, reply) :: log) = repliedDuration reply + loggedDuration log := by
  simp [loggedDuration]

/-- Why a loader with so many batches to hand over broke off, by its log. -/
inductive Broken (batches : Nat) (log : List (Commit ρ × Attempt CommitReply)) :
    Panic → Prop where
  /-- The sink panicked. -/
  | sink {c : Commit ρ} {p : Panic} (h : (c, .error (.panic p)) ∈ log) : Broken batches log p
  /-- There is no number for a batch. -/
  | numbers (h : maxBatches < batches) : Broken batches log .counterOverflow
  /-- There are more rows than can be counted. -/
  | rows (h : LoadResult.maxRows < loggedRows log) : Broken batches log .counterOverflow
  /-- The batches took longer than a duration can say. -/
  | duration (h : LoadResult.maxDuration < loggedDuration log) :
      Broken batches log .durationOverflow

/-- The counters of a loader say what is in the log. -/
structure Counted (s : State ρ) (log : List (Commit ρ × Attempt CommitReply)) : Prop where
  batches : s.batches = log.length
  rows : s.total.rows = loggedRows log
  duration : s.total.duration = loggedDuration log

variable [Timed ρ] {sink : Sink ω ρ} {e : Execution} {s s' : State ρ} {group : String}
  {upTo : Instant} {front rest : List (Except Error (Staged ρ))} {batches : Nat} {p : Panic}
  {log : List (Commit ρ × Attempt CommitReply)} {w : ω}
  {v v' : ω × List (Commit ρ × Attempt CommitReply)}

/-! ## One batch -/

omit [Timed ρ] in
/-- What is read over or gathered is not counted. -/
theorem Counted.of_eq (h : Counted s log) (hbatches : s'.batches = s.batches)
    (htotal : s'.total = s.total) : Counted s' log :=
  ⟨hbatches.trans h.batches, htotal ▸ h.rows, htotal ▸ h.duration⟩

omit [Timed ρ] in
/-- A batch that was committed is counted. -/
theorem Counted.flush (h : Counted s v.2)
    (hflush : Loading.flush sink.logged group upTo s v = ((s', none), v')) :
    Counted s' v'.2 := by
  cases flush_spec_of_eq hflush with
  | @takes rows duration _ hroom hcommit hadd =>
    rw [Sink.log_of_commit hcommit]
    refine ⟨?_, ?_, ?_⟩
    · simp [State.book, State.handOver, h.batches]
    · rw [loggedRows_concat, ← h.rows]
      rfl
    · rw [loggedDuration_concat, ← h.duration]
      rfl

omit [Timed ρ] in
/-- **A loader that breaks off at a batch** has a reason in its log. -/
theorem Counted.broken (h : Counted s v.2) (hdue : v.2.length < batches)
    (hflush : Loading.flush sink.logged group upTo s v = ((s', some (.panicked p)), v')) :
    Broken batches v'.2 p := by
  cases flush_spec_of_eq hflush with
  | loses hroom hcommit hlost hend =>
    obtain ⟨m, hm⟩ | ⟨p', hp, rfl⟩ := hend
    · cases hm
    · obtain rfl := Ending.panicked.inj hp
      rw [Sink.log_of_commit hcommit]
      exact .sink (List.mem_append_right _ (List.mem_singleton_self _))
  | @overruns rows duration _ _ hroom hcommit hadd =>
    rw [Sink.log_of_commit hcommit]
    obtain ⟨rfl, hrows⟩ | ⟨rfl, hduration⟩ := LoadResult.add?_eq_error hadd
    · refine .rows ?_
      rwa [loggedRows_concat, ← h.rows]
    · refine .duration ?_
      rwa [loggedDuration_concat, ← h.duration]
  | exhausts hfull => exact .numbers ((h.batches ▸ hfull).trans_lt hdue)

/-! ## A whole run -/

/-- **What was read was counted**, entry by entry. -/
theorem Reads.counted (h : Reads sink.logged e (w, []) front s v) : Counted s v.2 := by
  induction h with
  | start => exact ⟨rfl, rfl, rfl⟩
  | next _ hstep ih =>
    cases step_spec_of_eq hstep with
    | early => exact ih.of_eq rfl rfl
    | gathers => exact ih.of_eq (State.accept_batches _ _) (State.accept_total _ _)
    | closes hd hs hu hl hlater hfull hflush =>
      exact (ih.flush hflush).of_eq (State.accept_batches _ _) (State.accept_total _ _)

omit [Timed ρ] in
/-- Another batch is due. -/
theorem length_lt_of_due {all : List (List ρ)} {next : List ρ}
    (h : batchesOf log ++ [next] <+: all) : log.length < all.length := by
  simpa [batchesOf, Nat.succ_le_iff] using h.length_le

/-- A loader that breaks off at an entry. -/
theorem Batched.stops_broken (h : Batched sink e front s v.2) (hcount : Counted s v.2)
    {entry : Except Error (Staged ρ)}
    (hstep : step sink.logged e s entry v = ((s', some (.panicked p)), v')) :
    Broken (greedyBatches e.batchSize (due sink e none (front ++ entry :: rest))).length v'.2
      p := by
  cases step_spec_of_eq hstep with
  | loses hd hs hu hl hlater hfull hflush =>
    exact hcount.broken (length_lt_of_due (h.prefix_of_later hl hlater hfull rest)) hflush

/-- A loader that breaks off at the end of its stream. -/
theorem Batched.finish_broken (h : Batched sink e front s v.2) (hcount : Counted s v.2)
    (hpast : Past e s rest) (hend : (Loading.finish sink.logged e s v).1.2 = .panicked p) :
    Broken (greedyBatches e.batchSize (due sink e none (front ++ rest))).length
      (Loading.finish sink.logged e s v).2.2 p := by
  rcases hl : s.last with _ | last
  · rw [finish_of_none hl] at hend
    cases hend
  by_cases hempty : s.buffer = []
  · rw [finish_of_nil hl hempty] at hend
    cases hend
  rcases hflush : Loading.flush sink.logged e.group
    (checkpointAfter last s.settled e.window.since) s v with ⟨⟨s', _ | ending⟩, v'⟩
  · rw [finish_of_ne_nil hl hempty hflush] at hend
    cases hend
  · rw [finish_of_ne_nil hl hempty hflush] at hend ⊢
    obtain rfl : ending = .panicked p := hend
    rw [h.greedyBatches_of_past hpast hempty]
    exact hcount.broken (length_lt_of_due List.prefix_rfl) hflush

/-- **A loader without a result** broke off, and its log says why. -/
theorem run_broken {items : List (Except Error (Staged ρ))}
    (h : (run sink e items w).1.result = .error p) :
    Broken (greedyBatches e.batchSize (due sink e none items)).length (handed sink e items w)
      p := by
  obtain ⟨front, rest, s, v, rfl, hreads, hend⟩ := run_cases sink.logged e items (w, [])
  rw [run_logged] at h
  rw [handed]
  rcases hend with ⟨hpast, hrun⟩ | ⟨entry, back, s', ending, v', rfl, hstep, -, hrun⟩
  · rw [hrun] at h ⊢
    exact hreads.batched.finish_broken hreads.counted hpast (panicked_of_conclude h)
  · rw [hrun] at h ⊢
    obtain rfl := panicked_of_conclude h
    exact hreads.batched.stops_broken hreads.counted hstep

/-- A loader that has no reason to break off has a result. -/
theorem exists_result {items : List (Except Error (Staged ρ))}
    (h : ∀ p, ¬Broken (greedyBatches e.batchSize (due sink e none items)).length
      (handed sink e items w) p) : ∃ r, (run sink e items w).1.result = .ok r := by
  rcases hresult : (run sink e items w).1.result with p | r
  · exact absurd (run_broken hresult) (h p)
  · exact ⟨r, rfl⟩

/-- **A loader does not break off** if its sink is silent, unless it runs out of numbers. -/
theorem exists_result_of_silent {items : List (Except Error (Staged ρ))}
    (hsilent : ∀ c w, Silent (sink.commit c w).1)
    (hbatches : (greedyBatches e.batchSize (due sink e none items)).length ≤ maxBatches) :
    ∃ r, (run sink e items w).1.result = .ok r := by
  have hlog := (performs_handed sink e items w).forall_reply (p := fun _ => Silent) hsilent
  refine exists_result fun p hbroken => ?_
  cases hbroken with
  | @sink c p h => exact (hlog _ h).calm p rfl
  | numbers h => exact absurd hbatches h.not_ge
  | rows h =>
    have hnone : loggedRows (handed sink e items w) = 0 :=
      List.sum_eq_zero (List.forall_mem_map.mpr fun entry hentry => (hlog entry hentry).rows)
    exact absurd (hnone ▸ h) (by decide)
  | duration h =>
    have hnone : loggedDuration (handed sink e items w) = 0 :=
      List.sum_eq_zero (List.forall_mem_map.mpr fun entry hentry => (hlog entry hentry).duration)
    exact absurd (hnone ▸ h) (by decide)

end Loading

end Ingest
