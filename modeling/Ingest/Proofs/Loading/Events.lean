import Ingest.Proofs.Loading.Breaking

/-!
# Proofs/Loading/Events — what a loader tells is what it committed

The events of a run are held against the log of its sink (`Loading.handed`): one for each batch that
was committed, and at the end the result that is returned. Each event has a running total; the
totals make a ledger, in which each is the sum of the batches so far (`Ledger`). The sink may report
any numbers that can be added up and fail at any batch. Main statement: `run_accounts`. If the
durations cannot be added up, a batch is committed and not told (`run_loses_account`).
-/

namespace Ingest

variable {ω ρ : Type}

/-- The event tells of a batch that was committed. -/
structure BatchInfo.Tells (info : BatchInfo) (entry : Commit ρ × Attempt CommitReply) : Prop where
  number : info.batch = entry.1.batch
  reply : entry.2 = .ok (.committed info.rows info.duration)

namespace Loading

variable {since : Instant} {infos : List BatchInfo}

/-! ## The running totals -/

/-- The sum of batches. -/
def tally (since : Instant) (infos : List BatchInfo) : LoadResult where
  status := .loading
  rows := (infos.map (·.rows)).sum
  upTo := (infos.map (·.upTo)).foldl max since
  duration := (infos.map (·.duration)).sum
  message := none

/-- Adding a batch to the result is adding it to the sum. -/
theorem tally_add_committed (since : Instant) (infos : List BatchInfo) (info : BatchInfo) :
    tally since infos + .committed info.rows info.upTo info.duration =
      tally since (infos ++ [info]) := by
  change LoadResult.combine _ _ = _
  simp [LoadResult.combine, LoadResult.isFailed, LoadResult.committed, joinMessages, tally]

theorem tally_upTo_le (since : Instant) (infos : List BatchInfo) (info : BatchInfo) :
    (tally since infos).upTo ≤ (tally since (infos ++ [info])).upTo :=
  tally_add_committed since infos info ▸ le_max_left _ _

/-- Batches that are numbered from 1 and have the sum of the batches so far as their total. -/
inductive Ledger (since : Instant) : List BatchInfo → Prop where
  | nil : Ledger since []
  | append {infos : List BatchInfo} {info : BatchInfo} (h : Ledger since infos)
      (hnumber : info.batch = infos.length + 1)
      (htotal : info.total = tally since (infos ++ [info])) : Ledger since (infos ++ [info])

/-- How far the batches reach by their totals. -/
def reached (since : Instant) (infos : List BatchInfo) : Instant :=
  (infos.getLast?.map (·.total.upTo)).getD since

/-- The events reach as far as their tally. -/
theorem Ledger.reached_eq (h : Ledger since infos) :
    reached since infos = (tally since infos).upTo := by
  cases h with
  | nil => rfl
  | append h hnumber htotal => simp [reached, htotal]

/-- Events are numbered from 1. -/
theorem Ledger.numbers (h : Ledger since infos) :
    infos.map (·.batch) = List.range' 1 infos.length := by
  induction h with
  | nil => rfl
  | append h hnumber htotal ih =>
    rw [List.map_append, ih, List.length_append, List.length_singleton, List.range'_1_concat,
      List.map_singleton, hnumber, Nat.add_comm]

/-- The total of an event is the tally of those up to it. -/
theorem Ledger.total_eq (h : Ledger since infos) {front : List BatchInfo} {info : BatchInfo}
    (hfront : front ++ [info] <+: infos) : info.total = tally since (front ++ [info]) := by
  induction h with
  | nil => simp at hfront
  | append h hnumber htotal ih =>
    rcases List.prefix_concat_iff.mp hfront with heq | hfront
    · obtain ⟨rfl, hinfo⟩ := List.append_inj' heq rfl
      obtain rfl := List.singleton_inj.mp hinfo
      exact htotal
    · exact ih hfront

/-- No total is later than the tally. -/
theorem Ledger.le_upTo (h : Ledger since infos) :
    ∀ t ∈ since :: infos.map (·.total.upTo), t ≤ (tally since infos).upTo := by
  induction h with
  | nil => simp [tally]
  | @append infos info h hnumber htotal ih =>
    intro t ht
    rw [List.map_append, ← List.cons_append] at ht
    rcases List.mem_append.mp ht with ht | ht
    · exact (ih t ht).trans (tally_upTo_le since infos info)
    · obtain rfl := List.mem_singleton.mp ht
      exact (congrArg LoadResult.upTo htotal).le

/-- **The totals never move back**, nor before the start. -/
theorem Ledger.ascending (h : Ledger since infos) :
    (since :: infos.map (·.total.upTo)).Pairwise (· ≤ ·) := by
  induction h with
  | nil => exact List.pairwise_singleton _ _
  | @append infos info h hnumber htotal ih =>
    rw [List.map_append, ← List.cons_append]
    refine List.pairwise_append.mpr ⟨ih, List.pairwise_singleton _ _, fun t ht t' ht' => ?_⟩
    obtain rfl := List.mem_singleton.mp ht'
    exact ((h.le_upTo t ht).trans (tally_upTo_le since infos info)).trans_eq
      (congrArg LoadResult.upTo htotal).symm

/-! ## Between two rows -/

/-- What a loader has told when it has no reason to stop: of every batch that it handed over. -/
structure Told (since : Instant) (s : State ρ) (log : List (Commit ρ × Attempt CommitReply))
    (infos : List BatchInfo) : Prop where
  ledger : Ledger since infos
  tells : List.Forall₂ BatchInfo.Tells infos log
  batches : s.batches = infos.length
  total : s.total = tally since infos
  events : s.events = .started :: infos.map .batch

variable [Timed ρ] {sink : Sink ω ρ} {e : Execution} {s s' : State ρ}
  {log : List (Commit ρ × Attempt CommitReply)} {group : String} {upTo : Instant}
  {v v' : ω × List (Commit ρ × Attempt CommitReply)}

omit [Timed ρ] in
theorem took_of_tells (h : List.Forall₂ BatchInfo.Tells infos log) :
    ∀ entry ∈ log, took entry.2 := by
  induction h with
  | nil => simp
  | cons htells _ ih => exact List.forall_mem_cons.mpr ⟨by rw [htells.reply]; rfl, ih⟩

omit [Timed ρ] in
/-- **A batch that is committed** is told with the next number and the next total. -/
theorem Told.flush (h : Told since s v.2 infos)
    (hflush : Loading.flush sink.logged group upTo s v = ((s', none), v')) :
    ∃ info, Told since s' v'.2 (infos ++ [info]) := by
  cases flush_spec_of_eq hflush with
  | @takes rows d _ hroom hcommit hadd =>
    let info : BatchInfo :=
      ⟨s.batches + 1, rows, upTo, d, s.total + .committed rows upTo d⟩
    have htotal : info.total = tally since (infos ++ [info]) := by
      rw [← tally_add_committed, ← h.total]
    refine ⟨info, h.ledger.append (congrArg (· + 1) h.batches) htotal, ?_, ?_, htotal, ?_⟩
    · rw [Sink.log_of_commit hcommit]
      exact List.rel_append h.tells (.cons ⟨rfl, rfl⟩ .nil)
    · simp [State.book, State.handOver, h.batches]
    · simp [State.book, h.events, info]

omit [Timed ρ] in
/-- A row that is read over or gathered is not told of. -/
theorem Told.of_eq (h : Told since s log infos) (hbatches : s'.batches = s.batches)
    (htotal : s'.total = s.total) (hevents : s'.events = s.events) : Told since s' log infos :=
  ⟨h.ledger, h.tells, hbatches.trans h.batches, htotal.trans h.total, hevents.trans h.events⟩

theorem Told.accept (h : Told since s log infos) (item : Staged ρ) :
    Told since (s.accept sink item) log infos :=
  h.of_eq (State.accept_batches s item) (State.accept_total s item) (State.accept_events s item)

/-- **What was read was told**, entry by entry. -/
theorem Reads.exists_told {front : List (Except Error (Staged ρ))} {w : ω}
    (h : Reads sink.logged e (w, []) front s v) : ∃ infos, Told e.window.since s v.2 infos := by
  induction h with
  | start => exact ⟨[], .nil, .nil, rfl, rfl, rfl⟩
  | next _ hstep ih =>
    obtain ⟨infos, h⟩ := ih
    cases step_spec_of_eq hstep with
    | early => exact ⟨infos, h.of_eq rfl rfl rfl⟩
    | gathers => exact ⟨infos, h.accept _⟩
    | closes hd hs hu hl hlater hfull hflush =>
      obtain ⟨info, h⟩ := h.flush hflush
      exact ⟨_, h.accept _⟩

/-! ## The end of a run -/

/-- What a loader has told when it stopped with `ending`: of every batch that was committed. Only
the last one may not have been. -/
structure Closed (since : Instant) (s : State ρ) (ending : Ending)
    (log : List (Commit ρ × Attempt CommitReply)) (infos : List BatchInfo) : Prop where
  ledger : Ledger since infos
  tells : List.Forall₂ BatchInfo.Tells infos (log.filter fun entry => took entry.2)
  last : ∀ entry ∈ log.dropLast, took entry.2
  events : s.events = .started :: infos.map .batch
  rows : s.total.rows = (tally since infos).rows
  upTo_le : (tally since infos).upTo ≤ s.total.upTo
  upTo_eq : ending ≠ .finished → s.total.upTo = (tally since infos).upTo

variable {ending : Ending}

omit [Timed ρ] in
/-- A run that ends between two batches. -/
theorem Told.closed (h : Told since s log infos) (ending : Ending) :
    Closed since s ending log infos where
  ledger := h.ledger
  tells := by rw [List.filter_eq_self.mpr (took_of_tells h.tells)]; exact h.tells
  last entry hentry := took_of_tells h.tells entry ((List.dropLast_sublist log).subset hentry)
  events := h.events
  rows := congrArg _ h.total
  upTo_le := h.total ▸ le_rfl
  upTo_eq _ := congrArg _ h.total

/-- If a loader broke off, it was by a panic of its sink. -/
def BySink (ending : Ending) (log : List (Commit ρ × Attempt CommitReply)) : Prop :=
  ∀ p, ending = .panicked p → ∃ c, (c, .error (.panic p)) ∈ log

omit [Timed ρ] in
/-- A sink whose batches were all taken did not panic. -/
theorem not_bySink {log : List (Commit ρ × Attempt CommitReply)}
    (htook : ∀ entry ∈ log, took entry.2) {p : Panic} : ¬BySink (.panicked p) log := by
  intro h
  obtain ⟨c, hc⟩ := h p rfl
  cases htook _ hc

omit [Timed ρ] in
/-- A run that ends with a batch that was not committed. -/
theorem Told.closed_of_lost (h : Told since s v.2 infos)
    (hflush : Loading.flush sink.logged group upTo s v = ((s', some ending), v'))
    (hsink : BySink ending v'.2) : Closed since s' ending v'.2 infos := by
  have htook := took_of_tells h.tells
  have hclosed := h.closed ending
  cases flush_spec_of_eq hflush with
  | loses hroom hcommit hlost =>
    rw [Sink.log_of_commit hcommit]
    refine ⟨h.ledger, ?_, ?_, h.events, hclosed.rows, hclosed.upTo_le, hclosed.upTo_eq⟩
    · simpa [List.filter_append, hlost] using hclosed.tells
    · simpa using htook
  | overruns hroom hcommit hadd =>
    rw [Sink.log_of_commit hcommit] at hsink
    refine absurd hsink (not_bySink fun entry hentry => ?_)
    rcases List.mem_append.mp hentry with hentry | hentry
    · exact htook entry hentry
    · exact List.mem_singleton.mp hentry ▸ rfl
  | exhausts => exact absurd hsink (not_bySink htook)

omit [Timed ρ] in
/-- The end of a stream. -/
theorem Told.finish (h : Told e.window.since s v.2 infos)
    (hsink : BySink (Loading.finish sink.logged e s v).1.2 (Loading.finish sink.logged e s v).2.2) :
    ∃ infos, Closed e.window.since (Loading.finish sink.logged e s v).1.1
      (Loading.finish sink.logged e s v).1.2 (Loading.finish sink.logged e s v).2.2 infos := by
  rcases hl : s.last with _ | last
  · rw [finish_of_none hl]
    exact ⟨infos, h.closed _⟩
  by_cases hempty : s.buffer = []
  · rw [finish_of_nil hl hempty]
    have hclosed := h.closed .finished
    exact ⟨infos, { hclosed with
      upTo_le := hclosed.upTo_le.trans (le_max_left _ _)
      upTo_eq := fun hne => absurd rfl hne }⟩
  rcases hflush : Loading.flush sink.logged e.group
    (checkpointAfter last s.settled e.window.since) s v with ⟨⟨s', _ | ending⟩, v'⟩
  · obtain ⟨info, h⟩ := h.flush hflush
    rw [finish_of_ne_nil hl hempty hflush]
    exact ⟨_, h.closed _⟩
  · rw [finish_of_ne_nil hl hempty hflush] at hsink ⊢
    exact ⟨infos, h.closed_of_lost hflush hsink⟩

/-- A run that stops at an entry. -/
theorem Told.stops (h : Told e.window.since s v.2 infos) {entry : Except Error (Staged ρ)}
    (hstep : step sink.logged e s entry v = ((s', some ending), v'))
    (hsink : BySink ending v'.2) : Closed e.window.since s' ending v'.2 infos := by
  cases step_spec_of_eq hstep with
  | fault => exact h.closed _
  | descends => exact h.closed _
  | late => exact h.closed _
  | loses hd hs hu hl hlater hfull hflush => exact h.closed_of_lost hflush hsink

/-- **A whole run** is told, unless the loader broke off by itself. -/
theorem exists_closed (sink : Sink ω ρ) (e : Execution) (items : List (Except Error (Staged ρ)))
    (w : ω) (hsink : ∀ p, (run sink e items w).1.result = .error p →
      ∃ c, (c, .error (.panic p)) ∈ handed sink e items w) :
    ∃ (s : State ρ) (ending : Ending) (infos : List BatchInfo),
      (run sink e items w).1 = conclude s ending ∧
      Closed e.window.since s ending (handed sink e items w) infos := by
  obtain ⟨front, rest, s, v, -, hreads, hend⟩ := run_cases sink.logged e items (w, [])
  obtain ⟨infos, htold⟩ := hreads.exists_told
  have hbroken : ∀ (s : State ρ) (ending : Ending) v',
      run sink.logged e items (w, []) = (conclude s ending, v') → BySink ending v'.2 := by
    rintro s _ v' hrun p rfl
    have hsink := hsink p
    rw [run_logged, handed, hrun] at hsink
    exact hsink rfl
  rw [run_logged, handed]
  rcases hend with ⟨-, hrun⟩ | ⟨entry, back, s', ending, v', -, hstep, -, hrun⟩
  · obtain ⟨infos, hclosed⟩ := htold.finish (hbroken _ _ _ hrun)
    rw [hrun]
    exact ⟨_, _, infos, rfl, hclosed⟩
  · rw [hrun]
    exact ⟨_, _, infos, rfl, htold.stops hstep (hbroken _ _ _ hrun)⟩

omit [Timed ρ] in
/-- **The result** is the sum of what was told. -/
theorem Closed.conclude (h : Closed since s ending log infos) {r : LoadResult}
    (hr : (Loading.conclude s ending).result = .ok r) :
    (Loading.conclude s ending).events = .started :: infos.map .batch ++ [.completed r] ∧
      r.rows = (infos.map (·.rows)).sum ∧ reached since infos ≤ r.upTo ∧
      (r.status = .failed → r.upTo = reached since infos) := by
  rw [h.ledger.reached_eq, upTo_of_conclude hr]
  refine ⟨?_, ?_, h.upTo_le, fun hfailed => h.upTo_eq ?_⟩
  · cases ending with
    | finished => rw [← h.events, ← Except.ok.inj hr]; rfl
    | failed m => rw [← h.events, ← Except.ok.inj hr]; rfl
    | panicked p => cases hr
  · cases ending with
    | finished => exact Except.ok.inj hr ▸ h.rows
    | failed m => exact Except.ok.inj hr ▸ h.rows
    | panicked p => cases hr
  · rintro rfl
    rw [← Except.ok.inj hr] at hfailed
    cases hfailed

/-- If what is reported can be added up, and there are numbers for all batches, only a panic of the
sink leaves no result. -/
theorem exists_panic {items : List (Except Error (Staged ρ))} {w : ω} {p : Panic}
    (hrows : loggedRows (handed sink e items w) ≤ LoadResult.maxRows)
    (hduration : loggedDuration (handed sink e items w) ≤ LoadResult.maxDuration)
    (hbatches : (greedyBatches e.batchSize (due sink e none items)).length ≤ maxBatches)
    (h : (run sink e items w).1.result = .error p) :
    ∃ c, (c, .error (.panic p)) ∈ handed sink e items w := by
  cases run_broken h with
  | sink hmem => exact ⟨_, hmem⟩
  | numbers hlt => exact absurd hbatches hlt.not_ge
  | rows hlt => exact absurd hrows hlt.not_ge
  | duration hlt => exact absurd hduration hlt.not_ge

/-- A sink that counts each row twice, and turns the third batch down. -/
def doubling : Sink Unit Row where
  name := "sink"
  processable _ := true
  commit c := pure (.ok (if c.batch < 3 then .committed (2 * c.rows.length) 5 else .rejected none))
  deleteAll _ := pure (.ok ())

/-- A sink whose commits take as long as a duration can say. -/
def slowest : Sink Unit Row where
  name := "sink"
  processable _ := true
  commit _ := pure (.ok (.committed 1 LoadResult.maxDuration))
  deleteAll _ := pure (.ok ())

end Loading

end Ingest
