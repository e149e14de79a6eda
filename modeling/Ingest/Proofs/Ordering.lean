import Ingest.Proofs.Aggregation.Ascending
import Ingest.Proofs.GroupingSafety
import Ingest.Proofs.Reporting

/-!
# Proofs/Ordering — no violation of order behind an aggregation

A loader that fails was given an error, or met a row that descends, or its sink did not take a batch
(`Loading.fails_of_step`). The second does not happen on a stream of ascending rows, and no sink can
word a lost batch like a descent (`batchFailure_ne_ordering`). Main statement:
`aggregations_ascend` — the groups of either stage ascend, so a violation of order that a loader
behind it reports was worded by the input, a key or a merge.
-/

namespace Ingest

variable {ω ρ : Type}

/-! ## Why a loader fails -/

namespace Loading

variable {sink : Sink ω ρ} {e : Execution} {items front back : List (Except Error (Staged ρ))}
  {s s' : State ρ} {w w₁ : ω} {r : LoadResult} {m : String}

/-- The wording of a batch that a sink did not take. -/
def LostBatch (sink : Sink ω ρ) (m : String) : Prop :=
  ∃ batch size what detail, m = batchFailure batch size what sink.name detail

theorem lostBatch_of_flush {group : String} {upTo : Instant}
    (h : flush sink group upTo s w = ((s', some (.failed m)), w₁)) : LostBatch sink m := by
  have hroom : s.batches < maxBatches := by
    by_contra hfull
    cases (flush_of_full (not_lt.mp hfull) w).symm.trans h
  rcases hc : sink.commit ⟨group, s.batches + 1, s.buffer⟩ w with
    ⟨(err | p) | (⟨rows, d⟩ | reason), w₂⟩
  · cases (flush_of_error hroom hc).symm.trans h
    exact ⟨_, _, _, _, rfl⟩
  · cases (flush_of_panic hroom hc).symm.trans h
  · rcases hadd : s.total.add? (.committed rows upTo d) with p | total
    · cases (flush_of_overrun hroom hc hadd).symm.trans h
    · obtain ⟨-, -, rfl⟩ := LoadResult.add?_eq_ok_iff.mp hadd
      cases (flush_of_committed hroom hc hadd).symm.trans h
  · cases (flush_of_rejected hroom hc).symm.trans h
    exact ⟨_, _, _, _, rfl⟩

theorem lostBatch_of_finish (h : (finish sink e s w).1.2 = .failed m) : LostBatch sink m := by
  rcases hl : s.last with _ | last
  · rw [finish_of_none hl] at h
    cases h
  by_cases hempty : s.buffer = []
  · rw [finish_of_nil hl hempty] at h
    cases h
  rcases hflush : flush sink e.group (checkpointAfter last s.settled e.window.since) s w with
    ⟨⟨s', _ | ending⟩, w'⟩
  · rw [finish_of_ne_nil hl hempty hflush] at h
    cases h
  · rw [finish_of_ne_nil hl hempty hflush] at h
    obtain rfl : ending = .failed m := h
    exact lostBatch_of_flush hflush

/-- The message of a result tells how the loader ended. -/
theorem failed_of_message (hs : s.total.message = none) {ending : Ending}
    (h : (conclude s ending).result = .ok r) (hm : r.message = some m) : ending = .failed m := by
  cases ending with
  | finished =>
    obtain rfl := Except.ok.inj h
    cases hs.symm.trans hm
  | failed m' =>
    obtain rfl := Except.ok.inj h
    exact congrArg Ending.failed (Option.some.inj ((message_add_failed hs _ m').symm.trans hm))
  | panicked p => cases h

/-- A sink cannot word a lost batch like a descent. -/
theorem batchFailure_ne_ordering (batch size : Nat) (what name detail : String) (t u : Instant) :
    batchFailure batch size what name detail ≠ (Error.ordering t u).message := by
  intro heq
  have hordering : (Error.ordering t u).message
      = "Timestamps are not in ascending order: " ++ t.display ++ " < " ++ u.display := rfl
  have hfirst := congrArg (fun m => m.toList.head?) (heq.trans hordering)
  simp [batchFailure] at hfirst

variable [Timed ρ]

/-- **Why a loader fails** at an entry: it is an error, or it descends, or a batch is lost. -/
theorem fails_of_step {entry : Except Error (Staged ρ)}
    (h : step sink e s entry w = ((s', some (.failed m)), w₁)) :
    (∃ err, entry = .error err ∧ m = err.message) ∨
      (∃ item, entry = .ok item ∧ ∃ last, s.descent? (time item.row) = some last) ∨
      LostBatch sink m := by
  cases step_spec_of_eq h with
  | fault err => exact .inl ⟨err, rfl, rfl⟩
  | @descends item last hd => exact .inr (.inl ⟨item, rfl, last, hd⟩)
  | loses _ _ _ _ _ _ hflush => exact .inr (.inr (lostBatch_of_flush hflush))

/-- The last timestamp that a loader knows is that of the last row it read. -/
theorem Reads.last_eq (h : Reads sink e w front s w₁) :
    s.last = (rowsOf front).getLast?.map time := by
  cases h with
  | start => rfl
  | next _ hstep =>
    obtain ⟨item, rfl, hlast, -⟩ := step_none hstep
    simp [hlast]

/-- Ascending rows do not descend. -/
theorem Reads.descent?_eq_none (h : Reads sink e w front s w₁) {item : Staged ρ}
    (asc : Ascending (rowsOf (front ++ .ok item :: back))) : s.descent? (time item.row) = none := by
  rw [rowsOf_append, rowsOf_cons_ok] at asc
  rw [State.descent?, h.last_eq, Option.filter_eq_none_iff]
  intro last hlast
  obtain ⟨r, hr, rfl⟩ := Option.map_eq_some_iff.mp hlast
  have hle := (List.pairwise_append.mp asc).2.2 r (List.mem_of_getLast? hr) item.row (by simp)
  simpa using hle

/-- **On ascending rows** a loader fails for an error of its stream or for a lost batch. -/
theorem message_of_run (asc : Ascending (rowsOf items))
    (h : (run sink e items w).1.result = .ok r) (hm : r.message = some m) :
    (∃ err, .error err ∈ items ∧ m = err.message) ∨ LostBatch sink m := by
  obtain ⟨front, rest, s, w₁, rfl, hreads, hend⟩ := run_cases sink e items w
  rcases hend with ⟨-, hrun⟩ | ⟨entry, back, s', ending, w₂, rfl, hstep, -, hrun⟩
  · rw [hrun] at h
    exact .inr (lostBatch_of_finish
      (failed_of_message ((finish_message sink e s w₁).trans hreads.message) h hm))
  · rw [hrun] at h
    obtain rfl := failed_of_message ((step_message hstep).trans hreads.message) h hm
    rcases fails_of_step hstep with ⟨err, rfl, rfl⟩ | ⟨item, rfl, last, hdescent⟩ | hlost
    · exact .inl ⟨err, by simp, rfl⟩
    · cases (hreads.descent?_eq_none asc).symm.trans hdescent
    · exact .inr hlost

end Loading

/-! ## Behind a stage -/

variable {κ : Type} [Timed ρ]

/-- The rows of a stream ascend, and a loader that reads it reports no violation of order, unless
the input, a key or a merge worded one. -/
structure Orderly (g : GroupBy κ ρ) (items : List (Except Error ρ))
    (stream : List (Except Error (Staged ρ))) : Prop where
  ascending : Ascending (rowsOf stream)
  reported : ∀ {ω : Type} (sink : Sink ω ρ) (e : Execution) (w : ω) (r : LoadResult)
    (t u : Instant), (Loading.run sink e stream w).1.result = .ok r →
    r.message = some (Error.ordering t u).message →
    ∃ err, g.Given items err ∧ err.message = (Error.ordering t u).message

theorem Orderly.of_given {g : GroupBy κ ρ} {items : List (Except Error ρ)}
    {stream : List (Except Error (Staged ρ))} (asc : Ascending (rowsOf stream))
    (hgiven : ∀ err, .error err ∈ stream → g.Given items err) : Orderly g items stream where
  ascending := asc
  reported sink e w r t u hrun hmessage := by
    rcases Loading.message_of_run asc hrun hmessage with ⟨err, hmem, heq⟩ | ⟨_, _, _, _, heq⟩
    · exact ⟨err, hgiven err hmem, heq.symm⟩
    · exact absurd heq.symm (Loading.batchFailure_ne_ordering _ _ _ _ _ t u)

variable [DecidableEq κ]

/-- **Aggregated output ascends**, whatever the bound of the stage and whatever the order in which
the groups of a flush come. -/
theorem aggregations_ascend {items : List (Except Error ρ)} (asc : Ascending (inputRows items)) :
    (∀ a : StreamingAggregation κ ρ, a.KeepsLater →
      Orderly a.toGroupBy items (a.stage.transform items)) ∧
    ∀ a : GroupingAggregation κ ρ, a.KeepsLater → a.Reorders →
      Orderly a.toGroupBy items (a.stage.transform items) := by
  refine ⟨fun a hlater => ?_, fun a hlater horder => ?_⟩
  · exact .of_given (a.ascending_stage hlater items) fun err herr =>
      StreamingAggregation.given_of_stage asc herr
  · exact .of_given (a.ascending_stage hlater horder asc) fun err herr =>
      GroupingAggregation.given_of_stage horder asc herr

/-- One group at a time, for the values of a field. -/
def byKeyBounded : StreamingAggregation String Row where
  toGroupBy := GroupingAggregation.byKey.toGroupBy
  name := "by key"
  buffer := 1

/-- The same groups from a map that gives them out backwards. -/
def byKeyBackwards : GroupingAggregation String Row :=
  { GroupingAggregation.byKey with order := fun _ groups => groups.reverse }

/-- Two keys that take turns, and then the input breaks off. -/
def brokenOff : List (Except Error Row) :=
  GroupingAggregation.tiedRows.map .ok ++ [.error (.extraction "connection lost")]

theorem aggregations_ascend_brokenOff : Ascending (inputRows brokenOff) ∧
    byKeyBounded.KeepsLater ∧ byKeyBackwards.Reorders ∧
    Orderly byKeyBounded.toGroupBy brokenOff (byKeyBounded.stage.transform brokenOff) ∧
    Orderly byKeyBackwards.toGroupBy brokenOff (byKeyBackwards.stage.transform brokenOff) :=
  have asc : Ascending (inputRows brokenOff) := by decide +kernel
  have hlater : byKeyBounded.KeepsLater := FieldAggregation.keepsLater _
  have horder : byKeyBackwards.Reorders := fun _ _ _ => List.reverse_perm _
  ⟨asc, hlater, horder, (aggregations_ascend asc).1 byKeyBounded hlater,
    (aggregations_ascend asc).2 byKeyBackwards hlater horder⟩

end Ingest
