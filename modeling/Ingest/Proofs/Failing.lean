import Ingest.Proofs.Aggregation.Intake
import Ingest.Proofs.Aggregation.Ascending
import Ingest.Proofs.GroupingSafety

/-!
# Proofs/Failing — a grouping stage fails in its stream, once and last

A stage takes rows in as long as none of them fails (`Machine.Takes`, `GroupBy.FailsAt`), and at the
first failure its stream ends with the error: what was sent by then stays, and the groups that are
held are dropped. Main statement: `fails_in_band`, for both stages.
-/

namespace Ingest

variable {κ ρ σ : Type} [Timed ρ]

/-! ## A stage and the groups it holds -/

/-- A grouping stage by its parts, and what it holds of each key. -/
structure Machine (κ ρ σ : Type) extends GroupBy κ ρ where
  /-- The stage before its first row. -/
  start : σ
  /-- One row. -/
  step : σ → ρ → Attempt (σ × List (Staged ρ))
  /-- The end of the input. -/
  finish : σ → Attempt (List (Staged ρ))
  /-- The group held of a key. -/
  held : σ → κ → Option (Pending ρ)

section Parts

variable [DecidableEq κ]

/-- The parts of a bounded stage. -/
def StreamingAggregation.machine (a : StreamingAggregation κ ρ) : Machine κ ρ (State κ ρ) where
  toGroupBy := a.toGroupBy
  start := a.start
  step := a.step
  finish := a.finish
  held s := s.cache.get?

/-- The parts of a stage that flushes. -/
def GroupingAggregation.machine (a : GroupingAggregation κ ρ) : Machine κ ρ (State κ ρ) where
  toGroupBy := a.toGroupBy
  start := GroupingAggregation.start
  step := a.step
  finish := a.finish
  held s := find? s.groups

end Parts

namespace Machine

/-- The stream of a stage. -/
def stream (m : Machine κ ρ σ) (items : List (Except Error ρ)) : List (Except Error (Staged ρ)) :=
  Stage.fold m.step m.finish m.start items

/-- The stage takes the rows `read` in, since none of them fails. By then it has sent `out`. -/
inductive Takes (m : Machine κ ρ σ) : List ρ → List (Staged ρ) → σ → Prop where
  | start : m.Takes [] [] m.start
  | next {read : List ρ} {r : ρ} {out more : List (Staged ρ)} {s s' : σ} (h : m.Takes read out s)
      (hsound : ∀ e, ¬m.FailsAt read (m.held s) (.ok r) e) (hstep : m.step s r = .ok (s', more)) :
      m.Takes (read ++ [r]) (out ++ more) s'

/-- The first entry that fails does so with the error `e`; the rows before it sent `out`. -/
inductive FirstFailure (m : Machine κ ρ σ) :
    List (Except Error ρ) → List (Staged ρ) → Error → Prop where
  | intro {read : List ρ} {out : List (Staged ρ)} {s : σ} {entry : Except Error ρ} {e : Error}
      (h : m.Takes read out s) (hfails : m.FailsAt read (m.held s) entry e)
      (rest : List (Except Error ρ)) :
      m.FirstFailure (read.map .ok ++ entry :: rest) out e

/-- No entry fails; `last` is what the stage sends at the end, after what the rows sent. -/
inductive Completes (m : Machine κ ρ σ) : List (Except Error ρ) → List (Staged ρ) → Prop where
  | intro {rows : List ρ} {out last : List (Staged ρ)} {s : σ} (h : m.Takes rows out s)
      (hfinish : m.finish s = .ok last) : m.Completes (rows.map .ok) (out ++ last)

/-- A stream of a stage that fails in its stream, once and last: either an entry fails, and the
stream is what the rows before it sent and then the error, or none does, and the stream has no
error. -/
structure InBand (m : Machine κ ρ σ) (items : List (Except Error ρ))
    (stream : List (Except Error (Staged ρ))) : Prop where
  failed : ∀ out e, stream = out.map .ok ++ [.error e] ↔ m.FirstFailure items out e
  completed : ∀ sent, stream = sent.map .ok ↔ m.Completes items sent
  either : (∃ out e, m.FirstFailure items out e) ∨ ∃ sent, m.Completes items sent

/-- A step fails exactly if its row does, and the end of the input does not fail. -/
structure Lawful (m : Machine κ ρ σ) : Prop where
  step_error_iff : ∀ {read out s}, Stage.Runs m.step m.start read out s → ∀ r e,
    (∃ f, m.step s r = .error f ∧ f.caught = e) ↔ m.FailsAt read (m.held s) (.ok r) e
  exists_finish : ∀ {read out s}, Stage.Runs m.step m.start read out s →
    ∃ last, m.finish s = .ok last

variable {m : Machine κ ρ σ} {read : List ρ} {out sent : List (Staged ρ)} {s : σ}
  {items : List (Except Error ρ)} {e : Error}

theorem Takes.runs (h : m.Takes read out s) : Stage.Runs m.step m.start read out s := by
  induction h with
  | start => exact .start
  | next _ _ hstep ih => exact ih.next hstep

/-- A lawful machine takes in every row that it does not fail at. -/
theorem Lawful.takes (hm : m.Lawful) (h : Stage.Runs m.step m.start read out s) :
    m.Takes read out s := by
  induction h with
  | start => exact .start
  | @next read r out more s s' hruns hstep ih =>
    refine ih.next (fun e hfails => ?_) hstep
    obtain ⟨f, hf, -⟩ := (hm.step_error_iff hruns r e).mpr hfails
    cases hstep.symm.trans hf

/-! ## Streams -/

/-- A stream ends with the first failure. -/
theorem FirstFailure.stream_eq (hm : m.Lawful) (h : m.FirstFailure items out e) :
    m.stream items = out.map .ok ++ [.error e] := by
  obtain @⟨read, out, s, entry, e, h, hfails, rest⟩ := h
  rw [stream, h.runs.fold_append]
  rcases entry with err | r
  · cases hfails
    rfl
  · obtain ⟨f, hf, rfl⟩ := (hm.step_error_iff h.runs r e).mpr hfails
    rw [Stage.fold, hf]

/-- A stream without a failure is what was sent. -/
theorem Completes.stream_eq (h : m.Completes items sent) : m.stream items = sent.map .ok := by
  obtain ⟨h, hfinish⟩ := h
  have hfold := h.runs.fold_append m.finish []
  rw [List.append_nil, Stage.fold, hfinish] at hfold
  rw [stream, hfold, List.map_append]

/-- **Either an entry fails or none does.** -/
theorem Lawful.cases (hm : m.Lawful) (items : List (Except Error ρ)) :
    (∃ out e, m.FirstFailure items out e) ∨ ∃ sent, m.Completes items sent := by
  obtain ⟨read, rest, out, s, tail, rfl, hruns, hends, -⟩ :=
    Stage.fold_cases m.step m.finish m.start items
  have htakes := hm.takes hruns
  cases hends with
  | finished hfinish => exact .inr ⟨_, by simpa using Completes.intro htakes hfinish⟩
  | unfinished hfinish =>
    obtain ⟨last, hlast⟩ := hm.exists_finish hruns
    cases hlast.symm.trans hfinish
  | failed e rest => exact .inl ⟨out, e, .intro htakes (.input e) rest⟩
  | @stuck r f hstep rest =>
    have hfails := (hm.step_error_iff hruns r f.caught).mp ⟨f, hstep, rfl⟩
    exact .inl ⟨out, f.caught, .intro htakes hfails rest⟩

/-- **A lawful stage fails in its stream, once and last.** -/
theorem Lawful.inBand (hm : m.Lawful) (items : List (Except Error ρ)) :
    m.InBand items (m.stream items) where
  failed out e := by
    refine ⟨fun h => ?_, fun h => h.stream_eq hm⟩
    obtain ⟨out', e', hfirst⟩ | ⟨sent, hsent⟩ := hm.cases items
    · obtain ⟨hout, he⟩ := List.append_inj' (h.symm.trans (hfirst.stream_eq hm)) rfl
      obtain rfl := eq_of_map_ok_eq hout
      obtain rfl : e = e' := by simpa using he
      exact hfirst
    · have hmem : .error e ∈ sent.map (Except.ok (ε := Error)) :=
        hsent.stream_eq.symm.trans h ▸ List.mem_append_right _ (List.mem_singleton_self _)
      simp at hmem
  completed sent := by
    refine ⟨fun h => ?_, Completes.stream_eq⟩
    obtain ⟨out', e', hfirst⟩ | ⟨sent', hsent⟩ := hm.cases items
    · have hmem : .error e' ∈ sent.map (Except.ok (ε := Error)) :=
        h.symm.trans (hfirst.stream_eq hm) ▸ List.mem_append_right _ (List.mem_singleton_self _)
      simp at hmem
    · obtain rfl := eq_of_map_ok_eq (h.symm.trans hsent.stream_eq)
      exact hsent
  either := hm.cases items

end Machine

/-! ## The two stages -/

variable [DecidableEq κ]

/-- A streaming aggregation is lawful. -/
theorem StreamingAggregation.lawful (a : StreamingAggregation κ ρ) : a.machine.Lawful where
  step_error_iff {read out s} hruns r e := by
    obtain ⟨sent, held, hcourse, -⟩ := exists_course hruns
    rw [← GroupBy.intake_error_iff hcourse.keeps.clock]
    exact exists_congr fun f => and_congr_left' (step_error_iff hcourse.keeps.handOff)
  exists_finish {read out s} hruns := by
    obtain ⟨sent, held, hcourse, -⟩ := exists_course hruns
    exact ⟨_, hcourse.keeps.finish_eq hcourse.fits⟩

/-- A grouping aggregation is lawful. -/
theorem GroupingAggregation.lawful (a : GroupingAggregation κ ρ) : a.machine.Lawful where
  step_error_iff {read out s} hruns r e := by
    rw [← GroupBy.intake_error_iff (clock_of_runs hruns)]
    exact exists_congr fun f => and_congr_left' step_error_iff
  exists_finish _ := ⟨_, rfl⟩

/-- **Grouping stages fail in their stream, once and last.** If an entry of the input fails, the
first one that does ends the stream with its error, after exactly what the rows before it sent; the
groups held by then are not sent. If no entry fails, no error is sent. -/
theorem fails_in_band (a : StreamingAggregation κ ρ) (b : GroupingAggregation κ ρ)
    (items : List (Except Error ρ)) :
    a.machine.InBand items (a.stage.transform items) ∧
      b.machine.InBand items (b.stage.transform items) :=
  ⟨a.lawful.inBand items, b.lawful.inBand items⟩

/-- A row that descends is the last entry, and the group held by then is not sent. -/
example : GroupingAggregation.byKey.stage.transform
    [.ok (GroupingAggregation.keyedRow 2 "a"), .ok (GroupingAggregation.keyedRow 1 "b"),
      .ok (GroupingAggregation.keyedRow 3 "c")]
    = [.error (.ordering (.atSecond 1) (.atSecond 2))] := by cbv

end Ingest
