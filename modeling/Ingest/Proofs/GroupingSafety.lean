import Mathlib
import Ingest.Proofs.Loading.Breaking
import Ingest.Proofs.Recording

/-!
# Proofs/GroupingSafety — checkpoints behind a grouping stage

The last group of a flush carries no bound. If the flush comes in the middle of a timestamp, a
loader may therefore move its result to that timestamp while rows of it are still held. Main
statement: `safe_iff_tidy` — this happens exactly if the stage is not tidy on its input.
-/

namespace Ingest

namespace GroupingAggregation

variable {κ ρ : Type} [DecidableEq κ] [Timed ρ] {a : GroupingAggregation κ ρ} {rows : List ρ}

/-- What the stage sends for these rows, traced. -/
def output (a : GroupingAggregation κ ρ) (rows : List ρ) :
    List (Except Error (Staged (Traced ρ))) :=
  a.traced.stage.transform ((Traced.input rows).map .ok)

/-- What a loader behind the stage leaves, and its sink with the traced rows of the batches it took.
-/
def load {ω : Type} (a : GroupingAggregation κ ρ) (rows : List ρ) (e : Execution) (sink : Sink ω ρ)
    (w : ω) : Loading.Outcome × ω × List (Traced ρ) :=
  Loading.run sink.recording e (a.output rows) (w, [])

/-- **No result passes a row that is lost**, whatever the sink does: each input row of the window up
to the result was merged into a group that was sent, and that the sink took or did not want. -/
def Safe (a : GroupingAggregation κ ρ) (rows : List ρ) (e : Execution) : Prop :=
  ∀ (ω : Type) (sink : Sink ω ρ) (w : ω) (r : LoadResult),
    (Loading.run sink e (a.stage.transform (rows.map .ok)) w).1.result = .ok r →
    ∀ i (hi : i < rows.length), e.window.since < time rows[i] → time rows[i] ≤ r.upTo →
      ∃ it, .ok it ∈ a.output rows ∧ i ∈ it.row.origins ∧
        (sink.processable it.row.row → it.row ∈ (a.load rows e sink w).2.2)

/-- The loader on plain rows does the same. -/
theorem run_eq_load {ω : Type} (horder : a.Reorders) (e : Execution) (sink : Sink ω ρ) (w : ω) :
    Loading.run sink e (a.stage.transform (rows.map .ok)) w
      = ((a.load rows e sink w).1, (a.load rows e sink w).2.1) := by
  rw [stage_traced horder]
  exact Loading.run_recording sink e (a.output rows) w []

/-- **A tidy stage is safe.** -/
theorem Tidy.safe (h : a.Tidy rows) (horder : a.Reorders) (hlater : a.KeepsLater)
    (asc : Ascending rows) (e : Execution) : a.Safe rows e := by
  intro ω sink w r hr i hi hsince hupTo
  rw [run_eq_load horder] at hr
  obtain ⟨commits, done, rest, hperf, hbooks⟩ :=
    Loading.run_books sink.recording e (a.output rows) (w, [])
  have hlog : (a.load rows e sink w).2.2 = (committedBatches commits).flatten := hperf.recorded
  have hb := hbooks r hr
  have hback : Backed _ (Traced.input rows) [] (a.output rows) :=
    a.traced.keeps_start.backed horder.traced hlater.traced
      (Traced.ascending_input asc) ((tidy_traced horder rows).mpr h)
  rw [hb.split] at hback
  obtain ⟨groups, hrows, hmakes, -, hcover⟩ := hback.groups List.nil_subperm
  obtain ⟨front, last, back, hdone, hbound, hnext⟩ := hb.reached (hsince.trans_le hupTo)
  have hmem : (⟨rows[i], [i]⟩ : Traced ρ) ∈ Window.rows ⟨.earliest, last.bound⟩
      (Traced.input rows) := by
    refine Window.mem_rows.mpr ⟨List.mem_of_getElem? (i := i) ?_, ?_, hbound ▸ hupTo⟩
    · rw [Traced.getElem?_input, List.getElem?_eq_getElem hi]
      rfl
    · exact (Instant.earliest_le _).trans_lt hsince
  have hgroup := (hcover front last back hdone hnext).subset hmem
  obtain ⟨g, hg, hmember⟩ := List.mem_flatMap.mp hgroup
  obtain ⟨k, hk⟩ := hmakes g hg
  obtain ⟨it, hit, hrow⟩ : ∃ it ∈ done, it.row = g.2 :=
    List.mem_map.mp (hrows ▸ List.mem_map_of_mem hg)
  refine ⟨it, ?_, ?_, fun hwanted => ?_⟩
  · rw [hb.split]
    exact List.mem_append_left _ (List.mem_map_of_mem hit)
  · rw [hrow, hk.origins_eq]
    exact List.mem_flatMap.mpr ⟨_, hmember, List.mem_singleton_self i⟩
  · have hle : time rows[i] ≤ time g.2 := (hk.time_mem hlater.traced).2 _ hmember
    rw [hlog, hb.flatten_batches]
    refine List.mem_filter.mpr ⟨List.mem_map_of_mem hit, ?_⟩
    have hlt : e.window.since < time it.row := hsince.trans_le (hrow ▸ hle)
    have hprocessable : sink.recording.processable it.row := hwanted
    simp [hlt, hprocessable]

/-! ## Torn timestamps -/

/-- A sink that takes a batch unless a row of it is later than `t`. It counts no rows. -/
def sinkUpTo (t : Instant) : Sink Unit ρ where
  name := "sink"
  processable _ := true
  commit c := pure (.ok (if ∀ r ∈ c.rows, time r ≤ t then .committed 0 0 else .rejected none))
  deleteAll _ := pure (.ok ())

theorem took_sinkUpTo {t : Instant} {c : Commit (Traced ρ)} {w : Unit × List (Traced ρ)} :
    took ((sinkUpTo t).recording.commit c w).1 ↔ ∀ r ∈ c.rows, time r ≤ t := by
  have herase : (∀ r ∈ c.erase.rows, time r ≤ t) ↔ ∀ r ∈ c.rows, time r ≤ t := List.forall_mem_map
  rw [← herase]
  change took (.ok (if ∀ r ∈ c.erase.rows, time r ≤ t then .committed 0 0 else .rejected none)) ↔ _
  split_ifs with hle
  · exact iff_of_true rfl hle
  · exact iff_of_false Bool.false_ne_true hle

/-- What the sink took is not later than `t`. -/
theorem performs_sinkUpTo {t : Instant} {w w' : Unit × List (Traced ρ)}
    {commits : List (Commit (Traced ρ) × Attempt CommitReply)}
    (h : (sinkUpTo t).recording.Performs w commits w') :
    ∀ r ∈ (committedBatches commits).flatten, time r ≤ t := by
  have htook := h.forall_reply (p := fun c reply => took reply → ∀ r ∈ c.rows, time r ≤ t)
    fun c w => took_sinkUpTo.mp
  intro r hr
  obtain ⟨batch, hbatch, hr⟩ := List.mem_flatten.mp hr
  obtain ⟨entry, hentry, rfl⟩ := List.mem_map.mp hbatch
  obtain ⟨hmem, htaken⟩ := List.mem_filter.mp hentry
  exact htook entry hmem htaken r hr

omit [Timed ρ] in
/-- A prefix of a stream that does not have `it` ends before `it`. -/
theorem subset_of_split {done sent : List (Staged ρ)} {it : Staged ρ}
    {rest rest' : List (Except Error (Staged ρ))}
    (h : sent.map .ok ++ .ok it :: rest = done.map .ok ++ rest') (hit : it ∉ done) :
    done ⊆ sent := by
  have hinj : Function.Injective (Except.ok (ε := Error) (α := Staged ρ)) :=
    fun _ _ => Except.ok.inj
  rcases List.append_eq_append_iff.mp h with ⟨more, hdone, hrest⟩ | ⟨more, hsent, -⟩
  · rcases more with _ | ⟨entry, more⟩
    · rw [List.append_nil] at hdone
      exact (List.map_injective_iff.mpr hinj hdone) ▸ List.Subset.refl _
    · obtain rfl : .ok it = entry := (List.cons.inj hrest).1
      have hmem : .ok it ∈ done.map (Except.ok (ε := Error)) := by simp [hdone]
      exact absurd ((List.mem_map_of_injective hinj).mp hmem) hit
  · intro x hx
    have hmem : .ok x ∈ sent.map (Except.ok (ε := Error)) := by
      rw [hsent]
      exact List.mem_append_left _ (List.mem_map_of_mem hx)
    exact (List.mem_map_of_injective hinj).mp hmem

omit [Timed ρ] in
/-- What was made of the rows before some row was not made of that row. -/
theorem not_mem_origins {front back : List (Traced ρ)} (h : Traced.input rows = front ++ back)
    {x : Traced ρ} (hx : a.traced.MadeOf front x) : front.length ∉ x.origins := by
  obtain ⟨k, members, hmakes, hsub⟩ := hx
  intro hmem
  rw [hmakes.origins_eq] at hmem
  obtain ⟨m, hm, horigin⟩ := List.mem_flatMap.mp hmem
  obtain ⟨j, hj⟩ := List.mem_iff_getElem?.mp (hsub hm)
  have hlt : j < front.length := (List.getElem?_eq_some_iff.mp hj).1
  have hinput : (Traced.input rows)[j]? = some m := by rw [h, List.getElem?_append_left hlt, hj]
  rw [Traced.getElem?_input] at hinput
  obtain ⟨r, -, rfl⟩ := Option.map_eq_some_iff.mp hinput
  exact absurd (List.mem_singleton.mp horigin) hlt.ne'

/-- The rows up to `t`, in batches that have room for what was sent. -/
def executionUpTo (t : Instant) (sent : List (Staged (Traced ρ))) : Execution where
  group := "all"
  window := ⟨.earliest, t⟩
  batchSize := ((sent.map (·.row)).filter fun r => .earliest < time r).length

theorem wanted_sinkUpTo (t u : Instant) (sent items : List (Staged (Traced ρ))) :
    (sinkUpTo t).recording.wanted (executionUpTo u sent) items
      = (items.map (·.row)).filter fun r => .earliest < time r := by
  refine List.filter_congr fun r _ => ?_
  simp only [executionUpTo, Sink.recording, sinkUpTo]
  exact Bool.and_true _

section Tear

variable {front : List (Traced ρ)} {t : Instant} {sent : List (Staged (Traced ρ))}
  {it : Staged (Traced ρ)} {rest : List (Except Error (Staged (Traced ρ)))}
  {w : Unit × List (Traced ρ)}

/-- **The result reaches a torn timestamp**, since what was sent before the tear is a full batch. -/
theorem Tear.le_upTo (h : a.traced.Tear front t sent it) {r : LoadResult}
    (hr : (Loading.run (sinkUpTo t).recording (executionUpTo (time it.row) sent)
      (sent.map .ok ++ .ok it :: rest) w).1.result = .ok r) : t ≤ r.upTo := by
  obtain ⟨sooner, last, rfl, hlast, hset⟩ := h.last
  have hbound : last.bound = t := by rw [Staged.bound, hset, ← hlast]; rfl
  have hwanted := wanted_sinkUpTo t (time it.row) (sooner ++ [last]) (sooner ++ [last])
  have hpos : 0 < (((sooner ++ [last]).map (·.row)).filter fun r => .earliest < time r).length := by
    refine List.length_pos_of_mem (a := last.row) (List.mem_filter.mpr ⟨by simp, ?_⟩)
    simpa [hlast] using h.earliest_lt
  rw [← hbound]
  refine Loading.bound_le_run h.ascending ⟨?_, rfl⟩ ⟨hlast ▸ h.later, le_rfl⟩ ?_ (fun n w => ?_) hr
  · exact hlast ▸ h.earliest_lt
  · rw [hwanted]
    exact max_eq_left hpos
  · rw [took_sinkUpTo, hwanted]
    intro r hr
    obtain ⟨x, hx, rfl⟩ := List.mem_map.mp (List.mem_of_mem_filter hr)
    rcases List.mem_append.mp hx with hx | hx
    · exact hlast ▸ (List.pairwise_append.mp h.ascending).2.2 x hx last (by simp)
    · exact (List.mem_singleton.mp hx ▸ hlast).le

/-- There are two batches at most: the rows before the tear, and those of the timestamp after it. -/
theorem Tear.length_greedyBatches (h : a.traced.Tear front t sent it) :
    (greedyBatches (executionUpTo (time it.row) sent).batchSize
      (Loading.due (sinkUpTo t).recording (executionUpTo (time it.row) sent) none
        (sent.map .ok ++ .ok it :: rest))).length ≤ 2 := by
  obtain ⟨sooner, last, rfl, hlast, -⟩ := h.last
  have hle := h.le_time
  rw [Loading.due_append h.ascending fun x hx => (hle x hx).trans h.later.le, wanted_sinkUpTo]
  have hbefore : Ascending ((sooner ++ [last]).map (·.row)) := List.pairwise_map.mpr h.ascending
  have hmem : last.row ∈ ((sooner ++ [last]).map (·.row)).filter fun r => .earliest < time r :=
    List.mem_filter.mpr ⟨by simp, by simpa [hlast] using h.earliest_lt⟩
  have hearly : ∀ r ∈ ((sooner ++ [last]).map (·.row)).filter fun r => .earliest < time r,
      time r ≤ t := fun r hr => by
    obtain ⟨x, hx, rfl⟩ := List.mem_map.mp (List.mem_of_mem_filter hr)
    exact hle x hx
  -- the size of a batch is the number of these rows
  refine length_greedyBatches_le_two (hbefore.filter _) hearly ⟨_, hmem, hlast⟩ (fun r hr => ?_)
    h.later
  refine le_antisymm ?_ (Loading.le_of_mem_due_cons hr)
  have hwindow := (List.mem_filter.mp hr).2
  simp only [Window.contains, Bool.and_eq_true, decide_eq_true_eq] at hwindow
  exact hwindow.1.2

/-- **The loader has a result.** -/
theorem Tear.exists_result (h : a.traced.Tear front t sent it) (w : Unit × List (Traced ρ)) :
    ∃ r, (Loading.run (sinkUpTo t).recording (executionUpTo (time it.row) sent)
      (sent.map .ok ++ .ok it :: rest) w).1.result = .ok r := by
  refine Loading.exists_result_of_silent (fun c w => ?_) (h.length_greedyBatches.trans (by decide))
  change Silent (.ok (if ∀ r ∈ c.erase.rows, time r ≤ t then .committed 0 0 else .rejected none))
  split_ifs <;> exact ⟨rfl, rfl, by simp⟩

/-- **The sink took nothing after the tear.** -/
theorem Tear.madeOf_of_committed (h : a.traced.Tear front t sent it)
    {done : List (Staged (Traced ρ))} {rest' : List (Except Error (Staged (Traced ρ)))}
    {commits : List (Commit (Traced ρ) × Attempt CommitReply)} {upTo : Instant}
    (hb : Loading.Books (sinkUpTo t).recording (executionUpTo (time it.row) sent)
      (sent.map .ok ++ .ok it :: rest) done rest' (committedBatches commits) upTo)
    (hle : ∀ r ∈ (committedBatches commits).flatten, time r ≤ t) :
    ∀ r ∈ (committedBatches commits).flatten, a.traced.MadeOf front r := by
  rw [hb.flatten_batches, wanted_sinkUpTo] at hle ⊢
  have hit : it ∉ done := fun hmem => by
    have hlt : .earliest < time it.row := h.earliest_lt.trans h.later
    exact absurd (hle it.row (List.mem_filter.mpr ⟨List.mem_map_of_mem hmem, by simpa using hlt⟩))
      (not_le.mpr h.later)
  intro r hr
  obtain ⟨x, hx, rfl⟩ := List.mem_map.mp (List.mem_of_mem_filter hr)
  exact h.made x (subset_of_split hb.split hit hx)

end Tear

/-- **A safe stage is tidy.** -/
theorem Tidy.of_safe (h : ∀ e, a.Safe rows e) (horder : a.Reorders) (hlater : a.KeepsLater)
    (asc : Ascending rows) : a.Tidy rows := by
  by_contra htorn
  rw [← tidy_traced horder] at htorn
  have hasc : Ascending ([] ++ Traced.input rows) := Traced.ascending_input asc
  have hstart : a.traced.Sends [] [] [] := ⟨.nil, by simp, by simp⟩
  obtain ⟨front, next, back, sent, it, rest, hsplit, hfold, htear⟩ :=
    a.traced.keeps_start.exists_tear hstart horder.traced hlater.traced hasc htorn
  have houtput : a.output rows = sent.map .ok ++ .ok it :: rest := hfold
  rw [List.nil_append, List.nil_append] at htear
  let sink := sinkUpTo (ρ := ρ) (time next)
  let e := executionUpTo (time it.row) sent
  obtain ⟨commits, done, rest', hperf, hbooks⟩ :=
    Loading.run_books sink.recording e (a.output rows) ((), [])
  have hlog : (a.load rows e sink ()).2.2 = (committedBatches commits).flatten := hperf.recorded
  have hle := performs_sinkUpTo hperf
  obtain ⟨r, hr⟩ : ∃ r,
      (Loading.run sink.recording e (a.output rows) ((), [])).1.result = .ok r := by
    rw [houtput]
    exact htear.exists_result _
  have hmade := htear.madeOf_of_committed (houtput ▸ hbooks r hr) hle
  have hreach : time next ≤ r.upTo := htear.le_upTo (houtput ▸ hr)
  have hnext : (Traced.input rows)[front.length]? = some next := by simp [hsplit]
  rw [Traced.getElem?_input] at hnext
  obtain ⟨row, hrow, rfl⟩ := Option.map_eq_some_iff.mp hnext
  obtain ⟨hi, rfl⟩ := List.getElem?_eq_some_iff.mp hrow
  have hplain := (congrArg (·.1.result) (run_eq_load horder e sink ())).trans hr
  obtain ⟨x, -, horigin, hx⟩ := h e Unit sink () r hplain front.length hi htear.earliest_lt hreach
  exact not_mem_origins hsplit (hmade x.row (hlog ▸ hx rfl)) horigin

/-- **A stage is safe exactly if it is tidy.** -/
theorem safe_iff_tidy (horder : a.Reorders) (hlater : a.KeepsLater) (asc : Ascending rows) :
    (∀ e, a.Safe rows e) ↔ a.Tidy rows :=
  ⟨fun h => .of_safe h horder hlater asc, fun h => h.safe horder hlater asc⟩

/-! ## Two keys -/

/-- One group for each value of a field, and no more than one at a time. -/
def byKey : GroupingAggregation String Row where
  toGroupBy := FieldAggregation.toGroupBy { groupBy := ["k"] }
  name := "by key"
  limit := 1

/-- A row with a key. -/
def keyedRow (second : Int) (key : String) : Row :=
  ⟨.atSecond second, .ofList [("k", .string key)]⟩

/-- Two rows of one timestamp with different keys; the second shares its key with a later row. -/
def tiedRows : List Row := [keyedRow 1 "a", keyedRow 2 "b", keyedRow 2 "a", keyedRow 3 "a"]

/-- Three rows with keys and timestamps of their own. -/
def apartRows : List Row := [keyedRow 1 "a", keyedRow 2 "b", keyedRow 3 "c"]

theorem byKey_reorders : byKey.Reorders := fun _ _ _ => .refl _

/-- Rows without ties are safe behind a stage that may hold one group. -/
theorem safe_iff_tidy_apartRows : byKey.Tidy apartRows ∧
    ((∀ e, byKey.Safe apartRows e) ↔ byKey.Tidy apartRows) :=
  ⟨tidyFrom_of_pairwise_lt (by decide +kernel),
    safe_iff_tidy byKey_reorders (FieldAggregation.keepsLater _) (by decide +kernel)⟩

/-- Ten seconds, each row a batch of its own. -/
def oneByOne : Execution := ⟨"g", ⟨.epoch, .atSecond 10⟩, 1⟩

/-- A sink that rejects its third batch. -/
def rejectsThird : Sink Unit Row where
  name := "sink"
  processable _ := true
  commit c := pure (.ok (if c.batch = 3 then .rejected none else .committed c.rows.length 1))
  deleteAll _ := pure (.ok ())

/-- **A row that is lost.** The second row makes both groups leave. The result reaches its timestamp
when the group of the last two rows begins a new batch, and then that batch is rejected. -/
theorem not_safe_tiedRows : byKey.Reorders ∧ byKey.KeepsLater ∧ Ascending tiedRows ∧
    ¬byKey.Safe tiedRows oneByOne := by
  refine ⟨byKey_reorders, FieldAggregation.keepsLater _, by decide +kernel, fun h => ?_⟩
  have hupTo : (Loading.run rejectsThird oneByOne
      (byKey.stage.transform (tiedRows.map .ok)) ()).1.result.map (·.upTo)
      = .ok (.atSecond 2) := by cbv
  have hlog : (byKey.load tiedRows oneByOne rejectsThird ()).2.2.map (·.origins) = [[0], [1]] := by
    cbv
  rcases hr : (Loading.run rejectsThird oneByOne
      (byKey.stage.transform (tiedRows.map .ok)) ()).1.result with p | r <;> rw [hr] at hupTo
  · cases hupTo
  have hreach : r.upTo = .atSecond 2 := Except.ok.inj hupTo
  obtain ⟨it, -, horigin, htaken⟩ := h Unit rejectsThird () r hr 2 (by decide)
    (by decide +kernel) hreach.ge
  have hmem := List.mem_map_of_mem (f := Traced.origins) (htaken rfl)
  rw [hlog] at hmem
  simp only [List.mem_cons, List.not_mem_nil, or_false] at hmem
  rcases hmem with heq | heq <;> simp [heq] at horigin

example : decide (byKey.Tidy tiedRows) = false := by cbv

end GroupingAggregation

end Ingest
