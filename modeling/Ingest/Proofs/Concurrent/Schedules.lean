import Ingest.Pipeline
import Ingest.Proofs.Concurrent.Progress
import Ingest.Proofs.Concurrent.Stopping
import Ingest.Proofs.Regions
import Ingest.Proofs.Staged

/-!
# Proofs/Concurrent/Schedules — the schedule does not matter

When everything is done each loader has done what it does alone with all rows of the extraction, and
the pipeline says what it says when its parts act one after the other (`Faithful`). If a part
panicked the pipeline has no result, and it has none either when its parts act one after the other.
Main statement: `schedule_independent` — so it is for every schedule and every size of the buffer,
and a fair schedule gets there.
-/

namespace Ingest

/-! ## What a pipeline says -/

/-- Two results that differ in what they say of the extraction, if at all. -/
structure PipelineResult.Agrees (r r' : PipelineResult) : Prop where
  status : r.status = r'.status
  upTo : r.upTo = r'.upTo
  rows : r.rows = r'.rows
  loaders : r.loaders = r'.loaders

namespace PipelineResult.Agrees

variable {r r' r'' : PipelineResult}

theorem refl (r : PipelineResult) : r.Agrees r := ⟨rfl, rfl, rfl, rfl⟩

theorem symm (h : r.Agrees r') : r'.Agrees r :=
  ⟨h.status.symm, h.upTo.symm, h.rows.symm, h.loaders.symm⟩

theorem trans (h : r.Agrees r') (h' : r'.Agrees r'') : r.Agrees r'' :=
  ⟨h.status.trans h'.status, h.upTo.trans h'.upTo, h.rows.trans h'.rows, h.loaders.trans h'.loaders⟩

end PipelineResult.Agrees

namespace Pipeline

variable {ω ρ : Type} (p : Pipeline ω ρ) (since : Instant)

/-- The results of loaders and what their observers heard, unless one of them panicked. -/
def collect : List (String × Loading.Outcome) →
    Except Panic (List (String × LoadResult × List LoadEvent))
  | [] => .ok []
  | (name, outcome) :: rest =>
    match outcome.result with
    | .error cause => .error cause
    | .ok result => (collect rest).map ((name, result, outcome.events) :: ·)

/-- What a pipeline says if its extraction and its loaders ended in some way. -/
def answer (ending : Attempt Progress) (outcomes : List (String × Loading.Outcome)) :
    Except Panic PipelineResult :=
  match ending with
  | .error (.panic cause) => .error cause
  | .error (.error err) =>
    (collect outcomes).bind fun loaded => (p.conclude since (some err) loaded).counted
  | .ok _ => (collect outcomes).bind fun loaded => (p.conclude since none loaded).counted

/-- What is wrong with an extraction that ended in some way. -/
def fault? : Attempt Progress → Option Error
  | .error (.error err) => some err
  | _ => none

variable {p since} {ending : Attempt Progress} {outcomes : List (String × Loading.Outcome)}
  {loaded : List (String × LoadResult × List LoadEvent)} {r : PipelineResult}

/-- A pipeline answers if no part of it panicked. -/
theorem answer_eq_ok_iff : p.answer since ending outcomes = .ok r ↔
    (∀ cause, ending ≠ .error (.panic cause)) ∧
      ∃ loaded, collect outcomes = .ok loaded ∧
        (p.conclude since (fault? ending) loaded).rows ≤ LoadResult.maxRows ∧
        r = p.conclude since (fault? ending) loaded := by
  rcases ending with (err | cause) | progress <;>
    rcases hcollect : collect outcomes with cause' | loaded <;>
    simp [answer, hcollect, fault?, Except.bind, PipelineResult.counted_eq_ok_iff]

/-- A loader that did not panic is one of those that are told of. -/
theorem exists_mem_of_collect (h : collect outcomes = .ok loaded) {name : String}
    {outcome : Loading.Outcome} (hmem : (name, outcome) ∈ outcomes) :
    ∃ result, outcome.result = .ok result ∧ (name, result, outcome.events) ∈ loaded := by
  induction outcomes generalizing loaded with
  | nil => cases hmem
  | cons first rest ih =>
    obtain ⟨name', outcome'⟩ := first
    rw [collect] at h
    rcases hresult : outcome'.result with cause | result <;> rw [hresult] at h
    · cases h
    rcases hrest : collect rest with cause | others <;> rw [hrest] at h
    · cases h
    obtain rfl := Except.ok.inj h
    rcases List.mem_cons.mp hmem with heq | hmem
    · obtain ⟨rfl, rfl⟩ := Prod.mk.inj heq
      exact ⟨result, hresult, List.mem_cons_self⟩
    · obtain ⟨result', hok, hin⟩ := ih hrest hmem
      exact ⟨result', hok, List.mem_cons_of_mem _ hin⟩

/-- A loader that panicked leaves nothing to tell. -/
theorem collect_of_error {name : String} {outcome : Loading.Outcome}
    (hmem : (name, outcome) ∈ outcomes) {cause : Panic} (herror : outcome.result = .error cause) :
    ∃ cause, collect outcomes = .error cause := by
  rcases hcollect : collect outcomes with cause' | loaded
  · exact ⟨cause', rfl⟩
  · obtain ⟨result, hok, -⟩ := exists_mem_of_collect hcollect hmem
    cases herror.symm.trans hok

/-- What is told of a loader is its outcome. -/
theorem exists_mem_of_mem_collect (h : collect outcomes = .ok loaded)
    {x : String × LoadResult × List LoadEvent} (hx : x ∈ loaded) :
    ∃ outcome, (x.1, outcome) ∈ outcomes ∧ outcome.result = .ok x.2.1 := by
  induction outcomes generalizing loaded with
  | nil =>
    obtain rfl := Except.ok.inj h
    cases hx
  | cons first rest ih =>
    obtain ⟨name, outcome⟩ := first
    rw [collect] at h
    rcases hresult : outcome.result with cause | result <;> rw [hresult] at h
    · cases h
    rcases hrest : collect rest with cause | others <;> rw [hrest] at h
    · cases h
    obtain rfl := Except.ok.inj h
    rcases List.mem_cons.mp hx with rfl | hx
    · exact ⟨outcome, List.mem_cons_self, hresult⟩
    · obtain ⟨outcome', hmem, hok⟩ := ih hrest hx
      exact ⟨outcome', List.mem_cons_of_mem _ hmem, hok⟩

/-- **If a loader failed** it does not matter for the status whether the extraction did. -/
theorem conclude_agrees (hfailed : ∃ l ∈ loaded, l.2.1.status = .failed)
    (fault fault' : Option Error) :
    (p.conclude since fault loaded).Agrees (p.conclude since fault' loaded) := by
  have hall : ((loaded.map fun l => (l.1, l.2.1)).all fun l => l.2.status = .success) = false := by
    obtain ⟨l, hl, hstatus⟩ := hfailed
    rw [List.all_eq_false]
    exact ⟨_, List.mem_map_of_mem hl, by simp [hstatus]⟩
  refine ⟨?_, rfl, rfl, rfl⟩
  simp only [conclude, PipelineResult.reduce, hall, Bool.false_and, Bool.false_eq_true, if_false]

/-- A run answers what its extraction and its loaders say. -/
theorem run_result [Timed ρ] {p : Pipeline ω ρ} {e : Execution} {w w' : ω}
    {out : Extraction.Outcome ρ} {outcomes : List (String × Loading.Outcome)}
    (hbranches : p.branches.isEmpty = false)
    (hextract : p.extraction.run (pure true) e.group e.window w = (out, w'))
    (hload : (loadAll e out.sent p.branches w').1 = collect outcomes) :
    (p.run e w).1.result = p.answer e.window.since out.result outcomes := by
  rcases hloaded : loadAll e out.sent p.branches w' with ⟨loaded, w''⟩
  rw [hloaded] at hload
  rcases out with ⟨(err | cause) | progress, sent, events⟩ <;>
    simp only [run, hbranches, answer, ← hload, Bool.false_eq_true, if_false, pure_bind]
  · simp only [bind, StateT.bind, hextract, hloaded]
    cases loaded <;> rfl
  · simp only [bind, StateT.bind, hextract]
    rfl
  · simp only [bind, StateT.bind, hextract, hloaded]
    cases loaded <;> rfl

end Pipeline

namespace Assembly

variable {τ σ ρ : Type} [Timed ρ] (a : Assembly τ σ ρ) (name : String) (e : Execution)
  (source : τ) (sinks : Nat → σ)

/-! ## The parts one after the other -/

/-- The world of the source, in the world of all parts. -/
def sourceRegion (τ σ : Type) : Region (τ × (Nat → σ)) τ where
  get w := w.1
  set v w := (v, w.2)
  get_set _ _ := rfl
  set_set _ _ _ := rfl
  set_get _ := rfl

/-- The world of a sink, in the world of all parts. -/
def sinkRegion (τ σ : Type) (k : Nat) : Region (τ × (Nat → σ)) σ where
  get w := w.2 k
  set v w := (w.1, Function.update w.2 k v)
  get_set _ _ := Function.update_self ..
  set_set _ _ _ := by simp
  set_get _ := by simp

/-- A branch of the pipeline. -/
def branch (b : Sink σ ρ × Nat) : Branch (τ × (Nat → σ)) ρ where
  sink := b.1.within (sinkRegion τ σ b.2)

/-- The pipeline of the parts, which runs them one after the other. -/
def pipeline : Pipeline (τ × (Nat → σ)) ρ where
  name := name
  extraction := a.extraction.within (sourceRegion τ σ)
  branches := a.sinks.zipIdx.map branch

/-- What becomes of a loader that is alone with all rows of the extraction. -/
def outcomeAlone (b : Sink σ ρ × Nat) : String × Loading.Outcome :=
  (b.1.name, (Loading.run b.1 e ((a.alone e source).1.map Loading.direct) (sinks b.2)).1)

/-- A loader of the pipeline does with its own sink what it does when it is alone. -/
theorem run_branch (rows : List ρ) (sink : Sink σ ρ) (k : Nat) (w : τ × (Nat → σ)) :
    Loading.run (branch (sink, k)).sink e
        ((branch (τ := τ) (sink, k)).stage.transform (rows.map .ok)) w
      = ((Loading.run sink e (rows.map Loading.direct) (w.2 k)).1, w.1,
          Function.update w.2 k (Loading.run sink e (rows.map Loading.direct) (w.2 k)).2) := by
  have hrun : Loading.run (branch (τ := τ) (sink, k)).sink e
      ((branch (τ := τ) (sink, k)).stage.transform (rows.map .ok))
        = (sinkRegion τ σ k).lift (Loading.run sink e (rows.map Loading.direct)) := by
    rw [← Loading.run_within, ← Loading.direct_transform]
    rfl
  exact congrFun hrun w

omit [Timed ρ] in
/-- What happens to the sink of one loader is not noticed by those that come after it. -/
theorem map_zipIdx_update {β : Type} (f : Sink σ ρ → σ → β) (parts : List (Sink σ ρ)) (k : Nat)
    (worlds : Nat → σ) (v : σ) :
    (parts.zipIdx (k + 1)).map (fun b => f b.1 (Function.update worlds k v b.2))
      = (parts.zipIdx (k + 1)).map fun b => f b.1 (worlds b.2) := by
  refine List.map_congr_left fun b hb => ?_
  have hle := List.le_snd_of_mem_zipIdx hb
  rw [Function.update_of_ne (by omega)]

/-- Loaders that are run one after the other do what each does alone. -/
theorem loadAll_branches (rows : List ρ) (parts : List (Sink σ ρ)) (first : Nat)
    (w : τ × (Nat → σ)) :
    (Pipeline.loadAll e rows ((parts.zipIdx first).map branch) w).1
      = Pipeline.collect ((parts.zipIdx first).map fun b =>
          (b.1.name, (Loading.run b.1 e (rows.map Loading.direct) (w.2 b.2)).1)) := by
  induction parts generalizing first w with
  | nil => rfl
  | cons sink parts ih =>
    have hrun := run_branch e rows sink first w
    rcases hout : Loading.run sink e (rows.map Loading.direct) (w.2 first)
      with ⟨⟨result, events⟩, v⟩
    rw [hout] at hrun
    have hrest := ih (first + 1) (w.1, Function.update w.2 first v)
    rw [map_zipIdx_update fun sink world =>
      (sink.name, (Loading.run sink e (rows.map Loading.direct) world).1)] at hrest
    rw [List.zipIdx_cons, List.map_cons, List.map_cons, Pipeline.loadAll, Pipeline.collect, hout]
    simp only [bind, StateT.bind, hrun]
    rcases result with cause | result
    · rfl
    · exact congrArg (Except.map _) hrest

/-- **The parts one after the other**: the extraction is alone, and so is each loader. -/
theorem pipeline_result (hsinks : a.sinks ≠ []) :
    ((a.pipeline name).run e (source, sinks)).1.result
      = (a.pipeline name).answer e.window.since (a.alone e source).2
          (a.sinks.zipIdx.map (outcomeAlone a e source sinks)) := by
  obtain ⟨hresult, hsent, -⟩ :=
    Extraction.run_eq_readPages a.extraction (pure true) e.group e.window source
  have hextract : (a.pipeline name).extraction.run (pure true) e.group e.window
      = (sourceRegion τ σ).lift (a.extraction.run (pure true) e.group e.window) :=
    Extraction.run_within _ _ _ _
  rw [Pipeline.run_result (by simpa [pipeline] using hsinks) (congrFun hextract _)
    (loadAll_branches e _ a.sinks 0 _)]
  change (a.pipeline name).answer e.window.since
    (a.extraction.run (pure true) e.group e.window source).1.result
    (a.sinks.zipIdx.map fun b => (b.1.name, (Loading.run b.1 e
      ((a.extraction.run (pure true) e.group e.window source).1.sent.map Loading.direct)
      (sinks b.2)).1)) = _
  rw [hresult, hsent]
  rfl

/-! ## The parts in any order -/

variable (s : State τ σ ρ)

/-- What has become of the loaders that are at their end. -/
def outcomes : List (String × Loading.Outcome) :=
  a.sinks.zipIdx.filterMap fun b => (s.loaders b.2).outcome?.map (b.1.name, ·)

/-- What the pipeline says of what has become of its parts, once its extraction is at its end or
some part panicked. -/
def result? : Option (Except Panic PipelineResult) :=
  match panic? a s with
  | some cause => some (.error cause)
  | none => s.extraction.result?.map fun ending =>
    (a.pipeline name).answer e.window.since ending (outcomes a s)

/-- Unless some part panicked each loader is at its end and did what it does alone with all rows of
the extraction. The pipeline says what it says when its parts act one after the other, and a part
panics only if it has no result then. -/
structure Faithful : Prop where
  loaders : panic? a s = none → ∀ k sink, a.sinks[k]? = some sink →
    ∃ outcome, s.loaders k = .done outcome ∧
      Loading.run sink e ((a.alone e source).1.map Loading.direct) (sinks k) = (outcome, s.sinks k)
  panics : panic? a s ≠ none →
    ∃ cause, ((a.pipeline name).run e (source, sinks)).1.result = .error cause
  result : ∀ r, ((a.pipeline name).run e (source, sinks)).1.result = .ok r →
    ∃ r', result? a name e s = some (.ok r') ∧ r'.Agrees r

variable {a name e source sinks s}

omit [Timed ρ] in
theorem mem_outcomes {name : String} {outcome : Loading.Outcome} : (name, outcome) ∈ outcomes a s ↔
      ∃ k sink, a.sinks[k]? = some sink ∧ sink.name = name ∧ s.loaders k = .done outcome := by
  simp only [outcomes, List.mem_filterMap, Prod.exists, List.mem_zipIdx_iff_getElem?,
    Option.map_eq_some_iff, Loading.Phase.outcome?_eq_some_iff, Prod.mk.injEq]
  constructor
  · rintro ⟨sink, k, hsink, _, hdone, rfl, rfl⟩
    exact ⟨k, sink, hsink, rfl, hdone⟩
  · rintro ⟨k, sink, hsink, rfl, hdone⟩
    exact ⟨sink, k, hsink, _, hdone, rfl, rfl⟩

omit [Timed ρ] in
/-- As long as no part panicked the pipeline answers for its extraction and its loaders. -/
theorem result?_of_panic?_eq_none (hpanic : panic? a s = none) :
    result? a name e s = s.extraction.result?.map fun ending =>
      (a.pipeline name).answer e.window.since ending (outcomes a s) := by
  rw [result?, hpanic]

omit [Timed ρ] in
/-- No part of a pipeline with a result panicked. -/
theorem panic?_eq_none_of_result? {r : PipelineResult} (hr : result? a name e s = some (.ok r)) :
    panic? a s = none := by
  unfold result? at hr
  split at hr
  · cases hr
  · assumption

/-- **A part that panics** does so when it is alone, and leaves no result. -/
theorem Sound.answer_of_panic (h : Sound a e source sinks s) (name : String)
    (hpanic : panic? a s ≠ none) :
    ∃ cause, (a.pipeline name).answer e.window.since (a.alone e source).2
      (a.sinks.zipIdx.map (outcomeAlone a e source sinks)) = .error cause := by
  obtain ⟨p, hp⟩ := Option.ne_none_iff_exists'.mp hpanic
  rcases hanswer : (a.pipeline name).answer e.window.since (a.alone e source).2
    (a.sinks.zipIdx.map (outcomeAlone a e source sinks)) with cause | r
  · exact ⟨cause, rfl⟩
  obtain ⟨hsafe, loaded, hloaded, -, -⟩ := Pipeline.answer_eq_ok_iff.mp hanswer
  rcases panic?_eq_some hp with hended | ⟨k, hk, hbroken⟩
  · rcases h.outlook with ⟨q, hq⟩ | ⟨-, hresult⟩
    · cases hended.symm.trans hq
    · rw [hended] at hresult
      exact absurd hresult.symm (hsafe p)
  · have hsink := List.getElem?_eq_getElem hk
    have hremains := h.loaders k _ hsink
    have herror : ((s.loaders k).remains a.sinks[k] e
        ((a.alone e source).1.drop (s.traffic.received k).length) (s.sinks k)).1.result
          = .error p := Loading.Phase.remains_panic hbroken _ _
    rw [hremains] at herror
    have hmem : (a.sinks[k], k) ∈ a.sinks.zipIdx := List.mem_zipIdx_iff_getElem?.mpr hsink
    have hmem := List.mem_map_of_mem (f := outcomeAlone a e source sinks) hmem
    obtain ⟨cause, hnone⟩ := Pipeline.collect_of_error hmem herror
    cases hnone.symm.trans hloaded

/-- A loader at its end did what it does alone. -/
theorem Sound.loader_done (h : Sound a e source sinks s) (hend : AtEnd a s) {k : Nat}
    {sink : Sink σ ρ} (hk : a.sinks[k]? = some sink) : ∃ outcome, s.loaders k = .done outcome ∧
      Loading.run sink e ((a.alone e source).1.map Loading.direct) (sinks k)
        = (outcome, s.sinks k) := by
  obtain ⟨outcome, hdone⟩ := hend.2 k (List.getElem?_eq_some_iff.mp hk).1
  have hremains := h.loaders k sink hk
  rw [hdone] at hremains
  exact ⟨outcome, hdone, hremains.symm⟩

theorem Sound.outcomes_eq (h : Sound a e source sinks s) (hend : AtEnd a s) :
    outcomes a s = a.sinks.zipIdx.map (outcomeAlone a e source sinks) := by
  rw [outcomes, List.filterMap_eq_map_iff_forall_eq_some]
  intro b hb
  obtain ⟨outcome, hdone, hrun⟩ := h.loader_done hend (List.mem_zipIdx_iff_getElem?.mp hb)
  rw [hdone, outcomeAlone, hrun]
  rfl

/-- An extraction ends as it does when it is alone, unless it stops early. -/
theorem Sound.result?_cases (h : Sound a e source sinks s) (hend : s.extraction.result? ≠ none) :
    s.extraction.result? = some (a.alone e source).2 ∨
      ∃ p, s.extraction = .stopped p ∧
        s.extraction.result? = some (.ok { p with receiversClosed := true }) := by
  cases hphase : s.extraction with
  | fetching budget p => exact absurd (hphase ▸ rfl) hend
  | sending budget p fetched sent rest => exact absurd (hphase ▸ rfl) hend
  | ended result =>
    rcases h.outlook with ⟨p, hp⟩ | ⟨-, hresult⟩
    · rw [hphase] at hp
      cases hp
    · rw [hphase] at hresult
      exact .inl (congrArg some hresult)
  | stopped p => exact .inr ⟨p, rfl, rfl⟩

section Finished

variable (h : Sound a e source sinks s) (ho : Orderly e s) (hend : Finished a s)
  (hsinks : a.sinks ≠ []) {loaded : List (String × LoadResult × List LoadEvent)}

include h ho hend hsinks

/-- If the extraction stopped early the first loader failed, as did all others. -/
theorem exists_failed (hpanic : panic? a s = none) {p : Progress} (hp : s.extraction = .stopped p)
    (hloaded : Pipeline.collect (a.sinks.zipIdx.map (outcomeAlone a e source sinks)) = .ok loaded) :
    ∃ l ∈ loaded, l.2.1.status = .failed := by
  obtain ⟨sink, hsink⟩ : ∃ sink, a.sinks[0]? = some sink :=
    ⟨_, List.getElem?_eq_getElem (List.length_pos_iff.mpr hsinks)⟩
  obtain ⟨outcome, hdone, hrun⟩ := h.loader_done (hend hpanic) hsink
  have hmem : (sink.name, outcome) ∈ a.sinks.zipIdx.map (outcomeAlone a e source sinks) := by
    refine List.mem_map.mpr ⟨(sink, 0), List.mem_zipIdx_iff_getElem?.mpr hsink, ?_⟩
    rw [outcomeAlone, hrun]
  obtain ⟨result, hresult, hin⟩ := Pipeline.exists_mem_of_collect hloaded hmem
  exact ⟨_, hin, ho.failed_of_stopped hp hdone hresult⟩

/-- **What the pipeline says** is settled by what its parts do when each is alone. -/
theorem agrees_conclude {r : PipelineResult} (hr : result? a name e s = some (.ok r)) :
    ∃ loaded, Pipeline.collect (a.sinks.zipIdx.map (outcomeAlone a e source sinks)) = .ok loaded ∧
      r.Agrees ((a.pipeline name).conclude e.window.since
        (Pipeline.fault? (a.alone e source).2) loaded) := by
  have hpanic := panic?_eq_none_of_result? hr
  rw [result?_of_panic?_eq_none hpanic, h.outcomes_eq (hend hpanic)] at hr
  rcases h.result?_cases (hend hpanic).1 with hresult | ⟨p, hp, hresult⟩ <;> rw [hresult] at hr
  · obtain ⟨-, loaded, hloaded, -, rfl⟩ := Pipeline.answer_eq_ok_iff.mp (Option.some.inj hr)
    exact ⟨loaded, hloaded, .refl _⟩
  · obtain ⟨-, loaded, hloaded, -, rfl⟩ := Pipeline.answer_eq_ok_iff.mp (Option.some.inj hr)
    have hfailed := exists_failed h ho hend hsinks hpanic hp hloaded
    exact ⟨loaded, hloaded, Pipeline.conclude_agrees hfailed _ _⟩

/-- **At its end** an assembly has done what its parts do alone. -/
theorem faithful : Faithful a name e source sinks s where
  loaders hpanic k sink hk := h.loader_done (hend hpanic) hk
  panics hpanic := by
    rw [pipeline_result _ _ _ _ _ hsinks]
    exact h.answer_of_panic name hpanic
  result r hr := by
    rw [pipeline_result _ _ _ _ _ hsinks] at hr
    obtain ⟨hsafe, loaded, hloaded, hcount, rfl⟩ := Pipeline.answer_eq_ok_iff.mp hr
    have hpanic : panic? a s = none := by
      by_contra hpanic
      obtain ⟨cause, hnone⟩ := h.answer_of_panic name hpanic
      cases hnone.symm.trans hr
    have hsay : ∃ r', result? a name e s = some (.ok r') := by
      rw [result?_of_panic?_eq_none hpanic, h.outcomes_eq (hend hpanic)]
      rcases h.result?_cases (hend hpanic).1 with hresult | ⟨p, -, hresult⟩ <;> rw [hresult]
      · exact ⟨_, congrArg some hr⟩
      · exact ⟨_, congrArg some
          (Pipeline.answer_eq_ok_iff.mpr ⟨nofun, loaded, hloaded, hcount, rfl⟩)⟩
    obtain ⟨r', hr'⟩ := hsay
    obtain ⟨loaded', hloaded', hagrees⟩ := agrees_conclude h ho hend hsinks hr'
    obtain rfl := Except.ok.inj (hloaded.symm.trans hloaded')
    exact ⟨r', hr', hagrees⟩

end Finished

end Assembly

/-! ## Sinks that keep to themselves -/

/-- What a sink says to a batch if that is settled by the batches that it was handed before. -/
structure Recipient (ρ : Type) where
  /-- The name of the sink. -/
  name : String
  /-- Whether the sink wants a row. -/
  processable : ρ → Bool
  /-- What the sink says to a batch, after some others. -/
  reply : List (Commit ρ) → Commit ρ → Attempt CommitReply

/-- The sink. Its world is the list of the batches that it was handed. -/
def Recipient.sink {ρ : Type} (c : Recipient ρ) : Sink (List (Commit ρ)) ρ where
  name := c.name
  processable := c.processable
  commit batch := fun handed => (c.reply handed batch, handed ++ [batch])
  deleteAll _ := fun handed => (.ok (), handed)

namespace Assembly

/-- **The schedule does not matter, nor the size of the buffer.** A pipeline with at least one
loader reads a source that keeps its promise. Whatever its parts do and in which order: when
everything is done, each loader has the result that it has alone with all rows of an extraction that
nothing stops, its sink was handed the same batches, and the pipeline says what it says when its
parts act one after the other. If a part panicked first there is no result, and none when the parts
act one after the other. Any two results agree, and every fair schedule comes to the end. -/
theorem schedule_independent {τ ρ : Type} [Timed ρ] (x : Extraction τ ρ)
    (hx : Extraction.Promises x.source) (recipients : List (Recipient ρ)) (hsome : recipients ≠ [])
    (name : String) (e : Execution) (source : τ) :
    let a : Assembly τ (List (Commit ρ)) ρ := ⟨x, recipients.map Recipient.sink⟩
    let first (bufferSize : Nat) := start a e bufferSize source fun _ => []
    (∀ bufferSize schedule, Fair a e (first bufferSize) schedule →
        ∃ i, Finished a (after a e (first bufferSize) schedule i)) ∧
      (∀ bufferSize moves, Finished a (run a e (first bufferSize) moves) →
        Faithful a name e source (fun _ => []) (run a e (first bufferSize) moves)) ∧
      ∀ bufferSize moves bufferSize' moves' r r',
        Finished a (run a e (first bufferSize) moves) →
        Finished a (run a e (first bufferSize') moves') →
        result? a name e (run a e (first bufferSize) moves) = some (.ok r) →
        result? a name e (run a e (first bufferSize') moves') = some (.ok r') → r.Agrees r' := by
  intro a first
  have hsinks : a.sinks ≠ [] := by simpa [a] using hsome
  have hstart : ∀ bufferSize, Sound a e source (fun _ => []) (first bufferSize) :=
    fun bufferSize => start_sound bufferSize source _
  have hsound := fun bufferSize moves => (hstart bufferSize).run moves
  have horderly := fun bufferSize moves =>
    (start_orderly (a := a) (e := e) bufferSize source fun _ => []).run (hstart bufferSize) hx moves
  refine ⟨fun bufferSize schedule hfair => ?_, fun bufferSize moves hend => ?_, ?_⟩
  · refine hfair.finishes (hstart bufferSize) ?_ ?_
    · exact lt_max_of_lt_right Nat.zero_lt_one
    · exact lt_max_of_lt_right Nat.zero_lt_one
  · exact faithful (hsound bufferSize moves) (horderly bufferSize moves) hend hsinks
  · intro bufferSize moves bufferSize' moves' r r' hend hend' hr hr'
    obtain ⟨loaded, hloaded, hagrees⟩ :=
      agrees_conclude (hsound bufferSize moves) (horderly bufferSize moves) hend hsinks hr
    obtain ⟨loaded', hloaded', hagrees'⟩ :=
      agrees_conclude (hsound bufferSize' moves') (horderly bufferSize' moves') hend' hsinks hr'
    obtain rfl := Except.ok.inj (hloaded.symm.trans hloaded')
    exact hagrees.trans hagrees'.symm

/-- One sink takes every batch, and the other rejects its first one. -/
def quarrel : List (Recipient Row) :=
  [⟨"archive", fun _ => true, fun _ c => .ok (.committed c.rows.length 0)⟩,
    ⟨"index", fun _ => true, fun _ _ => .ok (.rejected none)⟩]

/-- A loader that fails beside one that goes on, in two orders. -/
theorem schedule_independent_quarrel :
    let table : List Row := [⟨.atSecond 1, ∅⟩, ⟨.atSecond 2, ∅⟩, ⟨.atSecond 3, ∅⟩]
    let a : Assembly (List Fetch) (List (Commit Row)) Row :=
      ⟨⟨.ofTable "events" table fun _ => none, 2⟩, quarrel.map Recipient.sink⟩
    let e : Execution := ⟨"g", ⟨.epoch, .atSecond 3⟩, 1⟩
    ∃ i outcome, (after a e (start a e 1 [] fun _ => []) (turns 2) i).loaders 0 = .done outcome ∧
      outcome.result = .ok ⟨.success, 3, .atSecond 3, 0, none⟩ := by
  intro table a e
  have asc : Ascending table := by decide
  have hx : Extraction.Promises (.ofTable "events" table fun _ => none) :=
    Extraction.promises_ofTable _ asc _
  obtain ⟨hfinish, hfaithful, -⟩ :=
    schedule_independent a.extraction hx quarrel (by simp [quarrel]) "p" e []
  obtain ⟨i, hend⟩ := hfinish 1 _ (start_sound 1 [] _).fair_turns
  have hpanic := not_not.mp fun hne => by
    obtain ⟨cause, herror⟩ := (hfaithful 1 _ hend).panics hne
    have hok : ((a.pipeline "p").run e ([], fun _ => [])).1.result.toOption.isSome := by
      decide +kernel
    have hnone := hok.symm.trans (congrArg (fun out => out.toOption.isSome) herror)
    cases hnone
  obtain ⟨outcome, hdone, hrun⟩ := (hfaithful 1 _ hend).loaders hpanic 0 _ rfl
  refine ⟨i, outcome, hdone, ?_⟩
  have hresult := congrArg (fun out => out.1.result) hrun
  rw [← hresult]
  rfl

end Assembly

end Ingest
