import Ingest.Proofs.CheckpointSafety
import Ingest.Proofs.Concurrent.Sharing

/-!
# Proofs/OverlappingRuns — many runs of one pipeline at once

Nothing keeps a run from starting while another one is at work, and by the time a run writes a
checkpoint the one that it read may be stale. In a `Crew` every call of every run, and every move of
the parts of its pipeline, is a step of its own; the steps come in any order, and a run may never
take its next one. Whatever a run is about to write says how far the pipeline is done
(`Phase.Stands`), and no other run makes that wrong, so it may be written at any time, even where it
moves the stored checkpoint back. Main statement: `Crew.run_covers`.
-/

namespace Ingest

/-- Rows that are covered one by one are there, as often as they stand in the table. -/
theorem Feed.Covers.subperm {ρ : Type} {processable : ρ → Bool} {rows loaded : List ρ}
    (h : Feed.direct.Covers processable rows loaded) :
    (rows.filter processable).Subperm loaded := by
  obtain ⟨groups, hmakes, hmembers, hwanted⟩ := h
  have hflat : groups.flatMap (·.1) = groups.map (·.2) := by
    rw [List.map_eq_flatMap]
    exact List.flatMap_congr hmakes
  rw [hflat] at hmembers
  exact (hmembers.filter processable).trans hwanted

/-! ## The steps of a run -/

namespace Orchestrator

/-- What a run of a pipeline does next. -/
inductive Phase (ρ : Type) where
  /-- It reads the clock. -/
  | idle
  /-- It reads its checkpoint. -/
  | reading (now : Instant)
  /-- It marks its checkpoint. -/
  | marking (now : Instant) (previous : Checkpoint)
  /-- Its pipeline is at work. -/
  | working (now : Instant) (previous : Checkpoint) (parts : Assembly.State Unit Unit ρ)
  /-- It records a report. -/
  | recording (now : Instant) (previous : Checkpoint) (report : RunReport)
  /-- Nothing is left to do. -/
  | done (report : Except Panic RunReport)

variable {ω ρ : Type} [Timed ρ] (o : Orchestrator ω) (p : Pipeline ω ρ)

/-- The execution that is part of a run. -/
def execution (now : Instant) (previous : Checkpoint) : Execution :=
  ⟨o.group, ⟨previous.upTo, now⟩, max o.batchSize 1⟩

/-- The run goes on, with its pipeline at its end if it is at work. -/
def proceed (bufferSize : Nat) : Phase ρ → StateM ω (Phase ρ)
  | .idle => return .reading (← o.clock)
  | .reading now => do
    match ← o.readCheckpoint p.name with
    | .error e => return .done (.ok (o.skipped p.name e))
    | .ok previous => return .marking now previous
  | .marking now previous => do
    match ← o.store.put (previous.loading now) with
    | .error e => return .done (.ok (o.skipped p.name e))
    | .ok () =>
      if p.branches.isEmpty then
        let result := p.conclude previous.upTo none []
        return .recording now previous (o.reportOf p.name previous.upTo (.ok result))
      return .working now previous (← p.assembly.begin (o.execution now previous) bufferSize)
  | .working now previous parts => do
    match ← p.assembly.answer? (o.execution now previous) p.name parts with
    | some outcome => return .recording now previous (o.reportOf p.name previous.upTo outcome)
    | none => return .working now previous parts
  | .recording now previous report => return .done (← o.record previous now report)
  | .done report => return .done report

/-- Some part of the pipeline makes a move, if it is at work. -/
def move (m : Assembly.Move) : Phase ρ → StateM ω (Phase ρ)
  | .working now previous parts =>
    return .working now previous (← p.assembly.act (o.execution now previous) m parts)
  | phase => return phase

/-- The pipeline ends with a fault, if it is at work. -/
def breakOff (fault : Fault) : Phase ρ → Phase ρ
  | .working now previous _ =>
    .recording now previous (o.reportOf p.name previous.upTo (.error fault))
  | phase => phase

/-! ### A run by itself -/

/-- The pipeline does all its work at once. -/
def executeAtOnce : Phase ρ → StateM ω (Phase ρ)
  | .working now previous _ => do
    let outcome ← p.toJob.execute (o.execution now previous)
    return .recording now previous (o.reportOf p.name previous.upTo outcome)
  | phase => return phase

/-- The report of a run that is over, unless it panicked. -/
def Phase.report? : Phase ρ → Option (Except Panic RunReport)
  | .done report => some report
  | _ => none

/-- **The steps of a run**, one after the other, are the run of the job. -/
theorem runJob_eq (bufferSize : Nat) : some <$> o.runJob p.toJob = do
    let read ← o.proceed p bufferSize .idle
    let marked ← o.proceed p bufferSize read
    let begun ← o.proceed p bufferSize marked
    let worked ← o.executeAtOnce p begun
    let recorded ← o.proceed p bufferSize worked
    return recorded.report? := by
  have hname : p.toJob.name = p.name := rfl
  simp only [runJob, begin, proceed, hname, map_eq_pure_bind, bind_assoc, pure_bind]
  refine bind_congr fun now => bind_congr fun read => ?_
  rcases read with e | previous
  · simp only [pure_bind, executeAtOnce]
    rfl
  simp only [bind_assoc, pure_bind]
  refine bind_congr fun marked => ?_
  rcases marked with e | ⟨⟩
  · simp only [pure_bind, executeAtOnce]
    rfl
  by_cases hempty : p.branches = []
  · have hexecute : p.toJob.execute (o.execution now previous)
        = pure (.ok (p.conclude previous.upTo none [])) :=
      funext fun w => execute_of_isEmpty hempty
    rw [execution] at hexecute
    simp only [hempty, List.isEmpty_nil, if_true, Except.map, hexecute, pure_bind, bind_assoc,
      executeAtOnce]
    rfl
  · simp only [List.isEmpty_eq_false_iff.mpr hempty, Bool.false_eq_true, if_false, Except.map,
      pure_bind, bind_assoc, executeAtOnce]
    rfl

end Orchestrator

/-! ## Many runs -/

section Scenes

variable {ι σ ρ : Type} [DecidableEq ι] [DecidableEq σ] [Timed ρ]

/-- Orchestrators that run one pipeline over the same store, source and sinks. Sizes are up to each
run. -/
structure Crew (ι σ ρ : Type) : Type 1 where
  /-- The group the pipeline is run for. -/
  group : String
  /-- The pipeline, but for the size of a page. -/
  line : Line ι σ ρ
  /-- Without a checkpoint a run starts after this instant. -/
  initial : Instant := .epoch
  /-- The wanted size of a page. -/
  pageSize : Nat → Nat
  /-- The number of rows that completes a batch. -/
  batchSize : Nat → Nat
  /-- The number of rows that the channel holds. -/
  bufferSize : Nat → Nat

namespace Crew

/-- What happens in a run. -/
inductive Act where
  /-- The run goes on. -/
  | proceed
  /-- Some part of its pipeline makes a move. -/
  | move (m : Assembly.Move)
  /-- Its pipeline does all its work at once. -/
  | execute
  /-- Its pipeline fails or panics. -/
  | breakOff (fault : Fault)
  /-- Time passes. -/
  | wait

/-- A step of a run. -/
structure Event (ι σ ρ : Type) where
  /-- The run. -/
  run : Nat
  /-- The step. -/
  act : Act := .proceed
  /-- What happens before each call of the step, and how it is answered. -/
  script : Nat → Turn ι σ ρ := fun _ => {}

/-- What is there, and what each run does next. -/
structure State (ι σ ρ : Type) where
  /-- What is there. -/
  ledger : Ledger ι σ ρ
  /-- What each run does next. -/
  runs : Nat → Orchestrator.Phase ρ := fun _ => .idle

variable (crew : Crew ι σ ρ)

/-- The pipeline of a run. -/
def lineOf (i : Nat) : Line ι σ ρ := { crew.line with pageSize := crew.pageSize i }

/-- What the orchestrator of a run is made for. -/
def plan (i : Nat) : Plan ι σ ρ where
  group := crew.group
  lines := [crew.lineOf i]
  batchSize := crew.batchSize i
  initial := crew.initial

/-- A step of a run. -/
def perform (i : Nat) (phase : Orchestrator.Phase ρ) :
    Act → StateM (Scene ι σ ρ) (Orchestrator.Phase ρ) :=
  let o := (crew.plan i).orchestrator
  let p := (crew.lineOf i).pipeline
  fun
  | .proceed => o.proceed p (crew.bufferSize i) phase
  | .move m => o.move p m phase
  | .execute => o.executeAtOnce p phase
  | .breakOff fault => return o.breakOff p fault phase
  | .wait => Scene.call fun _ l => (phase, l)

/-- What an event leads to. -/
def step (s : State ι σ ρ) (ev : Event ι σ ρ) : State ι σ ρ :=
  let scene : Scene ι σ ρ := { ledger := s.ledger, script := ev.script }
  let out := crew.perform ev.run (s.runs ev.run) ev.act scene
  { ledger := out.2.ledger, runs := Function.update s.runs ev.run out.1 }

/-- What some events lead to, one after the other. -/
def run (events : List (Event ι σ ρ)) (s : State ι σ ρ) : State ι σ ρ :=
  events.foldl crew.step s

end Crew

/-! ## What a run stands on -/

variable {l l' l₀ : Ledger ι σ ρ} {c : Checkpoint} {now : Instant}

/-- A call that widens the ledger by itself does so together with what happens before it. -/
theorem Along.widens_call {α : Type} {act : Turn ι σ ρ → Ledger ι σ ρ → α × Ledger ι σ ρ}
    (h : ∀ turn l, Ledger.Widens l (act turn l).2) :
    Along l₀.Widens l₀.Widens (Scene.call act) fun _ l => l₀.Widens l := by
  refine Along.call fun turn l hl => ?_
  have hwait : l.Widens (l.wait turn) := .of_grows (.wait l turn)
  have hcall := (hl.trans hwait).trans (h turn (l.wait turn))
  exact ⟨hcall, hcall⟩

theorem Along.widens_access {α : Type} (act : CheckpointTable → α × CheckpointTable) :
    Along l₀.Widens l₀.Widens (Scene.access (ι := ι) (σ := σ) (ρ := ρ) act)
      fun _ l => l₀.Widens l := by
  refine Along.widens_call fun turn l => ?_
  rcases turn.refusal with _ | e
  · exact .store l _
  · exact .refl l

namespace Plan

variable {plan : Plan ι σ ρ} {line : Line ι σ ρ}

omit [DecidableEq ι] [DecidableEq σ] in
/-- A checkpoint stays true when the ledger widens. -/
theorem Attests.widen (h : plan.Attests line l c) (hw : l.Widens l') : plan.Attests line l' c := by
  have hdone : line.Done plan.initial { l' with stored := l.stored } c.upTo := h.done.mono hw
  exact ⟨h.group, h.pipeline, hdone.withStored l'.stored⟩

omit [DecidableEq ι] [DecidableEq σ] in
/-- **What others do** to a ledger does not make a run wrong, if it leaves the ledger sound. -/
theorem Running.widen (h : plan.Running line now c l) (hw : l.Widens l') (hsound : plan.Sound l') :
    plan.Running line now c l' :=
  ⟨hsound, hw.started h.started, h.attests.widen hw⟩

end Plan

namespace Orchestrator

/-- A run is under way from a checkpoint that is right. -/
theorem underway_of_running {plan : Plan ι σ ρ} {line : Line ι σ ρ}
    (h : plan.Running line now c l) :
    (plan.orchestrator.execution now c).Underway line.source plan.initial l where
  ascending := h.sound.ascending _
  started := h.started
  initial_le := h.attests.done.initial_le
  closed := h.attests.done.closed

/-- What a run stands on: the checkpoint that it read is right, its pipeline is at work for that,
and the checkpoint that it is about to write is right. -/
def Phase.Stands (plan : Plan ι σ ρ) (line : Line ι σ ρ) (l : Ledger ι σ ρ) : Phase ρ → Prop
  | .idle => plan.Sound l
  | .reading now => plan.Sound l ∧ now ∈ l.started
  | .marking now previous => plan.Running line now previous l
  | .working now previous parts => plan.Running line now previous l ∧
      line.AtWork plan.initial (plan.orchestrator.execution now previous) l parts.traffic
        parts.extraction parts.loaders
  | .recording now previous report => plan.Running line now previous l ∧
      plan.Attests line l (checkpointOf previous now report)
  | .done _ => plan.Sound l

variable {plan : Plan ι σ ρ} {line : Line ι σ ρ} {phase : Phase ρ}

theorem Phase.Stands.sound (h : phase.Stands plan line l) : plan.Sound l := by
  cases phase with
  | idle => exact h
  | reading now => exact h.1
  | marking now previous => exact Plan.Running.sound h
  | working now previous parts => exact h.1.sound
  | recording now previous report => exact h.1.sound
  | done report => exact h

/-- **What others do** takes nothing away that a run stands on. -/
theorem Phase.Stands.widen (h : phase.Stands plan line l) (hw : l.Widens l')
    (hsound : plan.Sound l') : phase.Stands plan line l' := by
  cases phase with
  | idle => exact hsound
  | reading now => exact ⟨hsound, hw.started h.2⟩
  | marking now previous => exact Plan.Running.widen h hw hsound
  | working now previous parts =>
    exact ⟨h.1.widen hw hsound, h.2.mono (underway_of_running h.1) hw⟩
  | recording now previous report => exact ⟨h.1.widen hw hsound, h.2.widen hw⟩
  | done report => exact hsound

/-! ## Steps -/

theorem put_widens (plan : Plan ι σ ρ) (d : Checkpoint) :
    Along l₀.Widens l₀.Widens (plan.orchestrator.store.put d) fun _ l => l₀.Widens l :=
  Along.widens_access fun stored => ((), stored.put d)

theorem readCheckpoint_widens (plan : Plan ι σ ρ) (name : String) :
    Along l₀.Widens l₀.Widens (plan.orchestrator.readCheckpoint name) fun _ l => l₀.Widens l :=
  Along.bind (Along.widens_access fun stored => (stored.get? plan.group name, stored))
    fun _ => Along.pure fun _ => id

theorem record_widens (plan : Plan ι σ ρ) (now : Instant) (previous : Checkpoint)
    (report : RunReport) : Along l₀.Widens l₀.Widens
      (plan.orchestrator.record previous now report) fun _ l => l₀.Widens l := by
  unfold record
  split_ifs
  swap
  · exact Along.pure fun l hl => hl
  refine Along.bind (put_widens plan _) fun r => ?_
  rcases r with e | ⟨⟩ <;> exact Along.pure fun l hl => hl

/-- **A run that goes on** takes nothing away from the ledger. -/
theorem proceed_widens (plan : Plan ι σ ρ) (p : Pipeline (Scene ι σ ρ) ρ) (bufferSize : Nat)
    (phase : Phase ρ) : Along l₀.Widens l₀.Widens
      (plan.orchestrator.proceed p bufferSize phase) fun _ l => l₀.Widens l := by
  cases phase with
  | idle =>
    refine Along.bind (Along.widens_call fun turn l => ?_) fun now => Along.pure fun l hl => hl
    exact .of_grows (.start l turn.now)
  | reading now =>
    refine Along.bind (readCheckpoint_widens plan p.name) fun r => ?_
    cases r <;> exact Along.pure fun l hl => hl
  | marking now previous =>
    refine Along.bind (put_widens plan _) fun r => ?_
    rcases r with e | ⟨⟩
    · exact Along.pure fun l hl => hl
    dsimp only
    split_ifs
    · exact Along.pure fun l hl => hl
    · exact fun s hpast hs => ⟨hpast, hs⟩
  | working now previous parts =>
    refine Along.bind (Q := fun _ l => l₀.Widens l) (fun s hpast hs => ⟨hpast, hs⟩) fun r => ?_
    cases r <;> exact Along.pure fun l hl => hl
  | recording now previous report =>
    exact Along.bind (record_widens plan now previous report) fun out => Along.pure fun l hl => hl
  | done report => exact Along.pure fun l hl => hl

variable (hnames : (plan.lines.map (·.name)).Nodup) (hline : line ∈ plan.lines)

include hnames hline

/-- **A run that goes on** stands on what it did, and leaves the ledger sound. -/
theorem proceed_along (bufferSize : Nat) (phase : Phase ρ) :
    Along plan.Sound (fun l => phase.Stands plan line l)
      (plan.orchestrator.proceed line.pipeline bufferSize phase)
      fun next l => next.Stands plan line l := by
  have hname : line.pipeline.name = line.name := rfl
  cases phase with
  | idle => exact Along.bind (Plan.clock_along plan) fun now => Along.pure fun l hl => hl
  | reading now =>
    refine Along.bind (Plan.readCheckpoint_along hline now) fun r => ?_
    rcases r with e | previous
    · exact Along.pure fun l hl => hl.1
    · exact Along.pure fun l hl => ⟨hl.1, hl.2.1, hl.2.2 previous rfl⟩
  | marking now previous =>
    have hput := Plan.put_along hnames hline now previous (previous.loading now)
    refine Along.bind (hput.mono (fun l hl => ?_) fun _ _ hl => hl) fun r => ?_
    · have hrunning : plan.Running line now previous l := hl
      have hold := hrunning.attests
      exact ⟨hrunning, hold.group, hold.pipeline, hold.done⟩
    rcases r with e | ⟨⟩
    · exact Along.pure fun l hl => hl.sound
    dsimp only
    split_ifs with hempty
    · refine Along.pure fun l hl => ⟨hl, hl.attests_report _ ?_⟩
      rintro r ⟨⟩
      have houtlets : line.outlets = [] := by simpa [Line.pipeline] using hempty
      exact hl.attests.done.conclude line.pipeline none (by simp) (by simp [houtlets])
    · exact fun s hpast hs => ⟨hpast, hs, .start hs.attests.done _ _ _⟩
  | working now previous parts =>
    refine Along.bind (Q := fun out l => (Phase.working now previous parts).Stands plan line l ∧
      ∀ r : PipelineResult, out = some (.ok r) →
        line.Done plan.initial l (max r.upTo previous.upTo)) (fun s hpast hs => ?_) fun out => ?_
    · refine ⟨hpast, hs, fun r hr => ?_⟩
      have hdone := hs.2.done hs.1.attests.done hr
      exact hdone
    rcases out with _ | out
    · exact Along.pure fun l hl => hl.1
    · exact Along.pure fun l hl =>
        ⟨hl.1.1, hl.1.1.attests_report _ fun r hr => hl.2 r (congrArg some hr)⟩
  | recording now previous report =>
    exact Along.bind (Plan.record_along hnames hline now previous report) fun out =>
      Along.pure fun l hl => hl
  | done report => exact Along.pure fun l hl => hl

omit hnames hline

variable {s : Scene ι σ ρ}

/-- **A move of a part** of the pipeline. -/
theorem Phase.Stands.move (h : phase.Stands plan line s.ledger)
    (hplain : ∀ o ∈ line.outlets, o.feed = .direct) (m : Assembly.Move) :
    let out := plan.orchestrator.move line.pipeline m phase s
    s.ledger.Widens out.2.ledger ∧ out.1.Stands plan line out.2.ledger := by
  cases phase with
  | working now previous parts =>
    obtain ⟨hrunning, hwork⟩ := h
    obtain ⟨hgrows, hnext⟩ := hwork.act (underway_of_running hrunning) hplain m
    exact ⟨.of_grows hgrows, hrunning.mono hgrows, hnext⟩
  | _ => exact ⟨.refl _, h⟩

/-- **The whole pipeline** at once. -/
theorem Phase.Stands.executeAtOnce (h : phase.Stands plan line s.ledger)
    (hplain : ∀ o ∈ line.outlets, o.feed = .direct) :
    let out := plan.orchestrator.executeAtOnce line.pipeline phase s
    s.ledger.Widens out.2.ledger ∧ out.1.Stands plan line out.2.ledger := by
  cases phase with
  | working now previous parts =>
    obtain ⟨hrunning, -⟩ := h
    have hlater : ∀ o ∈ line.outlets, o.feed.KeepsLater := fun o ho => by
      rw [hplain o ho]
      trivial
    obtain ⟨hduring, hdone⟩ := Line.execute_done (I := fun _ => True)
      (e := plan.orchestrator.execution now previous) (fun _ _ => trivial) (fun _ _ => trivial)
      (hrunning.sound.ascending line.source) hrunning.started hlater hrunning.attests.done rfl
    have hnext := hrunning.mono hduring.2
    exact ⟨.of_grows hduring.2, hnext, hnext.attests_report _ hdone⟩
  | _ => exact ⟨.refl _, h⟩

/-- A pipeline that is broken off is done up to where it began. -/
theorem Phase.Stands.breakOff (h : phase.Stands plan line l) (fault : Fault) :
    (plan.orchestrator.breakOff line.pipeline fault phase).Stands plan line l := by
  cases phase with
  | working now previous parts => exact ⟨h.1, h.1.attests_report _ fun r hr => by cases hr⟩
  | _ => exact h

end Orchestrator

/-! ## All runs -/

namespace Crew

variable {crew : Crew ι σ ρ} {i : Nat} {s : State ι σ ρ}

/-- **One step of a run.** -/
theorem perform_stands (hplain : ∀ o ∈ crew.line.outlets, o.feed = .direct)
    {scene : Scene ι σ ρ} (hpast : scene.past = []) {phase : Orchestrator.Phase ρ}
    (h : phase.Stands (crew.plan i) (crew.lineOf i) scene.ledger) (act : Act) :
    let out := crew.perform i phase act scene
    scene.ledger.Widens out.2.ledger ∧
      out.1.Stands (crew.plan i) (crew.lineOf i) out.2.ledger := by
  cases act with
  | proceed =>
    have hnames : ((crew.plan i).lines.map (·.name)).Nodup := List.nodup_singleton _
    have hwidens := Orchestrator.proceed_widens (crew.plan i) (crew.lineOf i).pipeline
      (crew.bufferSize i) phase scene (by simp [hpast]) (Ledger.Widens.refl scene.ledger)
    have hstands := Orchestrator.proceed_along hnames (List.mem_singleton_self (crew.lineOf i))
      (crew.bufferSize i) phase scene (by simp [hpast]) h
    exact ⟨hwidens.2, hstands.2⟩
  | move m => exact h.move hplain m
  | execute => exact h.executeAtOnce hplain
  | breakOff fault => exact ⟨.refl _, h.breakOff fault⟩
  | wait =>
    have hgrows : scene.ledger.Grows scene.found := .wait _ _
    exact ⟨.of_grows hgrows, h.widen (.of_grows hgrows) (h.sound.mono hgrows)⟩

/-- What each run stands on. -/
def Safe (crew : Crew ι σ ρ) (s : State ι σ ρ) : Prop :=
  ∀ i, (s.runs i).Stands (crew.plan i) (crew.lineOf i) s.ledger

omit [DecidableEq ι] [DecidableEq σ] in
/-- Runs differ in sizes only, so what is sound for one is for all. -/
theorem sound_of_sound {l : Ledger ι σ ρ} (h : (crew.plan i).Sound l) (j : Nat) :
    (crew.plan j).Sound l where
  ascending := h.ascending
  stored line hline c hc := by
    obtain rfl := List.mem_singleton.mp hline
    obtain ⟨hgroup, hpipeline, hdone⟩ := h.stored (crew.lineOf i) (List.mem_singleton_self _) c hc
    exact ⟨hgroup, hpipeline, hdone.initial_le, hdone.closed, hdone.loaded⟩

/-- **Every step keeps what each run stands on.** -/
theorem Safe.step (h : crew.Safe s) (hplain : ∀ o ∈ crew.line.outlets, o.feed = .direct)
    (ev : Event ι σ ρ) : crew.Safe (crew.step s ev) := by
  let scene : Scene ι σ ρ := { ledger := s.ledger, script := ev.script }
  have hpast : scene.past = [] := rfl
  obtain ⟨hwidens, hstands⟩ := perform_stands hplain hpast (h ev.run) ev.act
  intro j
  by_cases hj : j = ev.run
  · subst hj
    simpa [Crew.step] using hstands
  · have hother := (h j).widen hwidens (sound_of_sound hstands.sound j)
    simpa [Crew.step, Function.update_of_ne hj] using hother

/-- **Whatever happens** in overlapping runs, they stay safe. -/
theorem Safe.run (h : crew.Safe s) (hplain : ∀ o ∈ crew.line.outlets, o.feed = .direct)
    (events : List (Event ι σ ρ)) : crew.Safe (crew.run events s) :=
  List.foldlRecOn events _ h fun _ hs ev _ => hs.step hplain ev

/-- **Overlapping runs are safe.** Whatever any number of runs did, in any order and with any
failure, and wherever each of them stopped: every row that a sink wants and that the stored
checkpoint passes was committed to that sink. -/
theorem run_covers (crew : Crew ι σ ρ) (hplain : ∀ o ∈ crew.line.outlets, o.feed = .direct)
    {tables : ι → List ρ} (asc : ∀ i, Ascending (tables i)) (logs : σ → List (List ρ))
    (events : List (Event ι σ ρ)) {s : State ι σ ρ}
    (hrun : crew.run events { ledger := ⟨tables, logs, {}, []⟩ } = s) {c : Checkpoint}
    (hc : s.ledger.stored.get? crew.group crew.line.name = some c) {o : Outlet σ ρ}
    (ho : o ∈ crew.line.outlets) :
    ((Window.rows ⟨crew.initial, c.upTo⟩ (s.ledger.tables crew.line.source)).filter
      o.processable).Subperm (s.ledger.logs o.sink).flatten := by
  have hstart : crew.Safe { ledger := ⟨tables, logs, {}, []⟩ } := fun i =>
    ⟨asc, fun line _ c hc => by cases hc⟩
  have hsound := (hstart.run hplain events 0).sound
  rw [hrun] at hsound
  have hattests := hsound.stored (crew.lineOf 0) (List.mem_singleton_self _) c hc
  have hloaded := hattests.done.loaded o ho
  rw [Outlet.Loaded, hplain o ho] at hloaded
  exact hloaded.subperm

end Crew

end Scenes

namespace Crew

/-- Three runs of a pipeline with a sink of all rows and one of late rows. -/
def trio : Crew Unit Bool Row where
  group := "g"
  line := {
    name := "p"
    source := ()
    pageSize := 10
    outlets := [{ name := "all", sink := true },
      { name := "late", sink := false, processable := fun r => .atSecond 1 < time r }] }
  pageSize i := 10 + i
  batchSize i := i
  bufferSize i := i

/-- Each part of a pipeline of two sinks makes its moves, five times over. -/
def fiveRounds (run : Nat) : List (Event Unit Bool Row) :=
  let moves : List Assembly.Move :=
    .extract :: [0, 1].flatMap fun k =>
      [.look k, .claim k, .receive, .append, .announce, .look 0, .look 1, .work k, .leave k]
  (List.replicate 5 moves).flatten.map fun m => { run := run, act := .move m }

/-- Run 0 is over before a row arrives. Run 1 reads its checkpoint, and run 2 goes all the way. -/
def overtaking : List (Event Unit Bool Row) :=
  let early : Turn Unit Bool Row := { now := .atSecond 1 }
  let late : Turn Unit Bool Row := { arrivals := [⟨(), ⟨.atSecond 2, ∅⟩, 1⟩], now := .atSecond 3 }
  [{ run := 0, script := fun _ => early }, { run := 0 }, { run := 0 }] ++ fiveRounds 0 ++
    [{ run := 0 }, { run := 0 }, { run := 1, script := fun _ => early },
      { run := 2, script := fun _ => late }, { run := 1 }, { run := 2 }, { run := 2 }] ++
    fiveRounds 2 ++ [{ run := 2 }, { run := 2 }]

/-- After run 2 the checkpoint is at second 2. When run 1 marks its own it is back at second 1. -/
theorem run_covers_trio :
    let first : State Unit Bool Row :=
      { ledger := ⟨fun _ => [⟨.atSecond 1, ∅⟩], fun _ => [], {}, []⟩ }
    let passed (events : List (Event Unit Bool Row)) (upTo : Instant) :=
      let s := trio.run events first
      ∃ c, s.ledger.stored.get? trio.group trio.line.name = some c ∧ c.upTo = upTo ∧
        ∀ o ∈ trio.line.outlets,
          ((Window.rows ⟨trio.initial, c.upTo⟩ (s.ledger.tables trio.line.source)).filter
            o.processable).Subperm (s.ledger.logs o.sink).flatten
    passed overtaking (.atSecond 2) ∧ passed (overtaking ++ [{ run := 1 }]) (.atSecond 1) := by
  intro first passed
  have hplain : ∀ o ∈ trio.line.outlets, o.feed = .direct := by
    intro o ho
    simp only [trio, List.mem_cons, List.not_mem_nil, or_false] at ho
    obtain rfl | rfl := ho <;> rfl
  have asc : ∀ i : Unit, Ascending ([⟨.atSecond 1, ∅⟩] : List Row) := fun _ => by decide +kernel
  have hpassed : ∀ events upTo, ((trio.run events first).ledger.stored.get? trio.group
      trio.line.name).map (·.upTo) = some upTo → passed events upTo := by
    intro events upTo hstored
    obtain ⟨c, hc, hupTo⟩ := Option.map_eq_some_iff.mp hstored
    exact ⟨c, hc, hupTo, fun o ho => run_covers trio hplain asc (fun _ => []) events rfl hc ho⟩
  exact ⟨hpassed _ _ (by decide +kernel), hpassed _ _ (by decide +kernel)⟩

end Crew

end Ingest
