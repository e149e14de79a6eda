import Ingest.Orchestrator
import Ingest.Proofs.Aggregation.Streaming
import Ingest.Proofs.World.Scene

/-!
# Proofs/World/Plan — an orchestrator in a scene

A `Plan` says which pipelines an orchestrator has, and `Plan.Reachable` which ledgers its commands
can lead to, whatever the script does and wherever a command is abandoned. A checkpoint is *sound*
if every table row that it passes was loaded into every sink, by itself or in a group
(`Feed.Covers`, which counts a row as often as it stands in the table).
-/

namespace Ingest

/-! ## Plans -/

/-- What stands between the extraction and a sink. -/
inductive Feed (ρ : Type) : Type 1 where
  | direct
  | streaming {κ : Type} [DecidableEq κ] (a : StreamingAggregation κ ρ)

namespace Feed

variable {ρ : Type}

/-- The stage. -/
def stage [Timed ρ] : Feed ρ → Stage ρ
  | direct => .direct ρ
  | streaming a => a.stage

/-- The row `r` of the output is made of these rows of the input. -/
def Makes : Feed ρ → List ρ → ρ → Prop
  | direct, members, r => members = [r]
  | streaming a, members, r => ∃ k, a.Makes k members r

/-- Merged rows have the later timestamp. -/
def KeepsLater [Timed ρ] : Feed ρ → Prop
  | direct => True
  | streaming a => a.KeepsLater

/-- The rows are members of groups, each as often as it is listed, and the groups that a sink wants
are among what was loaded. -/
def Covers (feed : Feed ρ) (processable : ρ → Bool) (rows loaded : List ρ) : Prop :=
  ∃ groups : List (List ρ × ρ), (∀ g ∈ groups, feed.Makes g.1 g.2) ∧
    rows.Subperm (groups.flatMap (·.1)) ∧ ((groups.map (·.2)).filter processable).Subperm loaded

end Feed

/-- A sink of a pipeline and what feeds it. -/
structure Outlet (σ ρ : Type) : Type 1 where
  /-- The name of the sink. -/
  name : String
  /-- What stands before the sink. -/
  feed : Feed ρ := .direct
  /-- The sink. -/
  sink : σ
  /-- Whether the sink wants a row. -/
  processable : ρ → Bool := fun _ => true

/-- A pipeline. -/
structure Line (ι σ ρ : Type) : Type 1 where
  /-- The name of the pipeline. -/
  name : String
  /-- The name of the source. -/
  sourceName : String := "source"
  /-- The source. -/
  source : ι
  /-- The wanted size of a page. -/
  pageSize : Nat
  /-- The sinks. -/
  outlets : List (Outlet σ ρ)

/-- What an orchestrator is made for. Rows of all kinds are one type. -/
structure Plan (ι σ ρ : Type) : Type 1 where
  /-- The group the pipelines are run for. -/
  group : String
  /-- The pipelines. -/
  lines : List (Line ι σ ρ)
  /-- The number of rows that completes a batch. -/
  batchSize : Nat := 1000
  /-- A pipeline without a checkpoint starts after this instant. -/
  initial : Instant := .epoch

/-- What an orchestrator can be told to do. -/
inductive Plan.Command where
  /-- Runs one pipeline. -/
  | run (name : String)
  /-- Runs all pipelines. -/
  | runAll
  /-- Starts all pipelines over, with emptied sinks if asked to. -/
  | rerun (deleteData : Bool)

/-- What a command answers: the reports of its runs, or why there are none. -/
def Plan.Command.answer {ω : Type} (o : Orchestrator ω) :
    Plan.Command → StateM ω (Attempt (List RunReport))
  | run name => do return (← o.run name).map ([·])
  | runAll => do return (← o.runAll).mapError .panic
  | rerun deleteData => o.rerun deleteData

/-- Does what a command says. -/
def Plan.Command.perform {ω : Type} (o : Orchestrator ω) : Plan.Command → StateM ω Unit
  | run name => do let _ ← o.run name
  | runAll => do let _ ← o.runAll
  | rerun deleteData => do let _ ← o.rerun deleteData

section Scenes

variable {ι σ ρ : Type} [DecidableEq ι] [DecidableEq σ] [Timed ρ]

/-- The branch of a pipeline in a scene. -/
def Outlet.branch (o : Outlet σ ρ) : Branch (Scene ι σ ρ) ρ :=
  ⟨o.feed.stage, Scene.sink o.name o.processable o.sink⟩

/-- The pipeline in a scene. -/
def Line.pipeline (line : Line ι σ ρ) : Pipeline (Scene ι σ ρ) ρ :=
  ⟨line.name, ⟨Scene.source line.sourceName line.source, line.pageSize⟩,
    line.outlets.map (·.branch)⟩

namespace Plan

/-- The orchestrator in a scene. -/
def orchestrator (plan : Plan ι σ ρ) : Orchestrator (Scene ι σ ρ) where
  group := plan.group
  jobs := plan.lines.map (·.pipeline.toJob)
  store := Scene.store
  clock := Scene.clock
  batchSize := plan.batchSize
  initial := plan.initial

/-- The ledgers of a history: no checkpoint is stored at first, and each command is given where the
one before it ended or was abandoned. -/
inductive Reachable (plan : Plan ι σ ρ) : Ledger ι σ ρ → Prop where
  | start (tables : ι → List ρ) (asc : ∀ i, Ascending (tables i)) (logs : σ → List (List ρ)) :
      Reachable plan ⟨tables, logs, {}, []⟩
  | step {l l' : Ledger ι σ ρ} (h : Reachable plan l) (command : Command)
      (script : Nat → Turn ι σ ρ)
      (hl' : l' ∈ (command.perform plan.orchestrator { ledger := l, script }).2.past) :
      Reachable plan l'

end Plan

end Scenes

/-! ## What is covered -/

namespace Feed

variable {ρ : Type} {feed : Feed ρ} {processable : ρ → Bool} {rows rows' loaded loaded' : List ρ}

theorem covers_nil (feed : Feed ρ) (processable : ρ → Bool) (loaded : List ρ) :
    feed.Covers processable [] loaded :=
  ⟨[], by simp, List.nil_subperm, List.nil_subperm⟩

/-- Fewer rows are covered by more. -/
theorem Covers.mono (h : feed.Covers processable rows loaded) (hrows : rows'.Subperm rows)
    (hloaded : loaded.Subperm loaded') : feed.Covers processable rows' loaded' := by
  obtain ⟨groups, hmakes, hmembers, hwanted⟩ := h
  exact ⟨groups, hmakes, hrows.trans hmembers, hwanted.trans hloaded⟩

/-- Rows in a row are covered one after the other. -/
theorem Covers.append (h : feed.Covers processable rows loaded)
    (h' : feed.Covers processable rows' loaded') :
    feed.Covers processable (rows ++ rows') (loaded ++ loaded') := by
  obtain ⟨groups, hmakes, hmembers, hwanted⟩ := h
  obtain ⟨groups', hmakes', hmembers', hwanted'⟩ := h'
  refine ⟨groups ++ groups', fun g hg => ?_, ?_, ?_⟩
  · exact (List.mem_append.mp hg).elim (hmakes g) (hmakes' g)
  · rw [List.flatMap_append]
    exact hmembers.append hmembers'
  · rw [List.map_append, List.filter_append]
    exact hwanted.append hwanted'

variable [Timed ρ]

/-- What a feed sends is made of what it reads. -/
theorem backed (feed : Feed ρ) {xs : List ρ} (asc : Ascending xs) :
    Backed feed.Makes xs [] (feed.stage.transform (xs.map .ok)) := by
  cases feed with
  | direct => exact Stage.direct_backed asc
  | streaming a => exact a.stage_backed asc

theorem Makes.time_mem {members : List ρ} {r : ρ} (h : feed.Makes members r)
    (hlater : feed.KeepsLater) :
    (∃ m ∈ members, time m = time r) ∧ ∀ m ∈ members, time m ≤ time r := by
  cases feed with
  | direct => simp [show members = [r] from h]
  | streaming a =>
    obtain ⟨k, hk⟩ := h
    exact hk.time_mem hlater

end Feed

end Ingest
