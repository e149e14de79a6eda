import Ingest.Proofs.World.Execution
import Mathlib.Data.List.Nodup

/-!
# Proofs/CheckpointSafety — no checkpoint passes a row that is not loaded

A ledger is *sound* if every stored checkpoint stands for a pipeline that is done up to there. Every
call of every command keeps this: an execution only adds, a checkpoint is written for what was
loaded, and before a sink is emptied all checkpoints are gone. Main statement: `Reachable.covers` —
over every history of commands, failures and abandoned runs.
-/

namespace Ingest

variable {ι σ ρ : Type} [DecidableEq ι] [DecidableEq σ] [Timed ρ]

/-! ## Calls -/

section Calls

variable {I P : Ledger ι σ ρ → Prop} {α : Type} {Q : Except Error α → Ledger ι σ ρ → Prop}
  {act : CheckpointTable → α × CheckpointTable}

/-- An access to the store: it is refused, or it does what it should. -/
theorem Along.access (hP : ∀ l l', l.Grows l' → P l → P l')
    (hrefused : ∀ l e, P l → I l ∧ Q (.error e) l)
    (hdone : ∀ l, P l → I { l with stored := (act l.stored).2 } ∧
      Q (.ok (act l.stored).1) { l with stored := (act l.stored).2 }) :
    Along I P (Scene.access act) Q := by
  refine Along.call fun turn l hl => ?_
  have hfound := hP l _ (.wait l turn) hl
  rcases turn.refusal with _ | e
  · exact hdone _ hfound
  · exact hrefused _ e hfound

/-- Emptying a sink changes what the sink holds. -/
theorem Along.deleteAll {name group : String} {processable : ρ → Bool} {i : σ}
    {Q : Except Error Unit → Ledger ι σ ρ → Prop}
    (h : ∀ turn l, P l → ∀ batches r,
      I { l.wait turn with logs := Function.update (l.wait turn).logs i batches } ∧
        Q r { l.wait turn with logs := Function.update (l.wait turn).logs i batches }) :
    Along I P ((Scene.sink name processable i).deleteAll group) Q := by
  refine Along.call fun turn l hl => ?_
  rcases turn.refusal with _ | e
  · exact h turn l hl [] (.ok ())
  · exact h turn l hl turn.spared (.error e)

end Calls

/-! ## Sound ledgers -/

omit [DecidableEq ι] [DecidableEq σ] in
/-- What the store holds does not matter to what is loaded. -/
theorem Line.Done.withStored {line : Line ι σ ρ} {initial t : Instant} {l : Ledger ι σ ρ}
    (h : line.Done initial l t) (stored : CheckpointTable) :
    line.Done initial { l with stored := stored } t :=
  ⟨h.initial_le, h.closed, h.loaded⟩

namespace Plan

variable {plan : Plan ι σ ρ} {line : Line ι σ ρ} {l l' : Ledger ι σ ρ} {c : Checkpoint}
  {now : Instant}

/-- A checkpoint says how far a pipeline is done. -/
structure Attests (plan : Plan ι σ ρ) (line : Line ι σ ρ) (l : Ledger ι σ ρ) (c : Checkpoint) :
    Prop where
  group : c.group = plan.group
  pipeline : c.pipeline = line.name
  done : line.Done plan.initial l c.upTo

/-- Tables ascend, and every checkpoint of a pipeline says how far that pipeline is done. -/
structure Sound (plan : Plan ι σ ρ) (l : Ledger ι σ ρ) : Prop where
  ascending : ∀ i, Ascending (l.tables i)
  stored : ∀ line ∈ plan.lines, ∀ c, l.stored.get? plan.group line.name = some c →
    plan.Attests line l c

omit [DecidableEq ι] [DecidableEq σ] in
/-- A checkpoint stays true when rows arrive. -/
theorem Attests.mono (h : plan.Attests line l c) (hg : l.Grows l') : plan.Attests line l' c :=
  ⟨h.group, h.pipeline, h.done.mono hg⟩

omit [DecidableEq ι] [DecidableEq σ] in
/-- A ledger stays sound when rows arrive. -/
theorem Sound.mono (h : plan.Sound l) (hg : l.Grows l') : plan.Sound l' where
  ascending i := hg.ascending i (h.ascending i)
  stored line hline c hc := (h.stored line hline c (hg.stored ▸ hc)).mono hg

omit [DecidableEq ι] [DecidableEq σ] in
/-- **Writing a checkpoint** of one pipeline leaves those of the others, whose names differ. -/
theorem Sound.put (h : plan.Sound l) (hnames : (plan.lines.map (·.name)).Nodup)
    (hline : line ∈ plan.lines) (hc : plan.Attests line l c) :
    plan.Sound { l with stored := l.stored.put c } where
  ascending := h.ascending
  stored other hother d hd := by
    rw [CheckpointTable.get?_put] at hd
    split_ifs at hd with heq
    · obtain rfl := Option.some.inj hd
      obtain rfl : other = line :=
        List.inj_on_of_nodup_map hnames hother hline (heq.2.trans hc.pipeline)
      exact ⟨hc.group, hc.pipeline, hc.done.withStored _⟩
    · have hold := h.stored other hother d hd
      exact ⟨hold.group, hold.pipeline, hold.done.withStored _⟩

omit [DecidableEq ι] [DecidableEq σ] in
/-- To delete a checkpoint makes no other one false. -/
theorem Sound.delete (h : plan.Sound l) (name : String) :
    plan.Sound { l with stored := l.stored.delete plan.group name } where
  ascending := h.ascending
  stored other hother d hd := by
    rw [CheckpointTable.get?_delete] at hd
    split_ifs at hd
    have hold := h.stored other hother d hd
    exact ⟨hold.group, hold.pipeline, hold.done.withStored _⟩

omit [DecidableEq ι] [DecidableEq σ] in
/-- A pipeline that was never run is done up to where it is going to start. -/
theorem attests_neverRun (plan : Plan ι σ ρ) (line : Line ι σ ρ) (l : Ledger ι σ ρ) :
    plan.Attests line l (.neverRun plan.group line.name plan.initial) where
  group := rfl
  pipeline := rfl
  done := {
    initial_le := le_rfl
    closed := .inl le_rfl
    loaded := fun o _ => by
      rw [Outlet.Loaded, Checkpoint.neverRun, Window.rows_eq_nil (lt_irrefl _)]
      exact Feed.covers_nil _ _ _ }

/-! ## One run -/

/-- A run that started at `now` from the checkpoint `c`. -/
structure Running (plan : Plan ι σ ρ) (line : Line ι σ ρ) (now : Instant) (c : Checkpoint)
    (l : Ledger ι σ ρ) : Prop where
  sound : plan.Sound l
  started : now ∈ l.started
  attests : plan.Attests line l c

omit [DecidableEq ι] [DecidableEq σ] in
theorem Running.mono (h : plan.Running line now c l) (hg : l.Grows l') :
    plan.Running line now c l' :=
  ⟨h.sound.mono hg, hg.started h.started, h.attests.mono hg⟩

/-- What a run reports of its pipeline may be recorded. -/
theorem Running.attests_report (h : plan.Running line now c l) {out : Attempt PipelineResult}
    (name : String) (hout : ∀ r, out = .ok r → line.Done plan.initial l (max r.upTo c.upTo)) :
    plan.Attests line l
      (Orchestrator.checkpointOf c now (plan.orchestrator.reportOf name c.upTo out)) := by
  refine ⟨h.attests.group, h.attests.pipeline, ?_⟩
  rcases out with fault | r
  · exact h.attests.done
  · exact hout r rfl

variable {plan : Plan ι σ ρ} (hnames : (plan.lines.map (·.name)).Nodup)
  (hlater : ∀ line ∈ plan.lines, ∀ o ∈ line.outlets, o.feed.KeepsLater)

theorem clock_along (plan : Plan ι σ ρ) :
    Along plan.Sound plan.Sound (Scene.clock (ι := ι) (σ := σ))
      fun now l => plan.Sound l ∧ now ∈ l.started := by
  refine Along.call fun turn l hl => ?_
  have hsound := (hl.mono (.wait l turn)).mono (.start _ turn.now)
  exact ⟨hsound, hsound, List.mem_cons_self⟩

/-- The checkpoint that a run starts from says how far its pipeline is done. -/
theorem readCheckpoint_along (hline : line ∈ plan.lines) (now : Instant) :
    Along plan.Sound (fun l => plan.Sound l ∧ now ∈ l.started)
      (plan.orchestrator.readCheckpoint line.name)
      fun r l => plan.Sound l ∧ now ∈ l.started ∧ ∀ c, r = .ok c → plan.Attests line l c := by
  refine Along.bind (Q := fun r l => plan.Sound l ∧ now ∈ l.started ∧
    ∀ o, r = .ok o → o = l.stored.get? plan.group line.name) ?_ fun r => ?_
  · change Along _ _ (Scene.access fun stored => (stored.get? plan.group line.name, stored)) _
    refine Along.access (fun l l' hg h => ⟨h.1.mono hg, hg.started h.2⟩)
      (fun l e h => ⟨h.1, h.1, h.2, by simp⟩) fun l h => ⟨h.1, h.1, h.2, ?_⟩
    rintro o ⟨⟩
    rfl
  · refine Along.pure fun l h => ⟨h.1, h.2.1, fun c hc => ?_⟩
    rcases r with e | stored
    · cases hc
    obtain rfl := Except.ok.inj hc
    rcases hstored : stored with _ | c
    · exact attests_neverRun plan line l
    · exact h.1.stored line hline c (hstored ▸ h.2.2 stored rfl).symm

include hnames in
/-- Writing the checkpoint of a running pipeline. -/
theorem put_along (hline : line ∈ plan.lines) (now : Instant) (c d : Checkpoint) :
    Along plan.Sound (fun l => plan.Running line now c l ∧ plan.Attests line l d)
      (plan.orchestrator.store.put d) fun _ l => plan.Running line now c l := by
  change Along _ _ (Scene.access fun stored => ((), stored.put d)) _
  refine Along.access (fun l l' hg h => ⟨h.1.mono hg, h.2.mono hg⟩)
    (fun l e h => ⟨h.1.sound, h.1⟩) fun l h => ?_
  have hsound := h.1.sound.put hnames hline h.2
  have hold := h.1.attests
  exact ⟨hsound, hsound, h.1.started, hold.group, hold.pipeline, hold.done.withStored _⟩

include hnames in
/-- A run begins only after its checkpoint was read and marked. -/
theorem begin_along (hline : line ∈ plan.lines) (now : Instant) :
    Along plan.Sound (fun l => plan.Sound l ∧ now ∈ l.started)
      (plan.orchestrator.begin line.name now)
      fun r l => plan.Sound l ∧ ∀ c, r = .ok c → plan.Running line now c l := by
  refine Along.bind (readCheckpoint_along hline now) fun r => ?_
  rcases r with e | c
  · exact Along.pure fun l h => ⟨h.1, by simp⟩
  · have hput := put_along hnames hline now c (c.loading now)
    refine Along.bind (hput.mono (fun l h => ?_) fun _ _ h => h) fun r => ?_
    · have hc := h.2.2 c rfl
      exact ⟨⟨h.1, h.2.1, hc⟩, hc.group, hc.pipeline, hc.done⟩
    refine Along.pure fun l h => ⟨h.sound, fun d hd => ?_⟩
    rcases r with e | ⟨⟩
    · cases hd
    · obtain rfl := Except.ok.inj hd
      exact h

include hlater in
/-- **What a pipeline does for its window** is what its result may be recorded for. -/
theorem execute_along (hline : line ∈ plan.lines) (now : Instant) (c : Checkpoint)
    (batchSize : Nat) :
    Along plan.Sound (plan.Running line now c)
      (line.pipeline.toJob.execute ⟨plan.group, ⟨c.upTo, now⟩, batchSize⟩)
      fun out l => plan.Running line now c l ∧
        ∀ r, out = .ok r → line.Done plan.initial l (max r.upTo c.upTo) := by
  intro s hpast h
  obtain ⟨hduring, hdone⟩ := Line.execute_done hpast (fun l hg => h.sound.mono hg)
    (h.sound.ascending line.source) (e := ⟨plan.group, ⟨c.upTo, now⟩, batchSize⟩) h.started
    (hlater line hline) h.attests.done rfl
  exact ⟨hduring.1, h.mono hduring.2, hdone⟩

include hnames in
/-- A report is recorded, or it cannot be, or its totals are too great. -/
theorem record_along (hline : line ∈ plan.lines) (now : Instant) (c : Checkpoint)
    (report : RunReport) :
    Along plan.Sound (fun l => plan.Running line now c l ∧
        plan.Attests line l (Orchestrator.checkpointOf c now report))
      (plan.orchestrator.record c now report) fun _ l => plan.Sound l := by
  unfold Orchestrator.record
  split_ifs
  swap
  · exact Along.pure fun l h => h.1.sound
  refine Along.bind (put_along hnames hline now c _) fun r => ?_
  rcases r with e | ⟨⟩
  · exact Along.pure fun l h => h.sound
  · exact Along.pure fun l h => h.sound

include hnames hlater in
/-- **One run** of one pipeline, wherever it ends. -/
theorem runJob_along (hline : line ∈ plan.lines) :
    Along plan.Sound plan.Sound (plan.orchestrator.runJob line.pipeline.toJob)
      fun _ l => plan.Sound l := by
  refine Along.bind (clock_along plan) fun now => ?_
  refine Along.bind (begin_along hnames hline now) fun r => ?_
  rcases r with e | c
  · exact Along.pure fun l h => h.1
  refine Along.bind ((execute_along hlater hline now c _).mono (fun l h => h.2 c rfl)
    fun _ _ h => h) fun out => ?_
  exact (record_along hnames hline now c _).mono (fun l h => ⟨h.1, h.1.attests_report _ h.2⟩)
    fun _ _ h => h

/-! ## Commands -/

include hnames hlater in
/-- Pipelines are run one after the other, up to the first panic. -/
theorem runJobs_along {lines : List (Line ι σ ρ)} (hsub : lines ⊆ plan.lines) :
    Along plan.Sound plan.Sound (plan.orchestrator.runJobs (lines.map (·.pipeline.toJob)))
      fun _ l => plan.Sound l := by
  induction lines with
  | nil => exact Along.pure fun l h => h
  | cons line lines ih =>
    refine Along.bind (runJob_along hnames hlater (hsub List.mem_cons_self)) fun r => ?_
    rcases r with p | report
    · exact Along.pure fun l h => h
    refine Along.bind (ih fun x hx => hsub (List.mem_cons_of_mem _ hx)) fun reports => ?_
    exact Along.pure fun l h => h

include hnames hlater in
/-- A run of all pipelines keeps the ledger sound. -/
theorem runAll_along : Along plan.Sound plan.Sound plan.orchestrator.runAll
    fun _ l => plan.Sound l :=
  Along.bind (runJobs_along hnames hlater (List.Subset.refl plan.lines)) fun _ =>
    Along.pure fun _ h => h

include hnames hlater in
/-- A run keeps the ledger sound. -/
theorem run_along (name : String) : Along plan.Sound plan.Sound (plan.orchestrator.run name)
    fun _ l => plan.Sound l := by
  unfold Orchestrator.run
  split
  · rename_i job hfind
    obtain ⟨line, hline, rfl⟩ := List.mem_map.mp (List.mem_of_find?_eq_some hfind)
    exact Along.bind (runJob_along hnames hlater hline) fun report => Along.pure fun l h => h
  · exact Along.pure fun l h => h

/-- No checkpoint of these names is stored. -/
def Forgot (plan : Plan ι σ ρ) (names : List String) (l : Ledger ι σ ρ) : Prop :=
  ∀ name ∈ names, l.stored.get? plan.group name = none

/-- Checkpoints are deleted one after the other, up to the first failure. -/
theorem deleteAll_along (lines : List (Line ι σ ρ)) (names : List String) :
    Along plan.Sound (fun l => plan.Sound l ∧ plan.Forgot names l)
      (Orchestrator.forEachJob
        (fun job => plan.orchestrator.store.delete plan.orchestrator.group job.name)
        (lines.map (·.pipeline.toJob)))
      fun r l => plan.Sound l ∧ (r = .ok () → plan.Forgot (names ++ lines.map (·.name)) l) := by
  induction lines generalizing names with
  | nil => exact Along.pure fun l h => ⟨h.1, fun _ => by simpa using h.2⟩
  | cons line lines ih =>
    refine Along.bind (Q := fun r l => plan.Sound l ∧
      (r = .ok () → plan.Forgot (names ++ [line.name]) l)) ?_ fun r => ?_
    · change Along _ _ (Scene.access fun stored => ((), stored.delete plan.group line.name)) _
      refine Along.access (fun l l' hg h => ⟨h.1.mono hg, fun n hn => ?_⟩)
        (fun l e h => ⟨h.1, h.1, by simp⟩) fun l h => ⟨h.1.delete _, h.1.delete _, fun _ n hn => ?_⟩
      · rw [hg.stored]
        exact h.2 n hn
      · rw [CheckpointTable.get?_delete]
        rcases List.mem_append.mp hn with hn | hn
        · rw [h.2 n hn, ite_self]
        · rw [if_pos ⟨rfl, List.mem_singleton.mp hn⟩]
    · rcases r with e | ⟨⟩
      · exact Along.pure fun l h => ⟨h.1, by simp⟩
      · refine (ih (names ++ [line.name])).mono (fun l h => ⟨h.1, h.2 rfl⟩) fun r l h => ?_
        rwa [List.append_assoc, List.singleton_append, ← List.map_cons] at h

omit [DecidableEq ι] [DecidableEq σ] in
/-- Nothing can be wrong with checkpoints that are not there. -/
theorem Forgot.sound {l : Ledger ι σ ρ} (h : plan.Forgot (plan.lines.map (·.name)) l)
    (asc : ∀ i, Ascending (l.tables i)) : plan.Sound l :=
  ⟨asc, fun line hline c hc => by simp [h line.name (List.mem_map_of_mem hline)] at hc⟩

/-- **Sinks are emptied** only when no checkpoint is left. -/
theorem cleanUp_along (lines : List (Line ι σ ρ)) :
    let blank := fun l => (∀ i, Ascending (l.tables i)) ∧ plan.Forgot (plan.lines.map (·.name)) l
    Along plan.Sound blank
      (Orchestrator.forEachJob (fun job => job.cleanUp plan.group) (lines.map (·.pipeline.toJob)))
      fun _ l => blank l := by
  intro blank
  have hsinks : ∀ outlets : List (Outlet σ ρ), Along plan.Sound blank
      (Pipeline.emptySinks plan.group (outlets.map (·.branch (ι := ι)))) fun _ l => blank l := by
    intro outlets
    induction outlets with
    | nil => exact Along.pure fun l h => h
    | cons o outlets ih =>
      refine Along.bind (Q := fun _ l => blank l) ?_ fun r => ?_
      · change Along _ _ ((Scene.sink o.name o.processable o.sink).deleteAll plan.group) _
        refine Along.deleteAll fun turn l h batches r => ?_
        have hgrows := Ledger.Grows.wait l turn
        have hblank : blank { l.wait turn with
            logs := Function.update (l.wait turn).logs o.sink batches } :=
          ⟨fun i => hgrows.ascending i (h.1 i), fun n hn => hgrows.stored ▸ h.2 n hn⟩
        exact ⟨hblank.2.sound hblank.1, hblank⟩
      · rcases r with e | ⟨⟩
        · exact Along.pure fun l h => h
        · exact ih
  induction lines with
  | nil => exact Along.pure fun l h => h
  | cons line lines ih =>
    refine Along.bind (hsinks line.outlets) fun r => ?_
    rcases r with e | ⟨⟩
    · exact Along.pure fun l h => h
    · exact ih

include hnames hlater in
/-- A rerun keeps the ledger sound. -/
theorem rerun_along (deleteData : Bool) : Along plan.Sound plan.Sound
    (plan.orchestrator.rerun deleteData) fun _ l => plan.Sound l := by
  refine Along.bind ((deleteAll_along plan.lines []).mono (fun l h => ⟨h, by simp [Forgot]⟩)
    fun _ _ h => h) fun r => ?_
  rcases r with e | ⟨⟩
  · exact Along.pure fun l h => h.1
  have hclean : ∃ lines : List (Line ι σ ρ),
      (if deleteData then plan.orchestrator.jobs else []) = lines.map (·.pipeline.toJob) := by
    cases deleteData
    · exact ⟨[], rfl⟩
    · exact ⟨plan.lines, rfl⟩
  obtain ⟨lines, hlines⟩ := hclean
  rw [hlines]
  refine Along.bind ((cleanUp_along lines).mono (fun l h => ⟨h.1.ascending, h.2 rfl⟩)
    fun _ _ h => h) fun r => ?_
  rcases r with e | ⟨⟩
  · exact Along.pure fun l h => h.2.sound h.1
  · refine Along.bind ((runAll_along hnames hlater).mono (fun l h => h.2.sound h.1)
      fun _ _ h => h) fun reports => ?_
    exact Along.pure fun l h => h

/-! ## Histories -/

include hnames hlater in
/-- **Every ledger that can be reached is sound.** -/
theorem Reachable.sound {l : Ledger ι σ ρ} (h : plan.Reachable l) : plan.Sound l := by
  induction h with
  | start tables asc logs => exact ⟨asc, fun line _ c hc => by cases hc⟩
  | @step l l' _ command script hl' ih =>
    have hcommand : Along plan.Sound plan.Sound (command.perform plan.orchestrator)
        fun _ l => plan.Sound l := by
      cases command with
      | run name => exact Along.bind (run_along hnames hlater name) fun _ => Along.pure fun l h => h
      | runAll => exact Along.bind (runAll_along hnames hlater) fun _ => Along.pure fun l h => h
      | rerun deleteData =>
        exact Along.bind (rerun_along hnames hlater deleteData) fun _ => Along.pure fun l h => h
    exact (hcommand { ledger := l, script } (by simp) ih).1 l' hl'

/-- **No checkpoint passes a row that is not loaded.** Whenever a checkpoint is stored, each sink of
its pipeline holds every table row up to it, by itself or in a group, unless it does not want that
row or group. -/
theorem Reachable.covers {plan : Plan ι σ ρ} (hnames : (plan.lines.map (·.name)).Nodup)
    (hlater : ∀ line ∈ plan.lines, ∀ o ∈ line.outlets, o.feed.KeepsLater) {l : Ledger ι σ ρ}
    (h : plan.Reachable l) {line : Line ι σ ρ} (hline : line ∈ plan.lines) {c : Checkpoint}
    (hc : l.stored.get? plan.group line.name = some c) {o : Outlet σ ρ} (ho : o ∈ line.outlets) :
    o.feed.Covers o.processable (Window.rows ⟨plan.initial, c.upTo⟩ (l.tables line.source))
      (l.logs o.sink).flatten :=
  ((Reachable.sound hnames hlater h).stored line hline c hc).done.loaded o ho

/-- A plan with a sink of all rows and one of the latest row. -/
def mirrored : Plan Unit Bool Row where
  group := "g"
  lines := [{
    name := "p"
    source := ()
    pageSize := 10
    outlets := [{ name := "all", sink := true },
      { name := "latest"
        sink := false
        feed := .streaming {
          name := "latest"
          buffer := 1
          key := fun _ => .ok ()
          merge := fun a b => .ok (if time a ≤ time b then b else a) } }] }]

/-- After a run over two rows, the checkpoint is at the second, and it covers both sinks. -/
theorem Reachable.covers_mirrored : ∃ line ∈ mirrored.lines, ∃ l c, mirrored.Reachable l ∧
    l.stored.get? mirrored.group line.name = some c ∧ c.upTo = .atSecond 2 ∧
    ∀ o ∈ line.outlets, o.feed.Covers o.processable
      (Window.rows ⟨mirrored.initial, c.upTo⟩ (l.tables line.source)) (l.logs o.sink).flatten := by
  have hlater : ∀ line ∈ mirrored.lines, ∀ o ∈ line.outlets, o.feed.KeepsLater := by
    intro line hline o ho
    obtain rfl := List.mem_singleton.mp hline
    simp only [List.mem_cons, List.not_mem_nil, or_false] at ho
    obtain rfl | rfl := ho
    · trivial
    · rintro a b c ⟨⟩
      by_cases h : time a ≤ time b
      · rw [if_pos h, max_eq_right h]
      · rw [if_neg h, max_eq_left (le_of_not_ge h)]
  obtain ⟨l, hreach, c, hc, hupTo⟩ : ∃ l, mirrored.Reachable l ∧
      ∃ c, l.stored.get? "g" "p" = some c ∧ c.upTo = .atSecond 2 := by
    have hpast : some (.atSecond 2) ∈ (Command.runAll.perform mirrored.orchestrator
        { ledger := ⟨fun _ => [⟨.atSecond 1, ∅⟩, ⟨.atSecond 2, ∅⟩], fun _ => [], {}, []⟩
          script := fun _ => { now := .atSecond 3 } }).2.past.map
        fun l => (l.stored.get? "g" "p").map (·.upTo) := by decide +kernel
    obtain ⟨l, hl, hl₂⟩ := List.mem_map.mp hpast
    exact ⟨l, .step (.start _ (fun _ => by decide +kernel) _) .runAll _ hl,
      Option.map_eq_some_iff.mp hl₂⟩
  have hline : mirrored.lines.head (by simp [mirrored]) ∈ mirrored.lines := List.head_mem _
  exact ⟨_, hline, l, c, hreach, hc, hupTo, fun o ho =>
    Reachable.covers (by decide) hlater hreach hline hc ho⟩

end Plan

end Ingest
