import Ingest.Proofs.World.Estate
import Ingest.Proofs.World.Plan
import Mathlib.Algebra.Group.Nat.Defs

/-!
# Proofs/Advancing — stored checkpoints only move forward

A run writes twice, and whatever is refused in between, each write leaves every checkpoint in place
and none before where it was (`CheckpointTable.Advances`). A run without a result leaves how far its
job has come, and a run that does not fail is recorded as it is reported (`Roster.Atomic`). Of jobs
in a row, those that come after a panic are not run (`upToPanic`). Main statement:
`Roster.forward_atomic`.
-/

namespace Ingest

/-! ## Tables -/

namespace CheckpointTable

/-- Every checkpoint of `t` is still there in `t'`, and it did not move back. -/
def Advances (t t' : CheckpointTable) : Prop :=
  ∀ group name c, t.get? group name = some c →
    ∃ c', t'.get? group name = some c' ∧ c.upTo ≤ c'.upTo

/-- How far a pipeline has come that starts after `initial`. -/
def reached (t : CheckpointTable) (group name : String) (initial : Instant) : Instant :=
  (t.get? group name).elim initial (·.upTo)

namespace Advances

variable {t t' t'' : CheckpointTable}

theorem refl (t : CheckpointTable) : t.Advances t := fun _ _ c hc => ⟨c, hc, le_rfl⟩

theorem trans (h : t.Advances t') (h' : t'.Advances t'') : t.Advances t'' := by
  intro group name c hc
  obtain ⟨c', hc', hle⟩ := h group name c hc
  obtain ⟨c'', hc'', hle'⟩ := h' group name c' hc'
  exact ⟨c'', hc'', hle.trans hle'⟩

/-- A checkpoint may take the place of one that is not later. -/
theorem put {c : Checkpoint}
    (h : ∀ d, t.get? c.group c.pipeline = some d → d.upTo ≤ c.upTo) : t.Advances (t.put c) := by
  intro group name d hd
  rw [get?_put]
  split_ifs with heq
  · obtain ⟨rfl, rfl⟩ := heq
    exact ⟨c, rfl, h d hd⟩
  · exact ⟨d, hd, le_rfl⟩

end Advances

end CheckpointTable

/-! ## Estates -/

namespace Estate

variable {π : Type} {s : Estate π}

/-- From each table of checkpoints to the next one, nothing moved back. -/
structure Forward (s : Estate π) : Prop where
  labelled : s.stored.Labelled
  advances : s.tables.Pairwise fun later earlier => earlier.Advances later

/-- An access that moves no checkpoint back keeps the history in order. -/
theorem Forward.accessed (h : s.Forward) (key : Option String) {t : CheckpointTable}
    (ht : t.Labelled) (hadv : s.stored.Advances t) : (s.accessed key t).Forward where
  labelled := ht
  advances := by
    rw [accessed_tables, List.pairwise_cons]
    refine ⟨fun earlier hearlier => ?_, h.advances⟩
    rcases List.mem_cons.mp hearlier with rfl | hearlier
    · exact hadv
    · exact ((List.pairwise_cons.mp h.advances).1 earlier hearlier).trans hadv

/-- Reading the clock keeps the history in order. -/
theorem Forward.tick (h : s.Forward) : s.tick.Forward := ⟨h.labelled, h.advances⟩

end Estate

/-! ## One run -/

/-- A run of a job gets no result: its checkpoint cannot be read or marked, or its execution fails
or panics. -/
def Orchestrator.Interrupted {ω : Type} (o : Orchestrator ω) (job : Job ω) (w : ω) : Prop :=
  let (now, w₁) := o.clock w
  match o.begin job.name now w₁ with
  | (.error _, _) => True
  | (.ok c, w₂) =>
    ∃ fault, (job.execute ⟨o.group, ⟨c.upTo, now⟩, max o.batchSize 1⟩ w₂).1 = .error fault

/-- A count below the limit is written as it is. -/
theorem Orchestrator.signed_of_lt {rows : Nat} (h : rows < 2 ^ 63) :
    signed rows = rows := by
  refine Int.bmod_eq_of_le ?_ ?_
  · simp only [UInt64.size]
    omega
  · simp only [UInt64.size]
    omega

namespace Roster

variable {π : Type} (roster : Roster π) {job : Job π} {s : Estate π}

/-- A run that gets no result leaves how far its job has come. What is told about a run that does
not fail is what is stored. -/
structure Atomic (job : Job π) (s : Estate π) (out : Except Panic RunReport × Estate π) :
    Prop where
  interrupted : roster.orchestrator.Interrupted (job.within Estate.region) s →
    out.2.stored.reached roster.group job.name roster.initial
      = s.stored.reached roster.group job.name roster.initial
  recorded : ∀ report, out.1 = .ok report → report.status ≠ .failed → report.rows < 2 ^ 63 →
    ∃ c, out.2.stored.get? roster.group job.name = some c ∧ c.status = report.status ∧
      c.upTo = report.upTo ∧ c.rows = report.rows ∧ c.message = report.message

/-- A run starts from how far its job has come. -/
theorem previous_upTo : (roster.previous job s).upTo
    = s.stored.reached roster.group job.name roster.initial := by
  unfold previous CheckpointTable.reached
  cases s.stored.get? roster.group job.name <;> rfl

/-- A report does not move back. -/
theorem previous_upTo_le : (roster.previous job s).upTo ≤ (roster.report job s).upTo := by
  unfold report
  rcases (roster.execution job s).1 with fault | r
  · exact le_rfl
  · exact le_max_right _ _

/-- A checkpoint has the rows of the report, as a signed number. -/
theorem recorded_rows :
    (roster.recorded job s).rows = Orchestrator.signed (roster.report job s).rows := by
  simp only [recorded, Orchestrator.checkpointOf, Checkpoint.recorded]

/-- Reading a checkpoint moves none. -/
theorem afterRead_forward (hs : s.Forward) : (afterRead job s).Forward :=
  hs.tick.accessed _ hs.labelled (.refl _)

/-- Marking a checkpoint leaves it where it is. -/
theorem afterWork_forward (hs : s.Forward) : (roster.afterWork job s).Forward := by
  have hmark : (roster.afterMark job s).Forward := by
    refine (afterRead_forward hs).accessed _ (hs.labelled.put _) (.put fun d hd => ?_)
    obtain ⟨hgroup, hname⟩ := roster.previous_labels hs.labelled
    have hget : s.stored.get? roster.group job.name = some d := by
      rw [← hgroup, ← hname]
      exact hd
    have hprevious : roster.previous job s = d := by
      rw [previous, hget]
      rfl
    exact hprevious ▸ le_rfl
  exact ⟨hmark.labelled, hmark.advances⟩

/-- **One run** moves nothing back, however it ends. -/
theorem runJob_forward (hs : s.Forward) : (roster.runJob job s).2.Forward := by
  have hl := hs.labelled
  have hread : (afterRead job s).Forward := afterRead_forward hs
  have hwork : (roster.afterWork job s).Forward := roster.afterWork_forward hs
  refine roster.runJob_cases hl (P := fun out => out.2.Forward) (fun _ => hread)
    (fun _ => hread.accessed _ hl (.refl _)) (fun _ _ _ => hwork)
    (fun _ _ _ => hwork.accessed _ hwork.labelled (.refl _)) fun _ _ _ => ?_
  refine hwork.accessed _ (hwork.labelled.put _) (.put fun d hd => ?_)
  obtain ⟨hgroup, hname⟩ := roster.recorded_labels hl
  rw [hgroup, hname, roster.marked_get? hl] at hd
  obtain rfl := Option.some.inj hd
  exact roster.previous_upTo_le

/-- A run that has begun is interrupted only by its execution. -/
theorem fault_of_interrupted (hs : s.stored.Labelled) (h₀ : s.refusals (some job.name) 0 = none)
    (h₁ : s.refusals (some job.name) 1 = none)
    (h : roster.orchestrator.Interrupted (job.within Estate.region) s) :
    ∃ fault, (roster.execution job s).1 = .error fault := by
  have hbegin : roster.orchestrator.begin (job.within Estate.region).name (s.readings 0) s.tick
      = (.ok (roster.previous job s), roster.afterMark job s) := roster.begin_of_marked hs h₀ h₁
  simp only [Orchestrator.Interrupted, roster.clock_eq, hbegin] at h
  exact h

/-- How far a job has come is left by its mark. -/
theorem reached_marked (hs : s.stored.Labelled) :
    (roster.afterWork job s).stored.reached roster.group job.name roster.initial
      = s.stored.reached roster.group job.name roster.initial := by
  rw [CheckpointTable.reached, roster.marked_get? hs, ← roster.previous_upTo]
  rfl

/-- **One run** is atomic. -/
theorem runJob_atomic (hs : s.stored.Labelled) : roster.Atomic job s (roster.runJob job s) := by
  refine roster.runJob_cases hs (P := roster.Atomic job s) (fun _ => ?_) (fun _ => ?_)
    (fun _ _ _ => ?_) (fun _ _ _ => ?_) fun h₀ h₁ _ => ?_
  · exact ⟨fun _ => rfl, by rintro r ⟨⟩ hstatus; exact absurd rfl hstatus⟩
  · exact ⟨fun _ => rfl, by rintro r ⟨⟩ hstatus; exact absurd rfl hstatus⟩
  · exact ⟨fun _ => roster.reached_marked hs, fun r hr => by cases hr⟩
  · exact ⟨fun _ => roster.reached_marked hs, by rintro r ⟨⟩ hstatus; exact absurd rfl hstatus⟩
  · have hget := roster.recorded_get? job hs (roster.afterWork job s).stored
    constructor
    · intro hinterrupted
      obtain ⟨fault, hfault⟩ := roster.fault_of_interrupted hs h₀ h₁ hinterrupted
      have hupTo : (roster.recorded job s).upTo = (roster.previous job s).upTo := by
        change (roster.report job s).upTo = _
        rw [report, hfault]
        rfl
      rw [previous_upTo] at hupTo
      rw [← hupTo]
      exact congrArg (·.elim roster.initial (·.upTo)) hget
    · rintro r ⟨⟩ - hrows
      refine ⟨_, hget, rfl, rfl, ?_, rfl⟩
      rw [recorded_rows]
      exact Orchestrator.signed_of_lt hrows

/-! ## Commands -/

/-- The jobs that a command runs, in order. -/
def called (roster : Roster π) : Plan.Command → List (Job π)
  | .run name => (roster.jobs.find? fun job => job.name = name).toList
  | .runAll => roster.jobs
  | .rerun _ => roster.jobs

/-- The estate after commands that were given one after the other. -/
def performAll (roster : Roster π) (commands : List Plan.Command) (s : Estate π) : Estate π :=
  commands.foldl (fun s command => (command.perform roster.orchestrator s).2) s

/-- The estate after jobs were run one after the other. -/
def after (roster : Roster π) (jobs : List (Job π)) (s : Estate π) : Estate π :=
  jobs.foldl (fun s job => (roster.runJob job s).2) s

/-- Jobs in a row are run one after the other. -/
theorem after_append (jobs jobs' : List (Job π)) (s : Estate π) :
    roster.after (jobs ++ jobs') s = roster.after jobs' (roster.after jobs s) :=
  List.foldl_append

/-- Those of some jobs that are run, up to the first one that panics. -/
def upToPanic (roster : Roster π) : List (Job π) → Estate π → List (Job π)
  | [], _ => []
  | job :: jobs, s =>
    job :: match (roster.runJob job s).1 with
      | .ok _ => roster.upToPanic jobs (roster.runJob job s).2
      | .error _ => []

/-- The jobs that commands run one after the other. -/
def made (roster : Roster π) : List Plan.Command → Estate π → List (Job π)
  | [], _ => []
  | command :: commands, s =>
    let jobs := roster.upToPanic (roster.called command) s
    jobs ++ roster.made commands (roster.after jobs s)

/-- **Of jobs in a row** those are run that no panic comes before. -/
theorem runJobs_world (jobs : List (Job π)) (s : Estate π) :
    (roster.orchestrator.runJobs (jobs.map (·.within Estate.region)) s).2
      = roster.after (roster.upToPanic jobs s) s := by
  induction jobs generalizing s with
  | nil => rfl
  | cons job jobs ih =>
    rw [List.map_cons, upToPanic]
    rcases hrun : roster.runJob job s with ⟨p | report, s'⟩
    · rw [Orchestrator.runJobs_cons_of_error hrun]
      simp only [after, List.foldl_cons, hrun, List.foldl_nil]
    · rw [Orchestrator.runJobs_cons_of_ok hrun]
      simp only [after, List.foldl_cons, hrun]
      exact ih s'

/-- **A command is its runs**, unless it forgets checkpoints. -/
theorem perform_eq (command : Plan.Command) (h : ∀ deleteData, command ≠ .rerun deleteData)
    (s : Estate π) : (command.perform roster.orchestrator s).2
      = roster.after (roster.upToPanic (roster.called command) s) s := by
  cases command with
  | run name =>
    change (roster.orchestrator.run name s).2 = _
    rcases hfind : roster.jobs.find? fun job => job.name = name with _ | job
    · have hnone : roster.orchestrator.jobs.find? (fun job => job.name = name) = none := by
        change (roster.jobs.map _).find? _ = _
        rw [List.find?_map]
        exact congrArg (Option.map _) hfind
      rw [Orchestrator.run, hnone, called, hfind]
      rfl
    · rw [roster.run_of_find? hfind, called, hfind, Option.toList_some, upToPanic]
      cases (roster.runJob job s).1 <;> rfl
  | runAll => exact roster.runJobs_world roster.jobs s
  | rerun deleteData => exact absurd rfl (h deleteData)

/-- Commands that delete nothing are the runs of what they call. -/
theorem performAll_eq {commands : List Plan.Command}
    (h : ∀ command ∈ commands, ∀ deleteData, command ≠ .rerun deleteData) (s : Estate π) :
    roster.performAll commands s = roster.after (roster.made commands s) s := by
  induction commands generalizing s with
  | nil => rfl
  | cons command commands ih =>
    rw [made, after_append, ← roster.perform_eq command (h command (by simp))]
    exact ih (fun c hc => h c (List.mem_cons_of_mem _ hc)) _

/-! ### Runs whose totals fit -/

/-- The totals of all runs fit, if these jobs are run one after the other. -/
def Fits (roster : Roster π) (jobs : List (Job π)) (s : Estate π) : Prop :=
  ∀ before job later, jobs = before ++ job :: later →
    (roster.recorded job (roster.after before s)).TotalsFit

/-- A run whose totals fit does not panic. -/
theorem exists_report (hs : s.stored.Labelled) (hfit : (roster.recorded job s).TotalsFit) :
    ∃ report, (roster.runJob job s).1 = .ok report :=
  roster.runJob_cases hs (P := fun out => ∃ report, out.1 = .ok report) (fun _ => ⟨_, rfl⟩)
    (fun _ => ⟨_, rfl⟩) (fun _ _ hover => absurd hfit hover) (fun _ _ _ => ⟨_, rfl⟩)
    fun _ _ _ => ⟨_, rfl⟩

/-- Runs keep the labels of the checkpoints. -/
theorem after_labelled (jobs : List (Job π)) (hs : s.stored.Labelled) :
    (roster.after jobs s).stored.Labelled :=
  List.foldlRecOn (motive := fun s : Estate π => s.stored.Labelled) jobs _ hs
    fun _ h _ _ => roster.runJob_labelled h

/-- If all totals fit, all jobs are run. -/
theorem upToPanic_of_fits {jobs : List (Job π)} (hs : s.stored.Labelled)
    (hfit : roster.Fits jobs s) : roster.upToPanic jobs s = jobs := by
  induction jobs generalizing s with
  | nil => rfl
  | cons job jobs ih =>
    obtain ⟨report, hreport⟩ := roster.exists_report hs (hfit [] job jobs rfl)
    rw [upToPanic, hreport]
    refine congrArg (job :: ·) (ih (roster.runJob_labelled hs) fun before other later h => ?_)
    exact hfit (job :: before) other later (congrArg (job :: ·) h)

/-- **Commands whose totals fit** make all runs that they call for. -/
theorem made_of_fits {commands : List Plan.Command} (hs : s.stored.Labelled)
    (hfit : roster.Fits (commands.flatMap roster.called) s) :
    roster.made commands s = commands.flatMap roster.called := by
  induction commands generalizing s with
  | nil => rfl
  | cons command commands ih =>
    have hfirst : roster.Fits (roster.called command) s := fun before job later h =>
      hfit before job (later ++ commands.flatMap roster.called) (by
        rw [List.flatMap_cons, h, List.append_assoc, List.cons_append])
    have hrest : roster.Fits (commands.flatMap roster.called)
        (roster.after (roster.called command) s) := fun before job later h => by
      have := hfit (roster.called command ++ before) job later (by
        rw [List.flatMap_cons, h, List.append_assoc])
      rwa [after_append] at this
    rw [made, roster.upToPanic_of_fits hs hfirst, ih (roster.after_labelled _ hs) hrest,
      List.flatMap_cons]

/-- **Runs keep the history in order.** -/
theorem after_forward (jobs : List (Job π)) (hs : s.Forward) : (roster.after jobs s).Forward :=
  List.foldlRecOn jobs _ hs fun _ h _ _ => roster.runJob_forward h

/-- **Stored checkpoints only move forward, and runs are atomic.** Commands that forget nothing are
runs, one after the other: all that they call for, as long as totals fit. From each table of
checkpoints to any later one, nothing moves back, and each of the runs is atomic. -/
theorem forward_atomic (roster : Roster π) (commands : List Plan.Command)
    (hruns : ∀ command ∈ commands, ∀ deleteData, command ≠ .rerun deleteData) (s : Estate π)
    (hs : s.stored.Labelled) (hpast : s.past = []) :
    roster.performAll commands s = roster.after (roster.made commands s) s ∧
    (roster.Fits (commands.flatMap roster.called) s →
      roster.made commands s = commands.flatMap roster.called) ∧
    (roster.performAll commands s).tables.Pairwise (fun later earlier => earlier.Advances later) ∧
    ∀ before job later, roster.made commands s = before ++ job :: later →
      roster.Atomic job (roster.after before s) (roster.runJob job (roster.after before s)) := by
  have hforward : s.Forward := ⟨hs, by simp [Estate.tables, hpast]⟩
  have hall := roster.performAll_eq hruns s
  refine ⟨hall, roster.made_of_fits hs, ?_, fun before job later _ => ?_⟩
  · rw [hall]
    exact (roster.after_forward _ hforward).advances
  · exact roster.runJob_atomic (roster.after_labelled before hs)

/-- One job that first succeeds, then panics, and then does not even come as far as it was. -/
def shaky : Roster Nat where
  group := "g"
  jobs := [{
    name := "p"
    execute := fun _ n => (match n with
      | 0 => .ok ⟨"p", .success, .atSecond 5, 2, 0, none, []⟩
      | 1 => .error (.panic (.text "lost"))
      | _ => .ok ⟨"p", .failed, .atSecond 1, 0, 0, some "late", []⟩, n + 1)
    cleanUp := fun _ n => (.ok (), n) }]

/-- Before any run. The store refuses the eighth access. -/
def shakyStart : Estate Nat where
  work := 0
  stored := {}
  refusals := fun _ n => if n = 7 then some (.repository "away") else none
  readings := fun n => .atSecond (10 + n)

/-- Four runs of the shaky job, one of which cannot mark its checkpoint. -/
theorem forward_atomic_shaky :
    let commands : List Plan.Command := [.run "p", .runAll, .run "p", .run "p"]
    (shaky.performAll commands shakyStart).tables.map (·.reached "g" "p" .epoch)
      = [5, 5, 5, 5, 5, 5, 5, 5, 5, 0, 0, 0].map .atSecond ∧
    (shaky.made commands shakyStart).map (·.name) = ["p", "p", "p", "p"] ∧
    (shaky.performAll commands shakyStart).tables.Pairwise
      (fun later earlier => earlier.Advances later) ∧
    ∀ before job later, shaky.made commands shakyStart = before ++ job :: later →
      shaky.Atomic job (shaky.after before shakyStart)
        (shaky.runJob job (shaky.after before shakyStart)) :=
  ⟨by decide +kernel, by decide +kernel,
    (forward_atomic shaky _ (by simp) shakyStart CheckpointTable.labelled_empty rfl).2.2⟩

end Roster

end Ingest
