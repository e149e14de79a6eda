import Ingest.Orchestrator
import Ingest.Proofs.Regions
import Ingest.Proofs.World.Scene

/-!
# Proofs/World/Estate — an orchestrator whose jobs can be anything

A `Roster` is an orchestrator but for its store and its clock. An `Estate` has both, with a script
of what the clock shows and of the accesses that are refused, beside what the jobs work with, which
can be anything. It remembers the tables of checkpoints that it had. What one run of a job does is
said once, by how many accesses are granted: `runJob_of_unread`, `runJob_of_unmarked`,
`runJob_of_unrecorded` and `runJob_of_recorded`. If its totals are too great nothing more is
accessed once the job was executed: `runJob_of_overflow`.
-/

namespace Ingest

/-! ## Tables of checkpoints -/

namespace CheckpointTable

/-- Every checkpoint stands under its own group and its own pipeline. -/
def Labelled (t : CheckpointTable) : Prop :=
  ∀ group name c, t.get? group name = some c → c.group = group ∧ c.pipeline = name

variable {t : CheckpointTable}

/-- The empty table is labelled. -/
theorem labelled_empty : Labelled {} := fun _ _ _ h => nomatch h

/-- A checkpoint is put under its own labels. -/
theorem Labelled.put (h : t.Labelled) (c : Checkpoint) : (t.put c).Labelled := by
  intro group name d hd
  rw [get?_put] at hd
  split_ifs at hd with heq
  · obtain rfl := Option.some.inj hd
    exact ⟨heq.1.symm, heq.2.symm⟩
  · exact h group name d hd

/-- What is left after a deletion is labelled. -/
theorem Labelled.delete (h : t.Labelled) (g n : String) : (t.delete g n).Labelled := by
  intro group name d hd
  rw [get?_delete] at hd
  split_ifs at hd
  exact h group name d hd

end CheckpointTable

/-! ## Jobs on a part of a world -/

/-- One place of a family, as a part of the family. -/
def Region.at {κ : Type} (name : String) : Region (String → κ) κ where
  get f := f name
  set v f := Function.update f name v
  get_set v f := Function.update_self name v f
  set_set v v' f := Function.update_idem v v' f
  set_get f := Function.update_eq_self name f

/-- A job that works on a part of a larger world. -/
def Job.within {ω π : Type} (g : Region ω π) (job : Job π) : Job ω where
  name := job.name
  execute e := g.lift (job.execute e)
  cleanUp group := g.lift (job.cleanUp group)

/-- What an orchestrator is made for. The jobs work in a world without its store and its clock. -/
structure Roster (π : Type) where
  /-- The group the jobs are run for. -/
  group : String
  /-- The jobs, in the order in which they run. -/
  jobs : List (Job π)
  /-- The number of rows that completes a batch. -/
  batchSize : Nat := 1000
  /-- A job without a checkpoint starts after this instant. -/
  initial : Instant := .epoch

/-! ## Estates -/

/-- What the jobs work with, the stored checkpoints, and what is going to happen. -/
structure Estate (π : Type) where
  /-- What the jobs work with. -/
  work : π
  /-- The checkpoints. -/
  stored : CheckpointTable
  /-- The checkpoints before each access so far, the last one first. -/
  past : List CheckpointTable := []
  /-- Why the store refuses the accesses to come: those for each pipeline, and (`none`) those for
  whole groups. -/
  refusals : Option String → Nat → Option Error := fun _ _ => none
  /-- What the clock is going to show. -/
  readings : Nat → Instant

namespace Estate

variable {π α : Type}

/-- The tables of checkpoints that there were, the last one first. -/
def tables (s : Estate π) : List CheckpointTable := s.stored :: s.past

/-- What the jobs work with, as a part of the estate. -/
def region : Region (Estate π) π where
  get s := s.work
  set v s := { s with work := v }
  get_set _ _ := rfl
  set_set _ _ _ := rfl
  set_get _ := rfl

/-- The estate after the clock was read. -/
def tick (s : Estate π) : Estate π := { s with readings := fun n => s.readings (n + 1) }

/-- The estate after an access that leaves the table `t`. -/
def accessed (s : Estate π) (key : Option String) (t : CheckpointTable) : Estate π :=
  { s with
    stored := t
    past := s.tables
    refusals := Function.update s.refusals key fun n => s.refusals key (n + 1) }

/-- The clock. -/
def clock : StateM (Estate π) Instant := fun s => (s.readings 0, s.tick)

/-- What the store does, unless it refuses; then nothing changes. -/
def access (key : Option String) (act : CheckpointTable → α × CheckpointTable) :
    StateM (Estate π) (Except Error α) := fun s =>
  match s.refusals key 0 with
  | some e => (.error e, s.accessed key s.stored)
  | none => (.ok (act s.stored).1, s.accessed key (act s.stored).2)

/-- The store of the checkpoints. -/
def store : CheckpointStore (Estate π) where
  get group name := access (some name) fun t => (t.get? group name, t)
  put c := access (some c.pipeline) fun t => ((), t.put c)
  delete group name := access (some name) fun t => ((), t.delete group name)
  list group := access none fun t => (t.list group, t)

variable {s : Estate π} {key : Option String} {act : CheckpointTable → α × CheckpointTable}

/-- A refused access changes no table. -/
theorem access_of_refused {e : Error} (h : s.refusals key 0 = some e) :
    access key act s = (.error e, s.accessed key s.stored) := by
  rw [access, h]

/-- A granted access does what it is for. -/
theorem access_of_granted (h : s.refusals key 0 = none) :
    access key act s = (.ok (act s.stored).1, s.accessed key (act s.stored).2) := by
  rw [access, h]

@[simp] theorem accessed_work (s : Estate π) (key : Option String) (t : CheckpointTable) :
    (s.accessed key t).work = s.work := rfl

@[simp] theorem accessed_stored (s : Estate π) (key : Option String) (t : CheckpointTable) :
    (s.accessed key t).stored = t := rfl

@[simp] theorem accessed_tables (s : Estate π) (key : Option String) (t : CheckpointTable) :
    (s.accessed key t).tables = t :: s.tables := rfl

@[simp] theorem accessed_readings (s : Estate π) (key : Option String) (t : CheckpointTable) :
    (s.accessed key t).readings = s.readings := rfl

@[simp] theorem accessed_refusals_self (s : Estate π) (key : Option String) (t : CheckpointTable)
    (n : Nat) : (s.accessed key t).refusals key n = s.refusals key (n + 1) := by
  simp [accessed]

/-- An access for one job takes no turn of another. -/
theorem accessed_refusals_of_ne (s : Estate π) (t : CheckpointTable) {other : Option String}
    (h : other ≠ key) : (s.accessed key t).refusals other = s.refusals other :=
  Function.update_of_ne h _ _

end Estate

/-! ## Parts of a run -/

namespace Orchestrator

variable {ω : Type} {o : Orchestrator ω} {job : Job ω} {name : String} {now : Instant}
  {w w₁ w₂ : ω}

/-- A run does not begin if its checkpoint cannot be read. -/
theorem begin_of_unread {e : Error} (hget : o.store.get o.group name w = (.error e, w₁)) :
    o.begin name now w = (.error e, w₁) := by
  simp only [begin, readCheckpoint, bind, StateT.bind, hget]
  rfl

/-- A checkpoint that was read is marked. -/
theorem begin_of_read {stored : Option Checkpoint} {previous : Checkpoint}
    (hget : o.store.get o.group name w = (.ok stored, w₁))
    (hprevious : stored.getD (.neverRun o.group name o.initial) = previous)
    {r : Except Error Unit} (hput : o.store.put (previous.loading now) w₁ = (r, w₂)) :
    o.begin name now w = (r.map fun () => previous, w₂) := by
  subst hprevious
  simp only [begin, readCheckpoint, bind, StateT.bind, hget]
  change (o.store.put _ >>= fun r => pure (r.map fun () => _) : StateM ω _) w₁ = _
  simp only [bind, StateT.bind, hput]
  rfl

/-- A run that does not begin is reported as failed. -/
theorem runJob_of_skipped (hclock : o.clock w = (now, w₁)) {e : Error}
    (hbegin : o.begin job.name now w₁ = (.error e, w₂)) :
    o.runJob job w = (.ok (o.skipped job.name e), w₂) := by
  simp only [runJob, bind, StateT.bind, hclock, hbegin]
  rfl

/-- A run that has begun executes its job and records the report. -/
theorem runJob_of_begun (hclock : o.clock w = (now, w₁)) {previous : Checkpoint}
    (hbegin : o.begin job.name now w₁ = (.ok previous, w₂)) {outcome : Attempt PipelineResult}
    {w₃ : ω} (hwork : job.execute ⟨o.group, ⟨previous.upTo, now⟩, max o.batchSize 1⟩ w₂
      = (outcome, w₃)) :
    o.runJob job w = o.record previous now (o.reportOf job.name previous.upTo outcome) w₃ := by
  simp only [runJob, bind, StateT.bind, hclock, hbegin, hwork]

section Record

variable {previous : Checkpoint} {report : RunReport}

/-- A report is recorded if its totals fit and the store takes the checkpoint. -/
theorem record_of_ok (hfit : (checkpointOf previous now report).TotalsFit)
    (hput : o.store.put (checkpointOf previous now report) w = (.ok (), w₁)) :
    o.record previous now report w = (.ok report, w₁) := by
  rw [record, if_neg (not_not_intro hfit)]
  simp only [bind, StateT.bind, hput]
  rfl

/-- A report that cannot be stored is reported as failed. -/
theorem record_of_error (hfit : (checkpointOf previous now report).TotalsFit) {e : Error}
    (hput : o.store.put (checkpointOf previous now report) w = (.error e, w₁)) :
    o.record previous now report w = (.ok { report with
      status := .failed
      message := joinMessages report.message e.message }, w₁) := by
  rw [record, if_neg (not_not_intro hfit)]
  simp only [bind, StateT.bind, hput]
  rfl

/-- Totals that do not fit panic before the store is accessed. -/
theorem record_of_overflow (hfit : ¬(checkpointOf previous now report).TotalsFit) (w : ω) :
    o.record previous now report w = (.error .counterOverflow, w) := by
  rw [record, if_pos hfit]
  rfl

/-- A report is written, whatever is told about it, or nothing happens. -/
theorem record_world (o : Orchestrator ω) (previous : Checkpoint) (now : Instant)
    (report : RunReport) (w : ω) : (o.record previous now report w).2 = w ∨
      (o.record previous now report w).2
        = (o.store.put (checkpointOf previous now report) w).2 := by
  by_cases hfit : (checkpointOf previous now report).TotalsFit
  · refine .inr ?_
    rcases hput : o.store.put (checkpointOf previous now report) w with ⟨err | ⟨⟩, w'⟩
    · rw [record_of_error hfit hput]
    · rw [record_of_ok hfit hput]
  · exact .inl (by rw [record_of_overflow hfit])

end Record

/-! ## Jobs one after the other -/

/-- A job is found by its name. -/
theorem find?_of_nodup {jobs : List (Job ω)} (hnames : (jobs.map (·.name)).Nodup)
    (hjob : job ∈ jobs) : jobs.find? (fun other => other.name = job.name) = some job := by
  induction jobs with
  | nil => cases hjob
  | cons head tail ih =>
    obtain ⟨hhead, htail⟩ := List.nodup_cons.mp hnames
    rcases List.mem_cons.mp hjob with rfl | hjob
    · simp
    · have hne : head.name ≠ job.name := fun heq =>
        hhead (List.mem_map.mpr ⟨job, hjob, heq.symm⟩)
      simpa [hne] using ih htail hjob

/-- A job that is found by its name is run. -/
theorem run_of_find? (h : o.jobs.find? (fun job => job.name = name) = some job) (w : ω) :
    o.run name w = ((o.runJob job w).1.mapError .panic, (o.runJob job w).2) := by
  rw [run, h]
  rfl

variable {jobs front back : List (Job ω)} {report : RunReport} {reports : List RunReport}

/-- After a report the other jobs are run. -/
theorem runJobs_cons_of_ok (h : o.runJob job w = (.ok report, w₁)) (jobs : List (Job ω)) :
    o.runJobs (job :: jobs) w =
      ((o.runJobs jobs w₁).1.map (report :: ·), (o.runJobs jobs w₁).2) := by
  simp only [runJobs, bind, StateT.bind, h]
  rfl

/-- A panic stops the jobs after it. -/
theorem runJobs_cons_of_error {p : Panic} (h : o.runJob job w = (.error p, w₁))
    (jobs : List (Job ω)) : o.runJobs (job :: jobs) w = (.error p, w₁) := by
  simp only [runJobs, bind, StateT.bind, h]
  rfl

/-- Jobs that are all reported begin with one that is. -/
theorem reported_of_runJobs_cons (h : o.runJobs (job :: jobs) w = (.ok reports, w₂)) :
    ∃ report others w₁, o.runJob job w = (.ok report, w₁) ∧ o.runJobs jobs w₁ = (.ok others, w₂) ∧
      reports = report :: others := by
  rcases hfirst : o.runJob job w with ⟨p | report, w₁⟩
  · rw [runJobs_cons_of_error hfirst] at h
    cases h
  rw [runJobs_cons_of_ok hfirst] at h
  rcases hrest : o.runJobs jobs w₁ with ⟨p | others, w₃⟩ <;> rw [hrest] at h
  · cases h
  · obtain ⟨hreports, rfl⟩ := Prod.mk.inj h
    exact ⟨report, others, w₁, rfl, hrest, (Except.ok.inj hreports).symm⟩

/-- Jobs in a row that are all reported come one after the other. -/
theorem reported_of_runJobs_append (h : o.runJobs (front ++ back) w = (.ok reports, w₂)) :
    ∃ first others w₁, o.runJobs front w = (.ok first, w₁) ∧ o.runJobs back w₁ = (.ok others, w₂) ∧
      reports = first ++ others := by
  induction front generalizing w reports with
  | nil => exact ⟨[], reports, w, rfl, h, rfl⟩
  | cons job front ih =>
    obtain ⟨report, rest, w₁, hjob, hrest, rfl⟩ := reported_of_runJobs_cons h
    obtain ⟨first, others, w₃, hfront, hback, rfl⟩ := ih hrest
    refine ⟨report :: first, others, w₃, ?_, hback, rfl⟩
    rw [runJobs_cons_of_ok hjob, hfront]
    rfl

/-- Reports are handed out if their rows can be counted. -/
theorem countedReports_eq_ok_iff {counted : List RunReport} :
    countedReports reports = .ok counted ↔
      sumRows reports ≤ LoadResult.maxRows ∧ counted = reports := by
  unfold countedReports
  split_ifs with h
  · simp [Nat.not_le.mpr h]
  · simp [Nat.not_lt.mp h, eq_comm]

/-- **All jobs are reported** if each of them is and their rows can be counted. -/
theorem runAll_eq_ok_iff : (o.runAll w).1 = .ok reports ↔
    (o.runJobs o.jobs w).1 = .ok reports ∧ sumRows reports ≤ LoadResult.maxRows := by
  change (o.runJobs o.jobs w).1.bind countedReports = .ok reports ↔ _
  rcases (o.runJobs o.jobs w).1 with p | all
  · simp [Except.bind]
  · simp only [Except.bind, countedReports_eq_ok_iff, Except.ok.injEq]
    constructor
    · rintro ⟨hle, rfl⟩
      exact ⟨rfl, hle⟩
    · rintro ⟨rfl, hle⟩
      exact ⟨hle, rfl⟩

end Orchestrator

/-! ## One run -/

namespace Roster

variable {π : Type}

/-- The orchestrator in an estate. -/
def orchestrator (roster : Roster π) : Orchestrator (Estate π) where
  group := roster.group
  jobs := roster.jobs.map (·.within Estate.region)
  store := Estate.store
  clock := Estate.clock
  batchSize := roster.batchSize
  initial := roster.initial

/-- Runs one job. -/
def runJob (roster : Roster π) (job : Job π) : StateM (Estate π) (Except Panic RunReport) :=
  roster.orchestrator.runJob (job.within Estate.region)

/-- The checkpoint that a run of a job starts from. -/
def previous (roster : Roster π) (job : Job π) (s : Estate π) : Checkpoint :=
  (s.stored.get? roster.group job.name).getD (.neverRun roster.group job.name roster.initial)

/-- What the execution of a job comes to, and what it leaves. -/
def execution (roster : Roster π) (job : Job π) (s : Estate π) : Attempt PipelineResult × π :=
  job.execute ⟨roster.group, ⟨(roster.previous job s).upTo, s.readings 0⟩, max roster.batchSize 1⟩
    s.work

/-- What is told about a run that can be recorded. -/
def report (roster : Roster π) (job : Job π) (s : Estate π) : RunReport :=
  roster.orchestrator.reportOf job.name (roster.previous job s).upTo (roster.execution job s).1

/-- The estate after the checkpoint of a job was read. -/
def afterRead (job : Job π) (s : Estate π) : Estate π := s.tick.accessed (some job.name) s.stored

/-- The estate after the checkpoint of a job was marked. -/
def afterMark (roster : Roster π) (job : Job π) (s : Estate π) : Estate π :=
  (afterRead job s).accessed (some job.name)
    (s.stored.put ((roster.previous job s).loading (s.readings 0)))

/-- The estate after a job was executed. -/
def afterWork (roster : Roster π) (job : Job π) (s : Estate π) : Estate π :=
  { roster.afterMark job s with work := (roster.execution job s).2 }

variable (roster : Roster π) {job : Job π} {s : Estate π}

/-- A run starts from a checkpoint of its own. -/
theorem previous_labels (hs : s.stored.Labelled) :
    (roster.previous job s).group = roster.group ∧ (roster.previous job s).pipeline = job.name := by
  unfold previous
  rcases hget : s.stored.get? roster.group job.name with _ | c
  · exact ⟨rfl, rfl⟩
  · exact hs _ _ c hget

theorem afterRead_refusals (n : Nat) :
    (afterRead job s).refusals (some job.name) n = s.refusals (some job.name) (n + 1) :=
  Estate.accessed_refusals_self s.tick (some job.name) s.stored n

theorem afterMark_refusals (n : Nat) :
    (roster.afterMark job s).refusals (some job.name) n = s.refusals (some job.name) (n + 2) :=
  (Estate.accessed_refusals_self (afterRead job s) (some job.name)
    (s.stored.put ((roster.previous job s).loading (s.readings 0))) n).trans
    (afterRead_refusals (n + 1))

theorem afterWork_refusals (n : Nat) :
    (roster.afterWork job s).refusals (some job.name) n = s.refusals (some job.name) (n + 2) :=
  roster.afterMark_refusals n

theorem clock_eq (s : Estate π) : roster.orchestrator.clock s = (s.readings 0, s.tick) := rfl

/-- The read of a checkpoint is refused. -/
theorem get_of_refused {e : Error} (h : s.refusals (some job.name) 0 = some e) :
    roster.orchestrator.store.get roster.group job.name s
      = (.error e, s.accessed (some job.name) s.stored) :=
  Estate.access_of_refused h

/-- The read of a checkpoint gives what is stored. -/
theorem get_of_granted (h : s.refusals (some job.name) 0 = none) :
    roster.orchestrator.store.get roster.group job.name s
      = (.ok (s.stored.get? roster.group job.name), s.accessed (some job.name) s.stored) :=
  Estate.access_of_granted h

/-- The write of a checkpoint is refused, and the table stays. -/
theorem put_of_refused {c : Checkpoint} (hc : c.pipeline = job.name) {e : Error}
    (h : s.refusals (some job.name) 0 = some e) :
    roster.orchestrator.store.put c s = (.error e, s.accessed (some job.name) s.stored) := by
  change Estate.access (some c.pipeline) (fun t => ((), t.put c)) s = _
  rw [hc]
  exact Estate.access_of_refused h

/-- The write of a checkpoint changes the table. -/
theorem put_of_granted {c : Checkpoint} (hc : c.pipeline = job.name)
    (h : s.refusals (some job.name) 0 = none) :
    roster.orchestrator.store.put c s = (.ok (), s.accessed (some job.name) (s.stored.put c)) := by
  change Estate.access (some c.pipeline) (fun t => ((), t.put c)) s = _
  rw [hc]
  exact Estate.access_of_granted h

/-- **The checkpoint cannot be read.** -/
theorem runJob_of_unread {e : Error} (h₀ : s.refusals (some job.name) 0 = some e) :
    roster.runJob job s = (.ok (roster.orchestrator.skipped job.name e), afterRead job s) :=
  Orchestrator.runJob_of_skipped (roster.clock_eq s)
    (Orchestrator.begin_of_unread (roster.get_of_refused h₀))

/-- What marking the checkpoint of a job comes to. -/
theorem begin_of_granted (h₀ : s.refusals (some job.name) 0 = none) {r : Except Error Unit}
    {s' : Estate π} (hput : roster.orchestrator.store.put
      ((roster.previous job s).loading (s.readings 0)) (afterRead job s) = (r, s')) :
    roster.orchestrator.begin job.name (s.readings 0) s.tick
      = (r.map fun () => roster.previous job s, s') := by
  have hget : roster.orchestrator.store.get roster.group job.name s.tick
      = (.ok (s.stored.get? roster.group job.name), afterRead job s) :=
    roster.get_of_granted h₀
  exact Orchestrator.begin_of_read hget rfl hput

/-- **The checkpoint cannot be marked.** -/
theorem runJob_of_unmarked (hs : s.stored.Labelled) (h₀ : s.refusals (some job.name) 0 = none)
    {e : Error} (h₁ : s.refusals (some job.name) 1 = some e) :
    roster.runJob job s = (.ok (roster.orchestrator.skipped job.name e),
      (afterRead job s).accessed (some job.name) s.stored) := by
  have hname : ((roster.previous job s).loading (s.readings 0)).pipeline = job.name :=
    (roster.previous_labels hs).2
  have hput := roster.put_of_refused hname ((afterRead_refusals 0).trans h₁)
  exact Orchestrator.runJob_of_skipped (roster.clock_eq s) (roster.begin_of_granted h₀ hput)

/-- A run begins if its checkpoint can be read and marked. -/
theorem begin_of_marked (hs : s.stored.Labelled) (h₀ : s.refusals (some job.name) 0 = none)
    (h₁ : s.refusals (some job.name) 1 = none) :
    roster.orchestrator.begin job.name (s.readings 0) s.tick
      = (.ok (roster.previous job s), roster.afterMark job s) := by
  have hname : ((roster.previous job s).loading (s.readings 0)).pipeline = job.name :=
    (roster.previous_labels hs).2
  have hput := roster.put_of_granted hname ((afterRead_refusals 0).trans h₁)
  exact roster.begin_of_granted h₀ hput

/-- A run that has begun executes the job and records the report. -/
theorem runJob_of_marked (hs : s.stored.Labelled) (h₀ : s.refusals (some job.name) 0 = none)
    (h₁ : s.refusals (some job.name) 1 = none) :
    roster.runJob job s = roster.orchestrator.record (roster.previous job s) (s.readings 0)
      (roster.report job s) (roster.afterWork job s) :=
  Orchestrator.runJob_of_begun (roster.clock_eq s) (roster.begin_of_marked hs h₀ h₁) rfl

/-- The checkpoint that records the report of a run. -/
def recorded (roster : Roster π) (job : Job π) (s : Estate π) : Checkpoint :=
  Orchestrator.checkpointOf (roster.previous job s) (s.readings 0) (roster.report job s)

/-- The checkpoint of a run has the labels of its job. -/
theorem recorded_labels (hs : s.stored.Labelled) :
    (roster.recorded job s).group = roster.group ∧ (roster.recorded job s).pipeline = job.name :=
  roster.previous_labels hs

/-- While a job is at work its checkpoint is marked. -/
theorem marked_get? (hs : s.stored.Labelled) :
    (roster.afterWork job s).stored.get? roster.group job.name
      = some ((roster.previous job s).loading (s.readings 0)) := by
  obtain ⟨hgroup, hname⟩ := roster.previous_labels hs
  exact (CheckpointTable.get?_put _ _ _ _).trans (if_pos ⟨hgroup.symm, hname.symm⟩)

/-- A checkpoint that was put is the one of its job. -/
theorem recorded_get? (job : Job π) (hs : s.stored.Labelled) (t : CheckpointTable) :
    (t.put (roster.recorded job s)).get? roster.group job.name
      = some (roster.recorded job s) := by
  obtain ⟨hgroup, hname⟩ := roster.recorded_labels hs
  exact (CheckpointTable.get?_put _ _ _ _).trans (if_pos ⟨hgroup.symm, hname.symm⟩)

section Recording

variable (hs : s.stored.Labelled) (h₀ : s.refusals (some job.name) 0 = none)
  (h₁ : s.refusals (some job.name) 1 = none)

include hs h₀ h₁

/-- **The totals are too great.** -/
theorem runJob_of_overflow (hfit : ¬(roster.recorded job s).TotalsFit) :
    roster.runJob job s = (.error .counterOverflow, roster.afterWork job s) := by
  rw [roster.runJob_of_marked hs h₀ h₁]
  exact Orchestrator.record_of_overflow hfit _

variable (hfit : (roster.recorded job s).TotalsFit)

include hfit

/-- **The report cannot be recorded.** -/
theorem runJob_of_unrecorded {e : Error} (h₂ : s.refusals (some job.name) 2 = some e) :
    roster.runJob job s =
      (.ok { roster.report job s with
          status := .failed
          message := joinMessages (roster.report job s).message e.message },
        (roster.afterWork job s).accessed (some job.name) (roster.afterWork job s).stored) := by
  have hnext := (roster.afterWork_refusals 0).trans h₂
  have hput := roster.put_of_refused (roster.recorded_labels hs).2 hnext
  rw [roster.runJob_of_marked hs h₀ h₁]
  exact Orchestrator.record_of_error hfit hput

/-- **The report is recorded.** -/
theorem runJob_of_recorded (h₂ : s.refusals (some job.name) 2 = none) :
    roster.runJob job s = (.ok (roster.report job s),
      (roster.afterWork job s).accessed (some job.name)
        ((roster.afterWork job s).stored.put (roster.recorded job s))) := by
  have hnext := (roster.afterWork_refusals 0).trans h₂
  have hput := roster.put_of_granted (roster.recorded_labels hs).2 hnext
  rw [roster.runJob_of_marked hs h₀ h₁]
  exact Orchestrator.record_of_ok hfit hput

end Recording

/-- **What a run of a job can do.** -/
theorem runJob_cases (hs : s.stored.Labelled) {P : Except Panic RunReport × Estate π → Prop}
    (unread : ∀ e, P (.ok (roster.orchestrator.skipped job.name e), afterRead job s))
    (unmarked : ∀ e, P (.ok (roster.orchestrator.skipped job.name e),
      (afterRead job s).accessed (some job.name) s.stored))
    (overflowed : s.refusals (some job.name) 0 = none → s.refusals (some job.name) 1 = none →
      ¬(roster.recorded job s).TotalsFit → P (.error .counterOverflow, roster.afterWork job s))
    (unrecorded : ∀ e, s.refusals (some job.name) 0 = none → s.refusals (some job.name) 1 = none →
      P (.ok { roster.report job s with
          status := .failed
          message := joinMessages (roster.report job s).message (some e) },
        (roster.afterWork job s).accessed (some job.name) (roster.afterWork job s).stored))
    (recorded : s.refusals (some job.name) 0 = none → s.refusals (some job.name) 1 = none →
      (roster.recorded job s).TotalsFit →
      P (.ok (roster.report job s), (roster.afterWork job s).accessed (some job.name)
        ((roster.afterWork job s).stored.put (roster.recorded job s)))) :
    P (roster.runJob job s) := by
  rcases h₀ : s.refusals (some job.name) 0 with _ | e
  swap
  · rw [roster.runJob_of_unread h₀]
    exact unread e
  rcases h₁ : s.refusals (some job.name) 1 with _ | e
  swap
  · rw [roster.runJob_of_unmarked hs h₀ h₁]
    exact unmarked e
  by_cases hfit : (roster.recorded job s).TotalsFit
  swap
  · rw [roster.runJob_of_overflow hs h₀ h₁ hfit]
    exact overflowed h₀ h₁ hfit
  rcases h₂ : s.refusals (some job.name) 2 with _ | e
  · rw [roster.runJob_of_recorded hs h₀ h₁ hfit h₂]
    exact recorded h₀ h₁ hfit
  · rw [roster.runJob_of_unrecorded hs h₀ h₁ hfit h₂]
    exact unrecorded e.message h₀ h₁

/-- A run keeps the labels. -/
theorem runJob_labelled (hs : s.stored.Labelled) : (roster.runJob job s).2.stored.Labelled :=
  roster.runJob_cases hs (P := fun out => out.2.stored.Labelled) (fun _ => hs) (fun _ => hs)
    (fun _ _ _ => hs.put _) (fun _ _ _ => hs.put _) fun _ _ _ => (hs.put _).put _

/-- A job that is found by its name is run. -/
theorem run_of_find? {name : String}
    (h : roster.jobs.find? (fun job => job.name = name) = some job) (s : Estate π) :
    roster.orchestrator.run name s
      = ((roster.runJob job s).1.mapError .panic, (roster.runJob job s).2) := by
  have hfind : roster.orchestrator.jobs.find? (fun job => job.name = name)
      = some (job.within Estate.region) := by
    change (roster.jobs.map _).find? _ = _
    rw [List.find?_map]
    exact congrArg (Option.map _) h
  exact Orchestrator.run_of_find? hfind s

/-- What is reported by name is the report of the job. -/
theorem runJob_of_run {name : String}
    (h : roster.jobs.find? (fun job => job.name = name) = some job) {report : RunReport}
    {s' : Estate π} (hrun : roster.orchestrator.run name s = (.ok report, s')) :
    roster.runJob job s = (.ok report, s') := by
  rw [roster.run_of_find? h] at hrun
  rcases hjob : roster.runJob job s with ⟨p | report, s'⟩ <;> rw [hjob] at hrun
  · cases hrun
  · cases hrun
    rfl

end Roster

end Ingest
