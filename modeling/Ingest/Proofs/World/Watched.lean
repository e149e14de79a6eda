import Ingest.Proofs.Advancing
import Ingest.Proofs.Simulation

/-!
# Proofs/World/Watched — an estate with a watcher

A watcher of an orchestrator writes down each execution of a job and each access to the store for
one pipeline, with the table of checkpoints that it leaves (`Orchestrator.watched`). Orchestrators
that cannot tell two worlds apart do the same in them (`Orchestrator.Like`). Main statement:
`Roster.observed_eq` — nothing changes if somebody watches.
-/

namespace Ingest

/-! ## Orchestrators that cannot tell two worlds apart -/

section Like

variable {ω ω' : Type} {R : ω → ω' → Prop}

/-- In worlds that `R` pairs the jobs answer alike. -/
structure Job.Like (R : ω → ω' → Prop) (job : Job ω) (job' : Job ω') : Prop where
  name : job.name = job'.name
  execute : ∀ e, Simulates R id (job.execute e) (job'.execute e)
  cleanUp : ∀ group, Simulates R id (job.cleanUp group) (job'.cleanUp group)

/-- In worlds that `R` pairs the clocks, the stores and the jobs answer alike. -/
structure Orchestrator.Like (R : ω → ω' → Prop) (o : Orchestrator ω) (o' : Orchestrator ω') :
    Prop where
  group : o.group = o'.group
  batchSize : o.batchSize = o'.batchSize
  initial : o.initial = o'.initial
  jobs : List.Forall₂ (Job.Like R) o.jobs o'.jobs
  clock : Simulates R id o.clock o'.clock
  get : ∀ group name, Simulates R id (o.store.get group name) (o'.store.get group name)
  put : ∀ c, Simulates R id (o.store.put c) (o'.store.put c)
  delete : ∀ group name, Simulates R id (o.store.delete group name) (o'.store.delete group name)

namespace Orchestrator

variable {o : Orchestrator ω} {o' : Orchestrator ω'} {job : Job ω} {job' : Job ω'}

/-- Alike orchestrators begin their runs alike. -/
theorem begin_simulates (h : o.Like R o') (name : String) (now : Instant) :
    Simulates R id (o.begin name now) (o'.begin name now) := by
  have hread : Simulates R id (o.readCheckpoint name) (o'.readCheckpoint name) := by
    unfold readCheckpoint
    rw [h.group, h.initial]
    exact (h.get _ _).bind fun _ => .pure _ _
  refine hread.bind fun read => ?_
  rcases read with e | previous
  · exact .pure _ _
  · exact (h.put _).bind fun _ => .pure _ _

/-- Alike orchestrators record their reports alike. -/
theorem record_simulates (h : o.Like R o') (previous : Checkpoint) (now : Instant)
    (report : RunReport) :
    Simulates R id (o.record previous now report) (o'.record previous now report) := by
  unfold record
  split_ifs
  swap
  · exact .pure _ _
  · exact (h.put _).bind fun recorded => by cases recorded <;> exact .pure _ _

/-- **Runs of like jobs** come to the same. -/
theorem runJob_simulates (h : o.Like R o') (hjob : job.Like R job') :
    Simulates R id (o.runJob job) (o'.runJob job') := by
  unfold runJob
  rw [← hjob.name, ← h.group, ← h.batchSize]
  refine h.clock.bind fun now => (begin_simulates h _ _).bind fun begun => ?_
  rcases begun with e | previous
  · have hskipped : o'.skipped job.name e = o.skipped job.name e := by
      rw [skipped, skipped, h.group, h.initial]
    simp only [id, hskipped]
    exact .pure _ _
  refine (hjob.execute _).bind fun outcome => ?_
  have hreport : o'.reportOf job.name previous.upTo outcome
      = o.reportOf job.name previous.upTo outcome := by
    cases outcome <;> simp only [reportOf, h.group]
  change Simulates R id (o.record _ _ _) (o'.record _ _ (o'.reportOf _ _ outcome))
  rw [hreport]
  exact record_simulates h _ _ _

/-- Alike orchestrators run all jobs alike. -/
theorem runJobs_simulates (h : o.Like R o') {jobs : List (Job ω)} {jobs' : List (Job ω')}
    (hjobs : List.Forall₂ (Job.Like R) jobs jobs') :
    Simulates R id (o.runJobs jobs) (o'.runJobs jobs') := by
  induction hjobs with
  | nil => exact .pure _ _
  | cons hjob _ ih =>
    refine (runJob_simulates h hjob).bind fun out => ?_
    rcases out with p | report
    · exact .pure _ _
    · exact ih.bind fun _ => .pure _ _

theorem forEachJob_simulates {act : Job ω → StateM ω (Except Error Unit)}
    {act' : Job ω' → StateM ω' (Except Error Unit)}
    (hact : ∀ job job', job.Like R job' → Simulates R id (act job) (act' job'))
    {jobs : List (Job ω)} {jobs' : List (Job ω')} (hjobs : List.Forall₂ (Job.Like R) jobs jobs') :
    Simulates R id (forEachJob act jobs) (forEachJob act' jobs') := by
  induction hjobs with
  | nil => exact .pure _ _
  | cons hjob _ ih =>
    refine (hact _ _ hjob).bind fun done => ?_
    rcases done with e | ⟨⟩
    · exact .pure _ _
    · exact ih

/-- Like jobs are found at the same place. -/
theorem find?_like {jobs : List (Job ω)} {jobs' : List (Job ω')}
    (hjobs : List.Forall₂ (Job.Like R) jobs jobs') (name : String) :
    Option.Rel (Job.Like R) (jobs.find? fun job => job.name = name)
      (jobs'.find? fun job => job.name = name) := by
  induction hjobs with
  | nil => exact .none
  | cons hjob _ ih =>
    rw [List.find?_cons, List.find?_cons, hjob.name]
    split
    · exact .some hjob
    · exact ih

/-- **Like orchestrators** do alike what they are told. -/
theorem perform_simulates (h : o.Like R o') (command : Plan.Command) :
    Simulates R id (command.perform o) (command.perform o') := by
  have hall : Simulates R id o.runAll o'.runAll :=
    (runJobs_simulates h h.jobs).bind fun _ => .pure _ _
  cases command with
  | run name =>
    refine Simulates.bind (f := id) ?_ fun _ => .pure _ _
    have hfind := find?_like h.jobs name
    unfold run
    generalize o.jobs.find? _ = found at hfind ⊢
    generalize o'.jobs.find? _ = found' at hfind ⊢
    cases hfind with
    | some hjob => exact (runJob_simulates h hjob).bind fun _ => .pure _ _
    | none => exact .pure _ _
  | runAll => exact hall.bind fun _ => .pure _ _
  | rerun deleteData =>
    refine Simulates.bind (f := id) ?_ fun _ => .pure _ _
    unfold rerun
    rw [h.group]
    refine Simulates.bind (f := id)
      (forEachJob_simulates (fun job job' hjob => hjob.name ▸ h.delete _ _) h.jobs)
      fun forgotten => ?_
    rcases forgotten with e | ⟨⟩
    · exact .pure _ _
    have hemptied : List.Forall₂ (Job.Like R) (if deleteData then o.jobs else [])
        (if deleteData then o'.jobs else []) := by
      cases deleteData
      · exact .nil
      · exact h.jobs
    refine Simulates.bind (f := id)
      (forEachJob_simulates (fun job job' hjob => hjob.cleanUp _) hemptied) fun emptied => ?_
    rcases emptied with e | ⟨⟩
    · exact .pure _ _
    · exact hall.bind fun _ => .pure _ _

end Orchestrator

end Like

/-! ## The watcher -/

/-- The rows that an execution reports; none if it gets no result. -/
def reportedRows : Attempt PipelineResult → Nat
  | .ok r => r.rows
  | .error _ => 0

namespace Estate

/-- What a watcher writes down. -/
inductive Deed where
  /-- The checkpoint was to be read. -/
  | read
  /-- The job was executed and reported these rows. -/
  | executed (rows : Nat)
  /-- The checkpoint was to be written. -/
  | wrote (granted : Bool)
  /-- The checkpoint was to be forgotten. -/
  | forgot (granted : Bool)
deriving DecidableEq

/-- The rows of an execution. -/
def Deed.rows? : Deed → Option Nat
  | executed rows => some rows
  | _ => none

/-- What was done for a pipeline, and the checkpoints after it. -/
structure Entry where
  /-- The name of the pipeline. -/
  name : String
  /-- What was done. -/
  deed : Deed
  /-- The checkpoints. -/
  stored : CheckpointTable

variable {π α : Type}

/-- Does something that is written down. -/
def noted (name : String) (deed : α → Deed) (m : StateM (Estate π) α) :
    StateM (Estate π × List Entry) α := fun (s, log) =>
  let (x, s) := m s
  (x, s, log ++ [⟨name, deed x, s.stored⟩])

/-- Does something that is not written down. -/
def unnoted (m : StateM (Estate π) α) : StateM (Estate π × List Entry) α := fun (s, log) =>
  let (x, s) := m s
  (x, s, log)

end Estate

open Estate

variable {π α : Type}

/-- The job with a watcher. -/
def Job.watched (job : Job (Estate π)) : Job (Estate π × List Entry) where
  name := job.name
  execute e := noted job.name (fun outcome => .executed (reportedRows outcome)) (job.execute e)
  cleanUp group := unnoted (job.cleanUp group)

/-- The store with a watcher. -/
def CheckpointStore.watched (store : CheckpointStore (Estate π)) :
    CheckpointStore (Estate π × List Entry) where
  get group name := noted name (fun _ => .read) (store.get group name)
  put c := noted c.pipeline (fun r => .wrote r.toBool) (store.put c)
  delete group name := noted name (fun r => .forgot r.toBool) (store.delete group name)
  list group := unnoted (store.list group)

/-- The orchestrator with a watcher. -/
def Orchestrator.watched (o : Orchestrator (Estate π)) : Orchestrator (Estate π × List Entry) where
  group := o.group
  jobs := o.jobs.map Job.watched
  store := o.store.watched
  clock := unnoted o.clock
  batchSize := o.batchSize
  initial := o.initial

/-- What is noted is the deed and the table that it leaves. -/
theorem Estate.noted_eq {m : StateM (Estate π) α} {s s' : Estate π} {x : α} (h : m s = (x, s'))
    (name : String) (deed : α → Deed) (log : List Entry) :
    noted name deed m (s, log) = (x, s', log ++ [⟨name, deed x, s'.stored⟩]) := by
  simp only [noted, h]

/-- Who writes down what is done does the same. -/
theorem Estate.noted_simulates (name : String) (deed : α → Deed) (m : StateM (Estate π) α) :
    Simulates (fun w s => w.1 = s) id (noted name deed m) m := by
  rintro w _ rfl
  exact ⟨rfl, rfl⟩

theorem Estate.unnoted_simulates (m : StateM (Estate π) α) :
    Simulates (fun w s => w.1 = s) id (unnoted m) m := by
  rintro w _ rfl
  exact ⟨rfl, rfl⟩

/-- Apart from what is written down, an orchestrator is like itself with a watcher. -/
theorem Orchestrator.watched_like (o : Orchestrator (Estate π)) :
    o.watched.Like (fun w s => w.1 = s) o where
  group := rfl
  batchSize := rfl
  initial := rfl
  jobs := by
    refine List.forall₂_map_left_iff.mpr (List.forall₂_same.mpr fun job _ => ?_)
    exact ⟨rfl, fun _ => noted_simulates _ _ _, fun _ => unnoted_simulates _⟩
  clock := unnoted_simulates _
  get _ _ := noted_simulates _ _ _
  put _ := noted_simulates _ _ _
  delete _ _ := noted_simulates _ _ _

namespace Roster

/-- The estate after commands that were given one after the other, and what was written down. -/
def observed (roster : Roster π) (commands : List Plan.Command) (s : Estate π) :
    Estate π × List Entry :=
  commands.foldl (fun w command => (command.perform roster.orchestrator.watched w).2) (s, [])

/-- **Nothing changes if somebody watches.** -/
theorem observed_eq (roster : Roster π) (commands : List Plan.Command) (s : Estate π) :
    (roster.observed commands s).1 = roster.performAll commands s := by
  unfold observed performAll
  refine List.foldl_rel (r := fun (w : Estate π × List Entry) s => w.1 = s) rfl ?_
  intro command _ w s hw
  exact (Orchestrator.perform_simulates roster.orchestrator.watched_like command w s hw).2

end Roster

end Ingest
