import Ingest.Proofs.Loading.Batches
import Ingest.Proofs.Resuming

/-!
# Proofs/Reporting — no failure is silent, and no success carries a message

What goes wrong in a run is reported on several ways: by a loader, by the extraction, by the
execution as a whole and by the store of checkpoints. A report is *candid* if it tells failure
exactly when it has a message (`Candid`). Main statement: `reports_candid` — the reports of every
command are candid, so are the checkpoints written at the end of its runs, and a run in which
something went wrong is reported as failed.
-/

namespace Ingest

variable {ω ρ : Type}

/-- A status and a message that tell the same: success, or failure with the message. -/
structure Candid (status : Status) (message : Option String) : Prop where
  ended : status = .success ∨ status = .failed
  failed_iff : status = .failed ↔ message.isSome

theorem Candid.succeeded : Candid .success none := ⟨.inl rfl, by simp⟩

theorem Candid.failed (message : String) : Candid .failed (some message) := ⟨.inr rfl, by simp⟩

/-- A candid status is a success exactly if there is no message. -/
theorem Candid.eq_success_iff {status : Status} {message : Option String}
    (h : Candid status message) : status = .success ↔ message = none := by
  rcases h.ended with hs | hs
  · have hnone : ¬message.isSome := fun hm => nomatch hs.symm.trans (h.failed_iff.mpr hm)
    simpa [hs] using hnone
  · have hsome := h.failed_iff.mp hs
    subst hs
    rcases message with _ | m
    · cases hsome
    · simp

/-! ## Loaders -/

namespace Loading

variable [Timed ρ] {sink : Sink ω ρ} {e : Execution} {items front : List (Except Error (Staged ρ))}
  {s s' : State ρ} {w w₁ : ω} {r : LoadResult}

/-- Until a loader ends its result has no message. -/
theorem step_message {entry : Except Error (Staged ρ)} {ending : Option Ending}
    (h : step sink e s entry w = ((s', ending), w₁)) : s'.total.message = s.total.message := by
  cases step_spec_of_eq h with
  | fault => rfl
  | descends => rfl
  | early => rfl
  | late => rfl
  | gathers => rw [State.accept_total]
  | closes _ _ _ _ _ _ hflush =>
    obtain ⟨-, -, -, -, -, -, -, -, hmessage⟩ := flush_of_none hflush
    rw [State.accept_total, hmessage]
  | loses _ _ _ _ _ _ hflush =>
    rw [(flush_of_some hflush).1]

/-- As long as a loader reads it has no message. -/
theorem Reads.message (h : Reads sink e w front s w₁) : s.total.message = none := by
  induction h with
  | start => rfl
  | next _ hstep ih => rw [step_message hstep, ih]

omit [Timed ρ] in
theorem finish_message (sink : Sink ω ρ) (e : Execution) (s : State ρ) (w : ω) :
    (finish sink e s w).1.1.total.message = s.total.message := by
  rcases hl : s.last with _ | last
  · rw [finish_of_none hl]
  by_cases hempty : s.buffer = []
  · rw [finish_of_nil hl hempty]
  rcases hflush : flush sink e.group (checkpointAfter last s.settled e.window.since) s w with
    ⟨⟨s', _ | ending⟩, w'⟩
  · rw [finish_of_ne_nil hl hempty hflush]
    obtain ⟨-, -, -, -, -, -, -, -, hmessage⟩ := flush_of_none hflush
    exact hmessage
  · rw [finish_of_ne_nil hl hempty hflush]
    rw [(flush_of_some hflush).1]

omit [Timed ρ] in
/-- A failure tells its message. -/
theorem message_add_failed (hs : s.total.message = none) (upTo : Instant) (m : String) :
    (s.total + .failed upTo m).message = some m := by
  change joinMessages s.total.message (some m) = _
  rw [hs]
  rfl

omit [Timed ρ] in
/-- A loader is candid about how it ends. -/
theorem candid_of_conclude (hs : s.total.message = none) {ending : Ending}
    (h : (conclude s ending).result = .ok r) : Candid r.status r.message := by
  cases ending with
  | finished =>
    obtain rfl := Except.ok.inj h
    exact hs ▸ .succeeded
  | failed m =>
    obtain rfl := Except.ok.inj h
    rw [status_add_failed, message_add_failed hs]
    exact .failed m
  | panicked p => cases h

/-- **A loader's result is candid.** -/
theorem candid_of_run (h : (run sink e items w).1.result = .ok r) : Candid r.status r.message := by
  obtain ⟨front, rest, s, w₁, rfl, hreads, hend⟩ := run_cases sink e items w
  rcases hend with ⟨-, hrun⟩ | ⟨entry, back, s', ending, w₂, rfl, hstep, -, hrun⟩
  · rw [hrun] at h
    exact candid_of_conclude ((finish_message sink e s w₁).trans hreads.message) h
  · rw [hrun] at h
    exact candid_of_conclude ((step_message hstep).trans hreads.message) h

/-- Something goes wrong in a loader: a batch is not committed, or it reads up to an error. -/
inductive Mishap (sink : Sink ω ρ) (e : Execution) (items : List (Except Error (Staged ρ)))
    (w : ω) : Prop where
  | lost {c : Commit ρ} {reply : Attempt CommitReply} (h : (c, reply) ∈ handed sink e items w)
      (hlost : took reply = false)
  | error {front back : List (Except Error (Staged ρ))} {err : Error} {s : State ρ} {w₁ : ω}
      (hitems : items = front ++ .error err :: back) (h : Reads sink e w front s w₁)

/-- A loader that succeeds has lost no batch. -/
theorem took_of_success (h : (run sink e items w).1.result = .ok r) (hr : r.status = .success) :
    ∀ entry ∈ handed sink e items w, took entry.2 := by
  obtain ⟨s, ending, hrun, -, -, hfollows⟩ := exists_follows sink e items w
  rw [hrun] at h
  obtain ⟨hhanded, hcommitted⟩ := hfollows (finished_of_success h hr)
  have hall := congrArg List.length hhanded
  rw [List.length_map, numbered, List.length_map, List.length_zipIdx] at hall
  have htaken := congrArg List.length hcommitted
  rw [committedBatches, List.length_map, ← hall] at htaken
  exact List.length_filter_eq_length_iff.mp htaken

/-- **A loader in which something goes wrong** does not succeed. -/
theorem Mishap.not_success (hm : Mishap sink e items w)
    (h : (run sink e items w).1.result = .ok r) : r.status ≠ .success := by
  intro hr
  cases hm with
  | lost hmem hlost => cases hlost.symm.trans (took_of_success h hr _ hmem)
  | error hitems hreads =>
    subst hitems
    rw [hreads.run_of_error] at h
    cases finished_of_success h hr

end Loading

/-! ## Pipelines -/

namespace Pipeline

variable [Timed ρ] {p : Pipeline ω ρ} {e : Execution} {sent : List ρ} {branch : Branch ω ρ}
  {before after : List (Branch ω ρ)} {loaded all : List (String × LoadResult × List LoadEvent)}
  {w w₁ w₂ : ω} {r : PipelineResult}

/-- A loader of an execution is given the stream `items` in the world `w'`. -/
def Loads (p : Pipeline ω ρ) (e : Execution) (w : ω) (branch : Branch ω ρ)
    (items : List (Except Error (Staged ρ))) (w' : ω) : Prop :=
  ∃ extracted w₁, p.extraction.run (pure true) e.group e.window w = (extracted, w₁) ∧
    (∀ cause, extracted.result ≠ .error (.panic cause)) ∧
    items = branch.stage.transform (extracted.sent.map .ok) ∧
    ∃ before after loaded, p.branches = before ++ branch :: after ∧
      loadAll e extracted.sent before w₁ = (.ok loaded, w')

/-- Something goes wrong in an execution: the extraction fails, or something goes wrong in a
loader. -/
inductive Mishap (p : Pipeline ω ρ) (e : Execution) (w : ω) : Prop where
  | extraction {fault : Fault} (hne : p.branches ≠ [])
      (h : (p.extraction.run (pure true) e.group e.window w).1.result = .error fault)
  | loading {branch : Branch ω ρ} {items : List (Except Error (Staged ρ))} {w' : ω}
      (h : p.Loads e w branch items w') (hm : Loading.Mishap branch.sink e items w')

/-- The result of a loader is among the results of all. -/
theorem exists_result_of_loadAll (hbefore : loadAll e sent before w = (.ok loaded, w₁))
    (hall : loadAll e sent (before ++ branch :: after) w = (.ok all, w₂)) :
    ∃ x ∈ all, (Loading.run branch.sink e (branch.stage.transform (sent.map .ok)) w₁).1.result
      = .ok x.2.1 := by
  induction before generalizing w loaded all with
  | nil =>
    obtain ⟨-, rfl⟩ := Prod.mk.inj hbefore
    obtain ⟨r, events, others, v, hfirst, -, rfl⟩ := exists_of_loadAll_cons hall
    exact ⟨_, List.mem_cons_self, by rw [hfirst]⟩
  | cons other before ih =>
    obtain ⟨r, events, earlier, v, hfirst, hearlier, -⟩ := exists_of_loadAll_cons hbefore
    obtain ⟨r', events', others, v', hfirst', hrest, rfl⟩ := exists_of_loadAll_cons hall
    obtain ⟨-, rfl⟩ := Prod.mk.inj (hfirst.symm.trans hfirst')
    obtain ⟨x, hx, hrun⟩ := ih hearlier hrest
    exact ⟨x, List.mem_cons_of_mem _ hx, hrun⟩

omit [Timed ρ] in
/-- A pipeline of candid loaders is candid. -/
theorem candid_conclude (p : Pipeline ω ρ) (since : Instant) (fault : Option Error)
    (h : ∀ x ∈ loaded, Candid x.2.1.status x.2.1.message) :
    Candid (p.conclude since fault loaded).status (p.conclude since fault loaded).message := by
  simp only [conclude, PipelineResult.reduce]
  rcases hwrong : PipelineResult.faults (fault.map p.extractionFault)
    (loaded.map fun l => (l.1, l.2.1)) with _ | ⟨wrong, more⟩
  · -- nothing was reported, so every loader succeeded
    have hsuccess : ((loaded.map fun l => (l.1, l.2.1)).all fun l => l.2.status = .success) := by
      rw [List.all_eq_true]
      intro y hy
      have hnone := List.filterMap_eq_nil_iff.mp (List.append_eq_nil_iff.mp hwrong).2 _ hy
      obtain ⟨x, hx, rfl⟩ := List.mem_map.mp hy
      exact decide_eq_true ((h x hx).eq_success_iff.mpr (by simpa using hnone))
    rw [hwrong, hsuccess]
    exact .succeeded
  · simp only [hwrong, List.isEmpty_cons, Bool.and_false, Bool.false_eq_true, if_false]
    exact .failed _

/-- **An execution is candid.** -/
theorem candid_of_execute (h : (p.toJob.execute e w).1 = .ok r) : Candid r.status r.message := by
  by_cases hbranches : p.branches = []
  · rw [execute_of_isEmpty hbranches] at h
    obtain rfl := Except.ok.inj h
    exact candid_conclude p _ none (by simp)
  obtain ⟨extracted, w₁, loaded, w₂, fault, -, hload, -, rfl⟩ := exists_of_execute hbranches h
  obtain ⟨-, hresults⟩ := loadAll_results hload
  refine candid_conclude p _ fault fun x hx => ?_
  obtain ⟨branch, -, w₃, hrun⟩ := hresults x hx
  exact Loading.candid_of_run hrun

/-- **An execution in which something goes wrong** does not succeed. -/
theorem Mishap.not_success (hm : p.Mishap e w) (h : (p.toJob.execute e w).1 = .ok r) :
    r.status ≠ .success := by
  intro hr
  have hne : p.branches ≠ [] := by
    cases hm with
    | extraction hne => exact hne
    | loading hloads =>
      obtain ⟨-, -, -, -, -, before, after, -, hbranches, -⟩ := hloads
      simp [hbranches]
  obtain ⟨extracted, w₁, loaded, w₂, fault, hextract, hload, hfault, rfl⟩ :=
    exists_of_execute hne h
  obtain ⟨hnone, hsuccess⟩ := of_conclude_success hr
  cases hm with
  | extraction _ hfailed =>
    obtain ⟨progress, hprogress⟩ := hfault.mp hnone
    rw [hextract, hprogress] at hfailed
    cases hfailed
  | loading hloads hmishap =>
    obtain ⟨extracted', w₁', hextract', -, rfl, before, after, earlier, hbranches, hbefore⟩ :=
      hloads
    obtain ⟨rfl, rfl⟩ := Prod.mk.inj (hextract.symm.trans hextract')
    rw [hbranches] at hload
    obtain ⟨x, hx, hrun⟩ := exists_result_of_loadAll hbefore hload
    exact hmishap.not_success hrun (hsuccess x hx)

end Pipeline

/-! ## Runs -/

/-- A pipeline of rows of some type. -/
structure SomePipeline (ω : Type) : Type 1 where
  /-- The rows. -/
  {ρ : Type}
  [timed : Timed ρ]
  /-- The pipeline. -/
  pipeline : Pipeline ω ρ

attribute [instance] SomePipeline.timed

/-- The job of running the pipeline. -/
def SomePipeline.job (p : SomePipeline ω) : Job ω := p.pipeline.toJob

namespace Orchestrator

/-- The orchestrator with these pipelines. -/
def driving (o : Orchestrator ω) (pipelines : List (SomePipeline ω)) : Orchestrator ω :=
  { o with jobs := pipelines.map (·.job) }

/-- What a run that starts at `now` is asked to do. -/
def task (o : Orchestrator ω) (previous : Checkpoint) (now : Instant) : Execution :=
  ⟨o.group, ⟨previous.upTo, now⟩, max o.batchSize 1⟩

/-- A run starts at `now` from a checkpoint, which is marked in the world `w'`. -/
def Begins (o : Orchestrator ω) (name : String) (w : ω) (now : Instant) (previous : Checkpoint)
    (w' : ω) : Prop :=
  ∃ w₁, o.clock w = (now, w₁) ∧ o.begin name now w₁ = (.ok previous, w')

/-- The checkpoint that a run is to write at its end, and the world in which it does. -/
inductive Records (o : Orchestrator ω) (job : Job ω) (w : ω) : Checkpoint → ω → Prop where
  | recorded {now : Instant} {previous : Checkpoint} {w₁ w₂ : ω}
      {outcome : Attempt PipelineResult} (hbegins : o.Begins job.name w now previous w₁)
      (hwork : job.execute (o.task previous now) w₁ = (outcome, w₂)) :
      Records o job w
        (checkpointOf previous now (o.reportOf job.name previous.upTo outcome)) w₂

/-- Something goes wrong in a run of a pipeline: its checkpoint cannot be read, marked or written at
the end, or something goes wrong in its execution. -/
inductive Mishap [Timed ρ] (o : Orchestrator ω) (p : Pipeline ω ρ) (w : ω) : Prop where
  | unread {now : Instant} {w₁ w₂ : ω} {err : Error} (hclock : o.clock w = (now, w₁))
      (hget : o.store.get o.group p.name w₁ = (.error err, w₂))
  | unmarked {now : Instant} {w₁ w₂ w₃ : ω} {stored : Option Checkpoint} {err : Error}
      (hclock : o.clock w = (now, w₁))
      (hget : o.store.get o.group p.name w₁ = (.ok stored, w₂))
      (hput : o.store.put ((stored.getD (.neverRun o.group p.name o.initial)).loading now) w₂
        = (.error err, w₃))
  | execution {now : Instant} {previous : Checkpoint} {w₁ : ω}
      (hbegins : o.Begins p.name w now previous w₁) (hm : p.Mishap (o.task previous now) w₁)
  | unrecorded {c : Checkpoint} {w₁ w₂ : ω} {err : Error} (h : o.Records p.toJob w c w₁)
      (hput : o.store.put c w₁ = (.error err, w₂))

variable {o : Orchestrator ω} {job : Job ω} {name : String} {now : Instant}
  {previous : Checkpoint} {w w₁ w₂ : ω}

/-- A run begins in one way. -/
theorem Begins.unique {now' : Instant} {previous' : Checkpoint}
    (h : o.Begins name w now previous w₁) (h' : o.Begins name w now' previous' w₂) :
    now = now' ∧ previous = previous' ∧ w₁ = w₂ := by
  obtain ⟨v, hclock, hbegin⟩ := h
  obtain ⟨v', hclock', hbegin'⟩ := h'
  obtain ⟨rfl, rfl⟩ := Prod.mk.inj (hclock.symm.trans hclock')
  obtain ⟨hprevious, hworld⟩ := Prod.mk.inj (hbegin.symm.trans hbegin')
  exact ⟨rfl, Except.ok.inj hprevious, hworld⟩

/-- A run is recorded in one way. -/
theorem Records.unique {c : Checkpoint} {outcome : Attempt PipelineResult} {v : ω}
    (hbegins : o.Begins job.name w now previous w₁)
    (hwork : job.execute (o.task previous now) w₁ = (outcome, w₂)) (h : o.Records job w c v) :
    c = checkpointOf previous now (o.reportOf job.name previous.upTo outcome) ∧ v = w₂ := by
  cases h with
  | recorded hbegins' hwork' =>
    obtain ⟨rfl, rfl, rfl⟩ := hbegins.unique hbegins'
    obtain ⟨rfl, rfl⟩ := Prod.mk.inj (hwork.symm.trans hwork')
    exact ⟨rfl, rfl⟩

variable [Timed ρ] {p : Pipeline ω ρ}

/-- A report is candid about the execution. -/
theorem candid_reportOf (previous : Checkpoint) (now : Instant) (w : ω) :
    let report := o.reportOf p.name previous.upTo (p.toJob.execute (o.task previous now) w).1
    Candid report.status report.message := by
  rcases h : (p.toJob.execute (o.task previous now) w).1 with fault | r
  · exact .failed _
  · exact Pipeline.candid_of_execute h

/-- A run that cannot begin leaves no checkpoint; one that begins does not meet a store that
refuses to give or to mark its checkpoint. -/
theorem Mishap.of_begins (h : o.Mishap p w) (hbegins : o.Begins p.name w now previous w₁) :
    p.Mishap (o.task previous now) w₁ ∨
      ∃ c v err v', o.Records p.toJob w c v ∧ o.store.put c v = (.error err, v') := by
  obtain ⟨v, hclock, hbegin⟩ := hbegins
  cases h with
  | unread hclock' hget =>
    obtain ⟨rfl, rfl⟩ := Prod.mk.inj (hclock.symm.trans hclock')
    cases (Prod.mk.inj (hbegin.symm.trans (begin_of_unread hget))).1
  | unmarked hclock' hget hput =>
    obtain ⟨rfl, rfl⟩ := Prod.mk.inj (hclock.symm.trans hclock')
    cases (Prod.mk.inj (hbegin.symm.trans (begin_of_read hget rfl hput))).1
  | execution hbegins' hm =>
    obtain ⟨rfl, rfl, rfl⟩ := Begins.unique ⟨v, hclock, hbegin⟩ hbegins'
    exact .inl hm
  | unrecorded hrecords hput => exact .inr ⟨_, _, _, _, hrecords, hput⟩

/-- A run in which something went wrong reports that it failed, unless its report is all that could
not be written. -/
theorem Mishap.failed_of_begins {outcome : Attempt PipelineResult}
    (h : o.Mishap p w) (hbegins : o.Begins p.name w now previous w₁)
    (hwork : p.toJob.execute (o.task previous now) w₁ = (outcome, w₂))
    (hput : ∀ err v, o.store.put
      (checkpointOf previous now (o.reportOf p.name previous.upTo outcome)) w₂ ≠ (.error err, v)) :
    (o.reportOf p.name previous.upTo outcome).status = .failed := by
  rcases h.of_begins hbegins with h | ⟨c, v, err, v', hc, hrefused⟩
  · rcases outcome with fault | r
    · rfl
    · exact (Pipeline.candid_of_execute (congrArg Prod.fst hwork)).ended.resolve_left
        (h.not_success (congrArg Prod.fst hwork))
  · obtain ⟨rfl, rfl⟩ := Records.unique hbegins hwork hc
    exact absurd hrefused (hput err v')

/-- A run and the checkpoint it writes at its end are candid, and it is reported as failed if
something went wrong in it. It is reported unless its totals are too great. -/
structure CandidRun (o : Orchestrator ω) (p : Pipeline ω ρ) (w : ω) : Prop where
  report : ∀ r, (o.runJob p.toJob w).1 = .ok r → Candid r.status r.message
  checkpoint : ∀ c w', o.Records p.toJob w c w' → Candid c.status c.message ∧
    (c.TotalsFit → (o.runJob p.toJob w).2 = (o.store.put c w').2)
  failed : o.Mishap p w → ∀ r, (o.runJob p.toJob w).1 = .ok r → r.status = .failed
  reported : (∀ c w', o.Records p.toJob w c w' → c.TotalsFit) →
    ∃ r, (o.runJob p.toJob w).1 = .ok r

/-- A run that cannot begin is reported as failed. -/
theorem candidRun_of_skipped (hclock : o.clock w = (now, w₁)) {err : Error}
    (hbegin : o.begin p.name now w₁ = (.error err, w₂)) : o.CandidRun p w := by
  have hrun : o.runJob p.toJob w = (.ok (o.skipped p.name err), w₂) :=
    runJob_of_skipped hclock hbegin
  have hreport : ∀ r, (o.runJob p.toJob w).1 = .ok r → r = o.skipped p.name err := by
    rw [hrun]
    rintro r ⟨⟩
    rfl
  refine ⟨fun r hr => hreport r hr ▸ .failed _, fun c w' hc => ?_, fun _ r hr => hreport r hr ▸ rfl,
    fun _ => ⟨_, by rw [hrun]⟩⟩
  cases hc with
  | recorded hbegins =>
    obtain ⟨v, hclock', hbegin'⟩ := hbegins
    obtain ⟨rfl, rfl⟩ := Prod.mk.inj (hclock.symm.trans hclock')
    cases (Prod.mk.inj (hbegin.symm.trans hbegin')).1

omit [Timed ρ] in
/-- What is told of a report: it stays what it is, or becomes a failure if it cannot be written, or
there is nothing told if its totals are too great. -/
theorem record_cases {report : RunReport} {P : Except Panic RunReport × ω → Prop}
    (overflowed : ¬(checkpointOf previous now report).TotalsFit → P (.error .counterOverflow, w))
    (unrecorded : ∀ err w', (checkpointOf previous now report).TotalsFit →
      o.store.put (checkpointOf previous now report) w = (.error err, w') →
      P (.ok { report with
        status := .failed
        message := joinMessages report.message err.message }, w'))
    (recorded : ∀ w', (checkpointOf previous now report).TotalsFit →
      o.store.put (checkpointOf previous now report) w = (.ok (), w') → P (.ok report, w')) :
    P (o.record previous now report w) := by
  by_cases hfit : (checkpointOf previous now report).TotalsFit
  swap
  · rw [record_of_overflow hfit]
    exact overflowed hfit
  rcases hput : o.store.put (checkpointOf previous now report) w with ⟨err | ⟨⟩, w'⟩
  · rw [record_of_error hfit hput]
    exact unrecorded err w' hfit hput
  · rw [record_of_ok hfit hput]
    exact recorded w' hfit hput

/-- A run that begins executes its pipeline and writes what comes of it. -/
theorem candidRun_of_begun (hclock : o.clock w = (now, w₁))
    (hbegin : o.begin p.name now w₁ = (.ok previous, w₂)) : o.CandidRun p w := by
  have hbegins : o.Begins p.name w now previous w₂ := ⟨w₁, hclock, hbegin⟩
  rcases hwork : p.toJob.execute (o.task previous now) w₂ with ⟨outcome, w₃⟩
  have hrun : o.runJob p.toJob w = o.record previous now (o.reportOf p.name previous.upTo outcome)
      w₃ := runJob_of_begun hclock hbegin hwork
  have hcandid := candid_reportOf (o := o) (p := p) previous now w₂
  rw [hwork] at hcandid
  have hrecords : o.Records p.toJob w
      (checkpointOf previous now (o.reportOf p.name previous.upTo outcome)) w₃ :=
    .recorded hbegins hwork
  have hfailed := fun hm : o.Mishap p w => hm.failed_of_begins hbegins hwork
  generalize hreport : o.reportOf p.name previous.upTo outcome = report at *
  refine ⟨?_, fun c w' hc => ?_, fun hm => ?_, fun hfits => ?_⟩ <;> rw [hrun]
  · refine record_cases (P := fun out => ∀ r, out.1 = .ok r → Candid r.status r.message)
      (fun _ r hr => by cases hr) ?_ ?_
    · rintro err w' - - r ⟨⟩
      rcases report.message with _ | m <;> exact .failed _
    · rintro w' - - r ⟨⟩
      exact hcandid
  · obtain ⟨rfl, rfl⟩ : c = checkpointOf previous now report ∧ w' = w₃ :=
      hreport ▸ Records.unique hbegins hwork hc
    refine ⟨hcandid, fun hfit => ?_⟩
    exact record_cases (P := fun out => out.2 = _) (fun hover => absurd hfit hover)
      (fun err w' _ hput => by rw [hput]) fun w' _ hput => by rw [hput]
  · refine record_cases (P := fun out => ∀ r, out.1 = .ok r → r.status = .failed)
      (fun _ r hr => by cases hr) ?_ ?_
    · rintro err w' - - r ⟨⟩
      rfl
    · rintro w' - hput r ⟨⟩
      exact hfailed hm fun err w'' hrefused => by cases hput.symm.trans hrefused
  · exact record_cases (P := fun out => ∃ r, out.1 = .ok r)
      (fun hover => absurd (hfits _ _ hrecords) hover) (fun _ _ _ _ => ⟨_, rfl⟩)
      fun _ _ _ => ⟨_, rfl⟩

/-- **Every run is candid.** -/
theorem candidRun (o : Orchestrator ω) (p : Pipeline ω ρ) (w : ω) : o.CandidRun p w := by
  rcases hclock : o.clock w with ⟨now, w₁⟩
  rcases hbegin : o.begin p.name now w₁ with ⟨err | previous, w₂⟩
  · exact candidRun_of_skipped hclock hbegin
  · exact candidRun_of_begun hclock hbegin

/-! ## Commands -/

/-- What a command reports; one that is refused or panics reports nothing. -/
def reports (o : Orchestrator ω) (command : Plan.Command) : StateM ω (List RunReport) := do
  return (← command.answer o).toOption.getD []

omit [Timed ρ] in
/-- Jobs that are run one after the other are reported by their runs. -/
theorem exists_run_of_runJobs {jobs : List (Job ω)} {all : List RunReport} {report : RunReport}
    (h : (o.runJobs jobs w).1 = .ok all) (hmem : report ∈ all) :
    ∃ job ∈ jobs, ∃ w', (o.runJob job w').1 = .ok report := by
  induction jobs generalizing w all with
  | nil =>
    obtain rfl := Except.ok.inj h
    cases hmem
  | cons job jobs ih =>
    obtain ⟨first, others, w₁, hfirst, hrest, rfl⟩ := reported_of_runJobs_cons (Prod.ext h rfl)
    rcases List.mem_cons.mp hmem with rfl | hmem
    · exact ⟨job, List.mem_cons_self, w, by rw [hfirst]⟩
    · obtain ⟨other, hother, hrun⟩ := ih (by rw [hrest]) hmem
      exact ⟨other, List.mem_cons_of_mem _ hother, hrun⟩

omit [Timed ρ] in
/-- A rerun that gets through runs every job. -/
theorem rerun_of_ok {deleteData : Bool} {reports : List RunReport}
    (h : (o.rerun deleteData w).1 = .ok reports) : ∃ w', (o.runAll w').1 = .ok reports := by
  rw [rerun] at h
  simp only [bind, StateT.bind] at h
  rcases hforget : forEachJob (fun job => o.store.delete o.group job.name) o.jobs w
    with ⟨err | ⟨⟩, v⟩ <;> rw [hforget] at h
  · cases h
  rcases hempty : forEachJob (fun job => job.cleanUp o.group) (if deleteData then o.jobs else []) v
    with ⟨err | ⟨⟩, v'⟩ <;> simp only [bind, StateT.bind, hempty] at h
  · cases h
  rcases hall : (o.runAll v').1 with p | all
  · cases (congrArg (Except.mapError Fault.panic) hall).symm.trans h
  · obtain rfl := Except.ok.inj ((congrArg (Except.mapError Fault.panic) hall).symm.trans h)
    exact ⟨v', hall⟩

omit [Timed ρ] in
/-- A command reports its runs. -/
theorem exists_run_of_mem_reports {command : Plan.Command} {report : RunReport}
    (h : report ∈ (o.reports command w).1) :
    ∃ job ∈ o.jobs, ∃ w', (o.runJob job w').1 = .ok report := by
  change report ∈ ((command.answer o w).1.toOption).getD [] at h
  rcases hanswer : (command.answer o w).1 with fault | all <;> rw [hanswer] at h
  · cases h
  cases command with
  | run name =>
    change (o.run name w).1.map ([·]) = .ok all at hanswer
    rw [run] at hanswer
    rcases hfind : o.jobs.find? fun job => job.name = name with _ | job <;> rw [hfind] at hanswer
    · cases hanswer
    change ((o.runJob job w).1.mapError Fault.panic).map ([·]) = .ok all at hanswer
    rcases hrun : (o.runJob job w).1 with p | r <;> rw [hrun] at hanswer
    · cases hanswer
    obtain rfl := Except.ok.inj hanswer
    obtain rfl := List.mem_singleton.mp h
    exact ⟨job, List.mem_of_find?_eq_some hfind, w, hrun⟩
  | runAll =>
    rcases hall : (o.runAll w).1 with p | reports
    · cases (congrArg (Except.mapError Fault.panic) hall).symm.trans hanswer
    · obtain rfl := Except.ok.inj ((congrArg (Except.mapError Fault.panic) hall).symm.trans hanswer)
      exact exists_run_of_runJobs (runAll_eq_ok_iff.mp hall).1 h
  | rerun deleteData =>
    obtain ⟨w', hall⟩ := rerun_of_ok hanswer
    exact exists_run_of_runJobs (runAll_eq_ok_iff.mp hall).1 h

/-- **No failure is silent, and no success carries a message.** What a command of an orchestrator
reports are candid reports of runs of its pipelines. Every run of these is candid: its report and
the checkpoint it writes at its end tell failure exactly if they have a message, and failure is told
if the extraction failed, a batch was not committed, a loader was given an error or the store
refused. There is a report unless a sum is too great for its counter. -/
theorem reports_candid (o : Orchestrator ω) (pipelines : List (SomePipeline ω))
    (command : Plan.Command) (w : ω) :
    (∀ report ∈ ((o.driving pipelines).reports command w).1,
      Candid report.status report.message ∧
      ∃ p ∈ pipelines, ∃ w', ((o.driving pipelines).runJob p.job w').1 = .ok report) ∧
    ∀ p ∈ pipelines, ∀ w', (o.driving pipelines).CandidRun p.pipeline w' := by
  refine ⟨fun report hreport => ?_, fun p _ w' => candidRun _ p.pipeline w'⟩
  obtain ⟨job, hjob, w', hrun⟩ := exists_run_of_mem_reports hreport
  obtain ⟨p, hp, rfl⟩ := List.mem_map.mp hjob
  exact ⟨(candidRun _ p.pipeline w').report _ hrun, p, hp, w', hrun⟩

end Orchestrator

end Ingest
