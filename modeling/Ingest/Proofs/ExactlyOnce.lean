import Ingest.Proofs.World.Calm
import Ingest.Proofs.World.Estate
import Mathlib.Data.List.Nodup

/-!
# Proofs/ExactlyOnce — a plain sink resumes without gaps and without repetition

With one sink and no stage, a loader commits exactly the wanted rows between the start of its window
and its result (`Books.exact`). So if no run of the pipeline panics and the store answers, what the
sink holds stays exactly the table up to the checkpoint, however often fetches and commits fail and
whatever the other pipelines do. Main statement: `Ran.exactly_once`.
-/

namespace Ingest

variable {ι σ ρ : Type} [Timed ρ]

/-! ## One execution -/

section Books

variable {ω : Type} {sink : Sink ω ρ} {e : Execution} {table sent : List ρ}
  {done : List (Staged ρ)} {rest : List (Except Error (Staged ρ))} {batches : List (List ρ)}
  {upTo : Instant}

/-- The rows that a loader without a stage has done, and those it has not. -/
theorem Loading.Books.split_direct
    (h : Books sink e ((Stage.direct ρ).transform (sent.map .ok)) done rest batches upTo) :
    ∃ sooner later : List ρ, sent = sooner ++ later ∧ done = sooner.map (⟨·, none⟩) ∧
      rest = (later.map (⟨·, none⟩)).map .ok := by
  have hsplit := h.split
  rw [Stage.direct_transform] at hsplit
  obtain ⟨front, back, hrows, hdone, hrest⟩ := List.map_eq_append_iff.mp hsplit
  obtain rfl : front = done := List.map_injective_iff.mpr (fun _ _ => Except.ok.inj) hdone
  obtain ⟨sooner, later, rfl, rfl, rfl⟩ := List.map_eq_append_iff.mp hrows
  exact ⟨sooner, later, rfl, rfl, hrest.symm⟩

/-- A result that moved is the timestamp of a row that was done, and the rest is later. -/
theorem Loading.Books.reached_direct {sooner later : List ρ}
    {items : List (Except Error (Staged ρ))}
    (h : Books sink e items (sooner.map (⟨·, none⟩)) ((later.map (⟨·, none⟩)).map .ok) batches upTo)
    (asc : Ascending (sooner ++ later)) (hlt : e.window.since < upTo) :
    ∃ r ∈ sooner, time r = upTo ∧ ∀ x ∈ later, upTo < time x := by
  obtain ⟨front, it, back, hdone, hbound, hnext⟩ := h.reached hlt
  obtain ⟨front, back, rfl, rfl, hback⟩ := List.map_eq_append_iff.mp hdone
  obtain ⟨r, back, rfl, rfl, rfl⟩ := List.map_eq_cons_iff.mp hback
  obtain rfl : time r = upTo := hbound
  refine ⟨r, by simp, rfl, fun x hx => ?_⟩
  have hasc : Ascending (back ++ later) := asc.sublist (by simp)
  have hmem : x ∈ back ++ later := List.mem_append_right back hx
  rw [← List.map_append, ← List.map_append] at hnext
  rcases hrest : back ++ later with _ | ⟨next, others⟩ <;> rw [hrest] at hnext hasc hmem
  · cases hmem
  have hnextLt : time r < time next := Staged.nextLater_cons.mp hnext
  rcases List.mem_cons.mp hmem with rfl | hmem
  · exact hnextLt
  · exact hnextLt.trans_le ((List.pairwise_cons.mp hasc).1 x hmem)

/-- **A loader without a stage commits the window up to its result**, each row once and in order. -/
theorem Loading.Books.exact
    (h : Books sink e ((Stage.direct ρ).transform (sent.map .ok)) done rest batches upTo)
    (hsent : Sent table e.window sent) :
    batches.flatten = (Window.rows ⟨e.window.since, upTo⟩ table).filter sink.processable ∧
      (e.window.since < upTo → upTo ≤ e.window.upTo) := by
  obtain ⟨sooner, later, rfl, rfl, rfl⟩ := h.split_direct
  have hsooner : ∀ r ∈ sooner, time r ≤ upTo := by
    intro r hr
    obtain ⟨last, hlast⟩ :=
      Option.isSome_iff_exists.mp (List.getLast?_isSome.mpr (List.ne_nil_of_mem hr))
    have hasc : Ascending sooner := hsent.ascending.sublist (List.sublist_append_left _ _)
    exact (hasc.le_getLast hlast hr).trans (h.bound_le ⟨last, none⟩ (by simpa using hlast))
  have hwanted : batches.flatten = sooner.filter sink.processable := by
    rw [h.flatten_batches, Sink.wanted, List.map_map]
    refine (congrArg (List.filter _) (List.map_id' _)).trans (List.filter_congr fun r hr => ?_)
    simp [(hsent.mem r (List.mem_append_left _ hr)).1]
  rw [hwanted]
  by_cases hlt : e.window.since < upTo
  swap
  · -- nothing is done, since a row that is done moves the result past the start of the window
    have hnil : sooner = [] := List.eq_nil_iff_forall_not_mem.mpr fun r hr =>
      hlt ((hsent.mem r (List.mem_append_left later hr)).1.trans_le (hsooner r hr))
    rw [hnil, Window.rows_eq_nil hlt]
    exact ⟨rfl, fun h => absurd h hlt⟩
  obtain ⟨r, hr, rfl, hlater⟩ := h.reached_direct hsent.ascending hlt
  have hmem : r ∈ sooner ++ later := List.mem_append_left later hr
  have hrows := hsent.complete r hmem (time r) le_rfl
  rw [List.filter_append, List.filter_eq_self.mpr fun x hx => by simpa using hsooner x hx,
    List.filter_eq_nil_iff.mpr fun x hx => by simpa using hlater x hx, List.append_nil] at hrows
  rw [hrows]
  exact ⟨rfl, fun _ => (hsent.mem r hmem).2⟩

end Books

/-! ## One execution in a calm scene -/

variable [DecidableEq ι] [DecidableEq σ] {s s' : Scene ι σ ρ} {l l' : Ledger ι σ ρ}

/-- What a sink holds is exactly the wanted rows of its table up to `t`. -/
structure Outlet.Exact (o : Outlet σ ρ) (source : ι) (initial : Instant) (l : Ledger ι σ ρ)
    (t : Instant) : Prop where
  ascending : Ascending (l.tables source)
  initial_le : initial ≤ t
  closed : l.Closed initial t
  flatten_logs : (l.logs o.sink).flatten =
    (Window.rows ⟨initial, t⟩ (l.tables source)).filter o.processable

variable {o : Outlet σ ρ} {source : ι} {initial t : Instant}

omit [DecidableEq ι] [DecidableEq σ] in
/-- Rows that arrive later change nothing up to the checkpoint. -/
theorem Outlet.Exact.mono (h : o.Exact source initial l t) (hg : l.Grows l')
    (hlogs : l'.logs o.sink = l.logs o.sink) : o.Exact source initial l' t where
  ascending := hg.ascending source h.ascending
  initial_le := h.initial_le
  closed := h.closed.mono hg
  flatten_logs := by rw [hlogs, h.flatten_logs, h.closed.rows hg]

omit [DecidableEq ι] [DecidableEq σ] in
theorem Outlet.Exact.withStored (h : o.Exact source initial l t) (stored : CheckpointTable) :
    o.Exact source initial { l with stored := stored } t :=
  ⟨h.ascending, h.initial_le, h.closed, h.flatten_logs⟩

variable {line : Line ι σ ρ} {e : Execution}

/-- **One loader** that does not panic moves what a plain sink holds to its result. -/
theorem Outlet.load_exact (hs : s.Calm) (hfeed : o.feed = .direct)
    (hstarted : e.window.upTo ∈ s.ledger.started)
    (h : o.Exact source initial s.ledger e.window.since) {sent : List ρ}
    (hsent : Sent (s.ledger.tables source) e.window sent) {out : Loading.Outcome}
    (hrun : Loading.run (Scene.sink (ι := ι) o.name o.processable o.sink) e
      (o.feed.stage.transform (sent.map .ok)) s = (out, s')) :
    s'.Calm ∧ s.ledger.Grows s'.ledger ∧ ∀ r, out.result = .ok r → e.window.since ≤ r.upTo ∧
      o.Exact source initial s'.ledger r.upTo := by
  obtain ⟨commits, done, rest, hperf, hbooks⟩ :=
    Loading.run_books (Scene.sink (ι := ι) o.name o.processable o.sink) e
      (o.feed.stage.transform (sent.map .ok)) s
  rw [hrun] at hperf hbooks
  obtain ⟨hcalm, hgrows, hlogs⟩ := hs.performs hperf
  refine ⟨hcalm, hgrows, fun r hr => ?_⟩
  have hb := hbooks r hr
  rw [hfeed] at hb
  obtain ⟨hcommitted, hupTo⟩ := hb.exact hsent
  have hexact : (committedBatches commits).flatten = (Window.rows ⟨e.window.since, r.upTo⟩
      (s.ledger.tables source)).filter o.processable := hcommitted
  have hclosed : s.ledger.Closed initial r.upTo := h.closed.advance hstarted hupTo
  refine ⟨hb.since_le, ?_⟩
  refine ⟨hgrows.ascending _ h.ascending, h.initial_le.trans hb.since_le, hclosed.mono hgrows, ?_⟩
  rw [hlogs, Function.update_self, List.flatten_append, h.flatten_logs, hexact,
    ← List.filter_append,
    Window.rows_append (w := ⟨initial, r.upTo⟩) h.ascending h.initial_le hb.since_le,
    hclosed.rows hgrows]

/-- **One execution** that does not panic moves what a plain sink holds from the start of the window
to the result. -/
theorem Line.execute_exact (hs : s.Calm) (houtlets : line.outlets = [o]) (hfeed : o.feed = .direct)
    (hstarted : e.window.upTo ∈ s.ledger.started)
    (h : o.Exact line.source initial s.ledger e.window.since) {out : Attempt PipelineResult}
    (hrun : line.pipeline.toJob.execute e s = (out, s')) :
    s'.Calm ∧ s.ledger.Grows s'.ledger ∧ ((∃ p, out = .error (.panic p)) ∨
      ∃ r, out = .ok r ∧ o.Exact line.source initial s'.ledger (max r.upTo e.window.since)) := by
  have hbranches : line.pipeline.branches = [o.branch] := by simp [Line.pipeline, houtlets]
  have hempty : line.pipeline.branches ≠ [] := by simp [hbranches]
  rcases hextract : line.pipeline.extraction.run (pure true) e.group e.window s with ⟨extracted, s₁⟩
  obtain ⟨⟨hcalm, hgrows, hlogs⟩, hsent⟩ := line.extract (J := s.Spares o.sink)
    (fun s₁ h₁ => h₁.next) (fun s₁ h₁ => h₁.grows) h.ascending hstarted (.refl hs o.sink) hextract
  have hstill := h.mono hgrows hlogs
  by_cases hpanic : ∃ cause, extracted.result = .error (.panic cause)
  · obtain ⟨cause, hpanic⟩ := hpanic
    rw [execute_of_panic hempty hextract hpanic] at hrun
    obtain ⟨rfl, rfl⟩ := Prod.mk.inj hrun
    exact ⟨hcalm, hgrows, .inl ⟨cause, rfl⟩⟩
  rcases hload : Loading.run (Scene.sink (ι := ι) o.name o.processable o.sink) e
    (o.feed.stage.transform (extracted.sent.map .ok)) s₁ with ⟨loaded, s₂⟩
  obtain ⟨hcalm₂, hgrows₂, hloaded⟩ := Outlet.load_exact hcalm hfeed
    (hgrows.started hstarted) hstill (hsent.mono hstarted hgrows) hload
  have hall : Pipeline.loadAll e extracted.sent line.pipeline.branches s₁
      = (loaded.result.map fun r => [(o.name, r, loaded.events)], s₂) := by
    rw [hbranches, loadAll_cons hload]
    cases loaded.result <;> rfl
  obtain ⟨fault, -, hexecute⟩ := execute_of_sent hempty hextract (fun c hc => hpanic ⟨c, hc⟩) hall
  rw [hexecute] at hrun
  obtain ⟨hout, rfl⟩ := Prod.mk.inj hrun
  refine ⟨hcalm₂, hgrows.trans hgrows₂, ?_⟩
  rcases out with cause | result
  · obtain ⟨p, rfl⟩ := exists_panic hout
    exact .inl ⟨p, rfl⟩
  obtain ⟨loads, hloads, -, rfl⟩ := exists_loaded hout
  rcases hr : loaded.result with p | r <;> rw [hr] at hloads
  · cases hloads
  obtain rfl := Except.ok.inj hloads
  obtain ⟨hsince, hexact⟩ := hloaded r hr
  have hresult : max (line.pipeline.conclude e.window.since fault
      [(o.name, r, loaded.events)]).upTo e.window.since = r.upTo := by
    simp [Pipeline.conclude, PipelineResult.reduce, PipelineResult.leastUpTo, hsince]
  refine .inr ⟨_, rfl, ?_⟩
  rw [hresult]
  exact hexact

/-! ## Runs -/

/-- The report of a run that panicked. -/
def RunReport.Panicked (report : RunReport) : Prop :=
  ∃ detail, report.message = some (Error.panicked detail).message

/-- A message begins in a certain way if its characters do. -/
theorem exists_eq_append_iff (front m : String) :
    (∃ back, m = front ++ back) ↔ front.toList <+: m.toList := by
  constructor
  · rintro ⟨back, rfl⟩
    simp
  · rintro ⟨back, hback⟩
    exact ⟨String.ofList back, String.toList_inj.mp (by simp [← hback])⟩

/-- A panic is told by the start of the message. -/
theorem RunReport.panicked_iff {report : RunReport} : report.Panicked ↔
    ∃ m ∈ report.message, "Pipeline panicked: ".toList <+: m.toList := by
  constructor
  · rintro ⟨detail, hmessage⟩
    exact ⟨_, hmessage, (exists_eq_append_iff _ _).mp ⟨detail, rfl⟩⟩
  · rintro ⟨m, hmessage, hfront⟩
    obtain ⟨detail, rfl⟩ := (exists_eq_append_iff _ _).mpr hfront
    exact ⟨detail, hmessage⟩

instance (report : RunReport) : Decidable report.Panicked :=
  decidable_of_iff _ RunReport.panicked_iff.symm

namespace Plan

variable {plan : Plan ι σ ρ} {line other : Line ι σ ρ} {now : Instant} {c d : Checkpoint}
  {v : Option Checkpoint}

/-- Checkpoints are stored under their own names. -/
def Labelled (plan : Plan ι σ ρ) (l : Ledger ι σ ρ) : Prop :=
  ∀ name c, l.stored.get? plan.group name = some c → c.group = plan.group ∧ c.pipeline = name

omit [Timed ρ] [DecidableEq ι] [DecidableEq σ] in
theorem Labelled.put (h : plan.Labelled l) (c : Checkpoint) :
    plan.Labelled { l with stored := l.stored.put c } := by
  intro name d hd
  rw [CheckpointTable.get?_put] at hd
  split_ifs at hd with heq
  · obtain rfl := Option.some.inj hd
    exact ⟨heq.1.symm, heq.2.symm⟩
  · exact h name d hd

/-- A sink holds what a checkpoint of its pipeline says. -/
structure Tells (plan : Plan ι σ ρ) (line : Line ι σ ρ) (o : Outlet σ ρ) (c : Checkpoint)
    (l : Ledger ι σ ρ) : Prop where
  group : c.group = plan.group
  pipeline : c.pipeline = line.name
  labelled : plan.Labelled l
  exact : o.Exact line.source plan.initial l c.upTo

omit [DecidableEq ι] [DecidableEq σ] in
/-- Rows that arrive later change nothing of what a checkpoint tells. -/
theorem Tells.mono (h : plan.Tells line o c l) (hg : l.Grows l')
    (hlogs : l'.logs o.sink = l.logs o.sink) : plan.Tells line o c l' where
  group := h.group
  pipeline := h.pipeline
  labelled name d hd := h.labelled name d (hg.stored ▸ hd)
  exact := h.exact.mono hg hlogs

omit [DecidableEq ι] [DecidableEq σ] in
theorem Tells.put (h : plan.Tells line o c l) (d : Checkpoint) :
    plan.Tells line o c { l with stored := l.stored.put d } :=
  ⟨h.group, h.pipeline, h.labelled.put d, h.exact.withStored _⟩

/-- The checkpoint `v` is stored for a pipeline, or none, and a sink holds what the next run starts
from. -/
structure Stands (plan : Plan ι σ ρ) (line : Line ι σ ρ) (o : Outlet σ ρ) (v : Option Checkpoint)
    (l : Ledger ι σ ρ) : Prop where
  stored : l.stored.get? plan.group line.name = v
  tells : plan.Tells line o (v.getD (.neverRun plan.group line.name plan.initial)) l

omit [DecidableEq ι] [DecidableEq σ] in
/-- A pipeline stays where it stands when rows arrive. -/
theorem Stands.mono (h : plan.Stands line o v l) (hg : l.Grows l')
    (hlogs : l'.logs o.sink = l.logs o.sink) : plan.Stands line o v l' :=
  ⟨hg.stored ▸ h.stored, h.tells.mono hg hlogs⟩

omit [DecidableEq ι] [DecidableEq σ] in
/-- Writing the checkpoint of another pipeline. -/
theorem Stands.put (h : plan.Stands line o v l) (hd : d.pipeline ≠ line.name) :
    plan.Stands line o v { l with stored := l.stored.put d } where
  stored := by
    rw [CheckpointTable.get?_put, if_neg fun heq => hd heq.2.symm]
    exact h.stored
  tells := h.tells.put d

/-- Reading the clock changes nothing. -/
theorem clock_calmly : Calmly (plan.Stands line o v) Scene.clock
    fun now l => now ∈ l.started ∧ plan.Stands line o v l := by
  intro s hs h
  have hgrows := (Ledger.Grows.wait s.ledger s.turn).trans (.start _ s.turn.now)
  exact ⟨hs.next _, List.mem_cons_self, h.mono hgrows (congrFun hs.logs_found _)⟩

/-! ### The pipeline itself -/

/-- A run begins with the stored checkpoint, and marks it. -/
theorem begin_calmly (plan : Plan ι σ ρ) (line : Line ι σ ρ) (o : Outlet σ ρ)
    (v : Option Checkpoint) (now : Instant) :
    let c := v.getD (.neverRun plan.group line.name plan.initial)
    Calmly (fun l => now ∈ l.started ∧ plan.Stands line o v l)
      (plan.orchestrator.begin line.name now)
      fun r l => r = .ok c ∧ now ∈ l.started ∧ plan.Tells line o c l := by
  intro c
  have hread : Calmly (fun l => now ∈ l.started ∧ plan.Stands line o v l)
      (plan.orchestrator.readCheckpoint line.name)
      fun r l => r = .ok c ∧ now ∈ l.started ∧ plan.Tells line o c l := by
    refine Calmly.bind (Calmly.access
      (fun stored => (stored.get? plan.group line.name, stored))
      (Q := fun w l => w = v ∧ now ∈ l.started ∧ plan.Tells line o c l)
      (fun l l' hg hlogs h => ⟨hg.started h.1, h.2.mono hg (congrFun hlogs _)⟩)
      fun l h => ⟨h.2.stored, h.1, h.2.tells⟩) fun r => Calmly.pure ?_
    rintro l ⟨w, rfl, rfl, h⟩
    exact ⟨rfl, h⟩
  refine Calmly.bind hread fun r => Calmly.assume ?_
  rintro rfl
  have hput : Calmly (fun l => now ∈ l.started ∧ plan.Tells line o c l)
      (plan.orchestrator.store.put (c.loading now))
      fun r l => ∃ a, r = .ok a ∧ now ∈ l.started ∧ plan.Tells line o c l :=
    Calmly.access (fun stored => ((), stored.put (c.loading now)))
      (Q := fun _ l => now ∈ l.started ∧ plan.Tells line o c l)
      (fun l l' hg hlogs h => ⟨hg.started h.1, h.2.mono hg (congrFun hlogs _)⟩)
      fun l h => ⟨h.1, h.2.put _⟩
  refine Calmly.bind hput fun r => Calmly.pure ?_
  rintro l ⟨⟨⟩, rfl, h⟩
  exact ⟨rfl, h⟩

/-- An execution that does not panic can be recorded as it is reported. -/
theorem execute_calmly (plan : Plan ι σ ρ) (houtlets : line.outlets = [o])
    (hfeed : o.feed = .direct) (c : Checkpoint) (now : Instant) :
    Calmly (fun l => now ∈ l.started ∧ plan.Tells line o c l)
      (line.pipeline.toJob.execute ⟨plan.group, ⟨c.upTo, now⟩, max plan.batchSize 1⟩)
      fun out l => ¬(plan.orchestrator.reportOf line.name c.upTo out).Panicked →
        plan.Tells line o (Orchestrator.checkpointOf c now
          (plan.orchestrator.reportOf line.name c.upTo out)) l := by
  rintro s hs ⟨hstarted, h⟩
  rcases hrun : line.pipeline.toJob.execute ⟨plan.group, ⟨c.upTo, now⟩, max plan.batchSize 1⟩ s
    with ⟨out, s'⟩
  obtain ⟨hcalm, hgrows, hout⟩ := Line.execute_exact hs houtlets hfeed hstarted h.exact hrun
  refine ⟨hcalm, fun hquiet => ?_⟩
  obtain ⟨p, rfl⟩ | ⟨r, rfl, hexact⟩ := hout
  · exact absurd ⟨p.message, rfl⟩ hquiet
  · exact ⟨h.group, h.pipeline, fun name d hd => h.labelled name d (hgrows.stored ▸ hd), hexact⟩

/-- A checkpoint that tells what the sink holds is the stored one once the run is recorded. -/
theorem record_calmly (plan : Plan ι σ ρ) (line : Line ι σ ρ) (o : Outlet σ ρ) (c : Checkpoint)
    (now : Instant) (report : RunReport) :
    Calmly (fun l => ¬report.Panicked →
        plan.Tells line o (Orchestrator.checkpointOf c now report) l)
      (plan.orchestrator.record c now report)
      fun out l => ∀ r, out = .ok r → ¬r.Panicked → ∃ d, plan.Stands line o (some d) l := by
  generalize hd : Orchestrator.checkpointOf c now report = d
  have hput : Calmly (fun l => ¬report.Panicked → plan.Tells line o d l)
      (plan.orchestrator.store.put d) fun r l =>
      ∃ a, r = .ok a ∧ (¬report.Panicked → plan.Stands line o (some d) l) := by
    refine Calmly.access (fun stored => ((), stored.put d))
      (P := fun l => ¬report.Panicked → plan.Tells line o d l)
      (Q := fun _ l => ¬report.Panicked → plan.Stands line o (some d) l)
      (fun l l' hg hlogs h hquiet => (h hquiet).mono hg (congrFun hlogs _))
      fun l h hquiet => ⟨?_, (h hquiet).put d⟩
    rw [CheckpointTable.get?_put, if_pos ⟨(h hquiet).group.symm, (h hquiet).pipeline.symm⟩]
  rw [Orchestrator.record, hd]
  split_ifs
  swap
  · refine Calmly.pure ?_
    rintro l - r ⟨⟩
  refine Calmly.bind hput fun r => ?_
  rcases r with e | ⟨⟩
  · rintro s - ⟨a, ⟨⟩, -⟩
  · refine Calmly.pure ?_
    rintro l ⟨-, -, h⟩ r ⟨⟩ hquiet
    exact ⟨d, h hquiet⟩

/-- **One run** of a pipeline, unless it panicked, ends with a stored checkpoint that tells what the
sink holds. -/
theorem runJob_calmly (plan : Plan ι σ ρ) (houtlets : line.outlets = [o])
    (hfeed : o.feed = .direct) (v : Option Checkpoint) :
    Calmly (plan.Stands line o v) (plan.orchestrator.runJob line.pipeline.toJob)
      fun out l => ∀ report, out = .ok report → ¬report.Panicked →
        ∃ c, plan.Stands line o (some c) l := by
  refine Calmly.bind clock_calmly fun now => ?_
  refine Calmly.bind (begin_calmly plan line o v now) fun r => Calmly.assume ?_
  rintro rfl
  generalize v.getD (.neverRun plan.group line.name plan.initial) = c
  exact Calmly.bind (execute_calmly plan houtlets hfeed c now) fun out =>
    record_calmly plan line o c now _

/-! ### Other pipelines -/

/-- The checkpoint of another pipeline can be put. -/
theorem put_spares (hd : d.pipeline ≠ line.name) :
    Calmly (plan.Stands line o v) (plan.orchestrator.store.put d)
      fun r l => r = .ok () ∧ plan.Stands line o v l := by
  refine (Calmly.access (fun stored => ((), stored.put d)) (P := plan.Stands line o v)
    (Q := fun _ l => plan.Stands line o v l)
    (fun l l' hg hlogs h => h.mono hg (congrFun hlogs _)) fun l h => h.put hd).mono
    (fun _ h => h) ?_
  rintro r l ⟨⟨⟩, rfl, h⟩
  exact ⟨rfl, h⟩

/-- Another pipeline can begin a run. -/
theorem begin_spares (hname : other.name ≠ line.name) (now : Instant) :
    Calmly (plan.Stands line o v) (plan.orchestrator.begin other.name now)
      fun r l => (∃ d, r = .ok d ∧ d.pipeline = other.name) ∧ plan.Stands line o v l := by
  have hread : Calmly (plan.Stands line o v) (plan.orchestrator.readCheckpoint other.name)
      fun r l => (∃ d, r = .ok d ∧ d.pipeline = other.name) ∧ plan.Stands line o v l := by
    refine Calmly.bind (Calmly.access
      (fun stored => (stored.get? plan.group other.name, stored))
      (Q := fun w l => (w.getD (.neverRun plan.group other.name plan.initial)).pipeline
        = other.name ∧ plan.Stands line o v l)
      (fun l l' hg hlogs h => h.mono hg (congrFun hlogs _)) fun l h => ⟨?_, h⟩)
      fun r => Calmly.pure ?_
    · rcases hd : l.stored.get? plan.group other.name with _ | d
      · rfl
      · exact (h.tells.labelled other.name d hd).2
    · rintro l ⟨w, rfl, hw, h⟩
      exact ⟨⟨_, rfl, hw⟩, h⟩
  refine Calmly.bind hread fun r => Calmly.assume ?_
  rintro ⟨d, rfl, hd⟩
  refine Calmly.bind (put_spares (d := d.loading now) (hd.trans_ne hname)) fun r => ?_
  refine Calmly.assume ?_
  rintro rfl
  exact Calmly.pure fun l h => ⟨⟨d, rfl, hd⟩, h⟩

/-- **A run of another pipeline**, whose sinks are others, changes nothing. -/
theorem runJob_spares (hname : other.name ≠ line.name)
    (hother : ∀ p ∈ other.outlets, p.sink ≠ o.sink) :
    Calmly (plan.Stands line o v) (plan.orchestrator.runJob other.pipeline.toJob)
      fun _ l => plan.Stands line o v l := by
  have hclock : Calmly (plan.Stands line o v) Scene.clock fun _ l => plan.Stands line o v l :=
    clock_calmly.mono (fun _ h => h) fun _ _ h => h.2
  refine Calmly.bind hclock fun now => ?_
  refine Calmly.bind (begin_spares hname now) fun r => Calmly.assume ?_
  rintro ⟨d, rfl, hd⟩
  have hexecute : Calmly (plan.Stands line o v)
      (other.pipeline.toJob.execute ⟨plan.group, ⟨d.upTo, now⟩, max plan.batchSize 1⟩)
      fun _ l => plan.Stands line o v l := by
    intro s hs h
    rcases hrun : other.pipeline.toJob.execute ⟨plan.group, ⟨d.upTo, now⟩, max plan.batchSize 1⟩ s
      with ⟨out, s'⟩
    have hspares : s.Spares o.sink s' := Line.execute_spares hs hother hrun
    exact ⟨hspares.calm, h.mono hspares.grows hspares.logs⟩
  refine Calmly.bind hexecute fun out => ?_
  rw [Orchestrator.record]
  split_ifs
  swap
  · exact Calmly.pure fun l h => h
  refine Calmly.bind (put_spares (hd.trans_ne hname)) fun r => ?_
  rcases r with e | ⟨⟩
  · exact Calmly.pure fun l h => h.2
  · exact Calmly.pure fun l h => h.2

/-- Other pipelines can be run one after the other. -/
theorem runJobs_spares {lines : List (Line ι σ ρ)} (hnames : ∀ x ∈ lines, x.name ≠ line.name)
    (hother : ∀ x ∈ lines, ∀ p ∈ x.outlets, p.sink ≠ o.sink) :
    Calmly (plan.Stands line o v) (plan.orchestrator.runJobs (lines.map (·.pipeline.toJob)))
      fun _ l => plan.Stands line o v l := by
  induction lines with
  | nil => exact Calmly.pure fun l h => h
  | cons x lines ih =>
    refine Calmly.bind (runJob_spares (hnames x List.mem_cons_self)
      (hother x List.mem_cons_self)) fun out => ?_
    rcases out with p | report
    · exact Calmly.pure fun l h => h
    refine Calmly.bind (ih (fun y hy => hnames y (List.mem_cons_of_mem _ hy))
      fun y hy => hother y (List.mem_cons_of_mem _ hy)) fun reports => ?_
    exact Calmly.pure fun l h => h

/-! ### Histories -/

/-- A command is answered with reports, none of which tells of a panic. -/
def Quiet (answer : Attempt (List RunReport)) : Prop :=
  ∃ reports, answer = .ok reports ∧ ∀ report ∈ reports, ¬report.Panicked

instance : (answer : Attempt (List RunReport)) → Decidable (Quiet answer)
  | .ok reports => decidable_of_iff (∀ report ∈ reports, ¬report.Panicked) (by simp [Quiet])
  | .error _ => .isFalse (by simp [Quiet])

/-- The ledgers after some runs of a pipeline: nothing is loaded at first, and each run, also of the
others, is calm and ends. Runs that include the pipeline do not panic. -/
inductive Ran (plan : Plan ι σ ρ) (line : Line ι σ ρ) : Nat → Ledger ι σ ρ → Prop where
  | start (tables : ι → List ρ) (asc : ∀ i, Ascending (tables i)) :
      Ran plan line 0 ⟨tables, fun _ => [], {}, []⟩
  | run {n : Nat} {l : Ledger ι σ ρ} (h : Ran plan line n l) {command : Plan.Command}
      (hcommand : command = .run line.name ∨ command = .runAll) {script : Nat → Turn ι σ ρ}
      (calm : ∀ n, (script n).Calm)
      (quiet : Quiet (command.answer plan.orchestrator { ledger := l, script }).1) :
      Ran plan line (n + 1) (command.perform plan.orchestrator { ledger := l, script }).2.ledger
  | other {n : Nat} {l : Ledger ι σ ρ} (h : Ran plan line n l) {name : String}
      (hname : name ≠ line.name) {script : Nat → Turn ι σ ρ} (calm : ∀ n, (script n).Calm) :
      Ran plan line n
        ((Command.run name).perform plan.orchestrator { ledger := l, script }).2.ledger

/-- The pipeline has one sink, without a stage, and no other pipeline has its name or its sink. -/
structure Separate (plan : Plan ι σ ρ) (line : Line ι σ ρ) (o : Outlet σ ρ) : Prop where
  names : (plan.lines.map (·.name)).Nodup
  mem : line ∈ plan.lines
  outlets : line.outlets = [o]
  feed : o.feed = .direct
  sink_ne : ∀ x ∈ plan.lines, x.name ≠ line.name → ∀ p ∈ x.outlets, p.sink ≠ o.sink

omit [Timed ρ] [DecidableEq ι] [DecidableEq σ] in
/-- The other pipelines stand before this one or after it. -/
theorem Separate.exists_split (h : plan.Separate line o) :
    ∃ front back, plan.lines = front ++ line :: back ∧
      (∀ x ∈ front, x.name ≠ line.name ∧ ∀ p ∈ x.outlets, p.sink ≠ o.sink) ∧
      ∀ x ∈ back, x.name ≠ line.name ∧ ∀ p ∈ x.outlets, p.sink ≠ o.sink := by
  obtain ⟨front, back, hlines⟩ := List.append_of_mem h.mem
  have hnames := h.names
  rw [hlines, List.map_append, List.map_cons, List.nodup_append, List.nodup_cons] at hnames
  refine ⟨front, back, hlines, fun x hx => ?_, fun x hx => ?_⟩
  · have hne := hnames.2.2 _ (List.mem_map_of_mem hx) _ List.mem_cons_self
    exact ⟨hne, h.sink_ne x (hlines ▸ List.mem_append_left _ hx) hne⟩
  · have hne : x.name ≠ line.name := fun heq => hnames.2.1.1 (heq ▸ List.mem_map_of_mem hx)
    exact ⟨hne, h.sink_ne x (hlines ▸ List.mem_append_right _ (List.mem_cons_of_mem _ hx)) hne⟩

/-- Another pipeline can be run by its name. -/
theorem run_spares (h : plan.Separate line o) {name : String} (hname : name ≠ line.name) :
    Calmly (plan.Stands line o v) (plan.orchestrator.run name)
      fun _ l => plan.Stands line o v l := by
  unfold Orchestrator.run
  split
  · rename_i job hfind
    obtain ⟨x, hx, rfl⟩ := List.mem_map.mp (List.mem_of_find?_eq_some hfind)
    obtain rfl : x.pipeline.toJob.name = name := by simpa using List.find?_some hfind
    exact Calmly.bind (runJob_spares hname (h.sink_ne x hx hname)) fun report =>
      Calmly.pure fun l h => h
  · exact Calmly.pure fun l h => h

/-- **A run of the pipeline** that does not panic. -/
theorem run_stands (h : plan.Separate line o) (hs : s.Calm) (hv : plan.Stands line o v s.ledger)
    (hquiet : Quiet ((Command.run line.name).answer plan.orchestrator s).1) :
    ∃ c, plan.Stands line o (some c)
      ((Command.run line.name).perform plan.orchestrator s).2.ledger := by
  obtain ⟨reports, hreports, hquiet⟩ := hquiet
  change (plan.orchestrator.run line.name s).1.map ([·]) = .ok reports at hreports
  have hnames : (plan.orchestrator.jobs.map (·.name)).Nodup := by
    rw [orchestrator, List.map_map]
    exact h.names
  have hfind : plan.orchestrator.jobs.find? (fun job => job.name = line.name)
      = some line.pipeline.toJob :=
    Orchestrator.find?_of_nodup hnames (List.mem_map_of_mem h.mem)
  have hstands := (runJob_calmly plan h.outlets h.feed v s hs hv).2
  rw [Orchestrator.run_of_find? hfind] at hreports
  change ∃ c, plan.Stands line o (some c) (plan.orchestrator.run line.name s).2.ledger
  rw [Orchestrator.run_of_find? hfind]
  rcases hout : (plan.orchestrator.runJob line.pipeline.toJob s).1 with p | report <;>
    rw [hout] at hreports
  · cases hreports
  · obtain rfl := Except.ok.inj hreports
    exact hstands report hout (hquiet report List.mem_cons_self)

/-- **A run of all pipelines** in which nothing panics. -/
theorem runAll_stands (h : plan.Separate line o) (hs : s.Calm)
    (hv : plan.Stands line o v s.ledger)
    (hquiet : Quiet (Command.runAll.answer plan.orchestrator s).1) :
    ∃ c, plan.Stands line o (some c) (Command.runAll.perform plan.orchestrator s).2.ledger := by
  obtain ⟨reports, hreports, hquiet⟩ := hquiet
  change (plan.orchestrator.runAll s).1.mapError Fault.panic = .ok reports at hreports
  obtain ⟨front, back, hlines, hfront, hback⟩ := h.exists_split
  have hjobs : plan.orchestrator.jobs = front.map (·.pipeline.toJob) ++
      line.pipeline.toJob :: back.map (·.pipeline.toJob) := by simp [orchestrator, hlines]
  have hall : (plan.orchestrator.runAll s).1 = .ok reports := by
    rcases hall : (plan.orchestrator.runAll s).1 with p | all <;> rw [hall] at hreports
    · cases hreports
    · exact congrArg _ (Except.ok.inj hreports)
  have hrun : plan.orchestrator.runJobs plan.orchestrator.jobs s
      = (.ok reports, (plan.orchestrator.runAll s).2) :=
    Prod.ext (Orchestrator.runAll_eq_ok_iff.mp hall).1 rfl
  rw [hjobs] at hrun
  obtain ⟨first, rest, s₁, hrunFront, hrunRest, rfl⟩ :=
    Orchestrator.reported_of_runJobs_append hrun
  obtain ⟨report, others, s₂, hrunLine, hrunBack, rfl⟩ :=
    Orchestrator.reported_of_runJobs_cons hrunRest
  have h₁ := runJobs_spares (fun x hx => (hfront x hx).1) (fun x hx => (hfront x hx).2) s hs hv
  rw [hrunFront] at h₁
  have h₂ := runJob_calmly plan h.outlets h.feed v s₁ h₁.1 h₁.2
  rw [hrunLine] at h₂
  obtain ⟨c, hc⟩ := h₂.2 report rfl (hquiet report (by simp))
  have h₃ := runJobs_spares (fun x hx => (hback x hx).1) (fun x hx => (hback x hx).2) s₂ h₂.1 hc
  rw [hrunBack] at h₃
  exact ⟨c, h₃.2⟩

/-- **After any runs** the pipeline stands at its checkpoint. -/
theorem Ran.stands (ho : plan.Separate line o) {n : Nat} (h : plan.Ran line n l) :
    ∃ v, plan.Stands line o v l ∧ (0 < n → v.isSome) := by
  induction h with
  | start tables asc =>
    have hnil : Window.rows ⟨plan.initial, plan.initial⟩ (tables line.source) = [] :=
      Window.rows_eq_nil (lt_irrefl _)
    have hexact : o.Exact line.source plan.initial ⟨tables, fun _ => [], {}, []⟩ plan.initial :=
      ⟨asc _, le_rfl, .inl le_rfl, (congrArg (List.filter o.processable) hnil).symm⟩
    have hlabelled : plan.Labelled ⟨tables, fun _ => [], {}, []⟩ := fun name c hc => by cases hc
    exact ⟨none, ⟨rfl, rfl, rfl, hlabelled, hexact⟩, by simp⟩
  | @run n l _ command hcommand script calm quiet ih =>
    obtain ⟨v, hv, -⟩ := ih
    obtain ⟨c, hc⟩ : ∃ c, plan.Stands line o (some c)
        (command.perform plan.orchestrator { ledger := l, script }).2.ledger := by
      rcases hcommand with rfl | rfl
      · exact run_stands ho calm hv quiet
      · exact runAll_stands ho calm hv quiet
    exact ⟨some c, hc, fun _ => rfl⟩
  | @other n l _ name hname script calm ih =>
    obtain ⟨v, hv, hsome⟩ := ih
    have hcommand : Calmly (plan.Stands line o v) ((Command.run name).perform plan.orchestrator)
        fun _ l => plan.Stands line o v l :=
      Calmly.bind (run_spares ho hname) fun _ => Calmly.pure fun l h => h
    exact ⟨v, (hcommand { ledger := l, script } calm hv).2, hsome⟩

/-- **What a plain sink holds is the table up to the checkpoint**, after every run: the wanted rows,
each once and in the order of the table. -/
theorem Ran.exactly_once (ho : plan.Separate line o) {n : Nat} (h : plan.Ran line (n + 1) l) :
    ∃ c, l.stored.get? plan.group line.name = some c ∧ (l.logs o.sink).flatten =
      (Window.rows ⟨plan.initial, c.upTo⟩ (l.tables line.source)).filter o.processable := by
  obtain ⟨v, hv, hsome⟩ := h.stands ho
  obtain ⟨c, rfl⟩ := Option.isSome_iff_exists.mp (hsome n.succ_pos)
  exact ⟨c, hv.stored, hv.tells.exact.flatten_logs⟩

/-- A plan with two pipelines of one source and one row in a batch. -/
def copying : Plan Unit Bool Row where
  group := "g"
  lines := [
    { name := "p", source := (), pageSize := 10, outlets := [{ name := "all", sink := true }] },
    { name := "q", source := (), pageSize := 10, outlets := [{ name := "all", sink := false }] }]
  batchSize := 1

/-- A sink rejects one batch of a run. -/
def rejecting (n : Nat) : Turn Unit Bool Row :=
  { now := .atSecond 4, reply := .ok (if n = 5 then .rejected none else .committed 1 1) }

/-- Two runs, in both of which a sink rejects a batch. -/
theorem Ran.exactly_once_copying : ∃ line o l, copying.Separate line o ∧ copying.Ran line 2 l ∧
    ∃ c, l.stored.get? copying.group line.name = some c ∧ (l.logs o.sink).flatten =
      (Window.rows ⟨copying.initial, c.upTo⟩ (l.tables line.source)).filter o.processable := by
  have hcalm : ∀ n, (rejecting n).Calm := fun n => ⟨rfl, rfl⟩
  obtain ⟨line, o, ho⟩ : ∃ line o, copying.Separate line o :=
    ⟨_, _, by decide, List.mem_cons_self, rfl, rfl, by simp [copying]⟩
  obtain ⟨l, h⟩ : ∃ l, copying.Ran line 2 l :=
    ⟨_, .run (.run (.start (fun _ => [⟨.atSecond 1, ∅⟩, ⟨.atSecond 2, ∅⟩, ⟨.atSecond 3, ∅⟩])
      fun _ => by decide +kernel) (.inr rfl) hcalm (by decide +kernel)) (.inr rfl) hcalm
      (by decide +kernel)⟩
  exact ⟨line, o, l, ho, h, Ran.exactly_once ho h⟩

end Plan

end Ingest
