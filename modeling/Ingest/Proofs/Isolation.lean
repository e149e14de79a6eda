import Ingest.Proofs.World.Estate
import Mathlib.Data.List.Nodup

/-!
# Proofs/Isolation — jobs that share nothing do not notice each other

Each job has a part of the world for itself, by its name, and a checkpoint of its own. What a run
does depends on these alone (`runApart_alike`), and it leaves those of the others as they are
(`runApart_spares`). So running all jobs is running each of them alone, as long as their totals can
be counted: a run that adds too much to the totals of its job panics where nothing catches it, and
the jobs after it do not run (`Roster.runAll_stopped`). Main statement: `Roster.runAll_isolated`.
-/

namespace Ingest

variable {κ : Type}

/-- The same jobs, each on a part of the world that has its name. -/
def Roster.apart (roster : Roster κ) : Roster (String → κ) where
  group := roster.group
  jobs := roster.jobs.map fun job => job.within (.at job.name)
  batchSize := roster.batchSize
  initial := roster.initial

/-! ## Estates that are alike for one job -/

namespace Estate

/-- The two estates have the same for a job: its part of the world, its checkpoint, and what becomes
of its accesses to the store. -/
structure Alike (group name : String) (s t : Estate (String → κ)) : Prop where
  work : t.work name = s.work name
  stored : t.stored.get? group name = s.stored.get? group name
  refusals : t.refusals (some name) = s.refusals (some name)

/-- The same estate once the clock was read `i` times. -/
def later {π : Type} (s : Estate π) (i : Nat) : Estate π :=
  { s with readings := fun n => s.readings (i + n) }

@[simp] theorem later_zero {π : Type} (s : Estate π) : s.later 0 = s := by
  simp [later]

namespace Alike

variable {group name : String} {s t u : Estate (String → κ)} {a b : CheckpointTable}

theorem refl (s : Estate (String → κ)) : Alike group name s s := ⟨rfl, rfl, rfl⟩

theorem symm (h : Alike group name s t) : Alike group name t s :=
  ⟨h.work.symm, h.stored.symm, h.refusals.symm⟩

theorem trans (h : Alike group name s t) (h' : Alike group name t u) : Alike group name s u :=
  ⟨h'.work.trans h.work, h'.stored.trans h.stored, h'.refusals.trans h.refusals⟩

/-- The clock is not part of what is compared. -/
theorem later (s : Estate (String → κ)) (i : Nat) : Alike group name s (s.later i) :=
  ⟨rfl, rfl, rfl⟩

/-- Reading the clock keeps estates alike. -/
theorem tick (h : Alike group name s t) : Alike group name s.tick t.tick :=
  ⟨h.work, h.stored, h.refusals⟩

/-- An access for the job, in both estates. -/
theorem accessed (h : Alike group name s t) (hab : b.get? group name = a.get? group name) :
    Alike group name (s.accessed (some name) a) (t.accessed (some name) b) where
  work := h.work
  stored := hab
  refusals := by
    funext n
    rw [accessed_refusals_self, accessed_refusals_self, h.refusals]

/-- An access for another job, in one of the estates. -/
theorem spare (h : Alike group name s t) {other : String} (hne : name ≠ other)
    (hb : b.get? group name = t.stored.get? group name) :
    Alike group name s (t.accessed (some other) b) where
  work := h.work
  stored := hb.trans h.stored
  refusals := by
    rw [accessed_refusals_of_ne t b (fun heq => hne (Option.some.inj heq)), h.refusals]

end Alike

end Estate

namespace CheckpointTable

/-- Tables that agree in a place agree there after the same checkpoint is put. -/
theorem get?_put_congr {t t' : CheckpointTable} {group name : String}
    (h : t'.get? group name = t.get? group name) (c : Checkpoint) :
    (t'.put c).get? group name = (t.put c).get? group name := by
  rw [get?_put, get?_put, h]

theorem get?_put_of_ne {t : CheckpointTable} {c : Checkpoint} {group name : String}
    (h : ¬(group = c.group ∧ name = c.pipeline)) : (t.put c).get? group name = t.get? group name :=
  (get?_put t c group name).trans (if_neg h)

end CheckpointTable

/-! ## One run -/

namespace Roster

variable (roster : Roster κ) {job : Job κ} {s t : Estate (String → κ)} {group name : String}

/-- Runs one job on its part of the world. -/
def runApart (job : Job κ) : StateM (Estate (String → κ)) (Except Panic RunReport) :=
  roster.apart.runJob (job.within (.at job.name))

/-- What a run starts from is the checkpoint of its job. -/
theorem previous_alike (h : s.Alike roster.group job.name t) :
    roster.apart.previous (job.within (.at job.name)) t
      = roster.apart.previous (job.within (.at job.name)) s := by
  have hstored : t.stored.get? roster.apart.group (job.within (.at job.name)).name
      = s.stored.get? roster.apart.group (job.within (.at job.name)).name := h.stored
  rw [previous, previous, hstored]

/-- What a job does depends on its own part of the world, and changes nothing else. -/
theorem execution_alike (h : s.Alike roster.group job.name t) (hnow : t.readings 0 = s.readings 0) :
    (roster.apart.execution (job.within (.at job.name)) t).1
      = (roster.apart.execution (job.within (.at job.name)) s).1 ∧
    (roster.apart.execution (job.within (.at job.name)) t).2 job.name
      = (roster.apart.execution (job.within (.at job.name)) s).2 job.name := by
  have heq : ∀ u : Estate (String → κ), roster.apart.execution (job.within (.at job.name)) u
      = (Region.at job.name).lift (job.execute ⟨roster.group,
        ⟨(roster.apart.previous (job.within (.at job.name)) u).upTo, u.readings 0⟩,
        max roster.batchSize 1⟩) u.work := fun u => rfl
  rw [heq, heq, roster.previous_alike h, hnow]
  simp only [Region.lift, Region.at, h.work, Function.update_self, and_self]

/-- A job leaves the parts of the others alone. -/
theorem execution_spares (hne : name ≠ job.name) :
    (roster.apart.execution (job.within (.at job.name)) s).2 name = s.work name :=
  Function.update_of_ne hne _ _

/-- The report of a job is told from its own part. -/
theorem report_alike (h : s.Alike roster.group job.name t) (hnow : t.readings 0 = s.readings 0) :
    roster.apart.report (job.within (.at job.name)) t
      = roster.apart.report (job.within (.at job.name)) s := by
  rw [report, report, roster.previous_alike h, (roster.execution_alike h hnow).1]

/-- When a job has done its work the estates are still alike for it. -/
theorem afterWork_alike (h : s.Alike roster.group job.name t)
    (hnow : t.readings 0 = s.readings 0) :
    (roster.apart.afterWork (job.within (.at job.name)) s).Alike roster.group job.name
      (roster.apart.afterWork (job.within (.at job.name)) t) := by
  have hmark : (roster.apart.afterMark (job.within (.at job.name)) s).Alike roster.group job.name
      (roster.apart.afterMark (job.within (.at job.name)) t) := by
    refine (h.tick.accessed h.stored).accessed ?_
    rw [roster.previous_alike h, hnow]
    exact CheckpointTable.get?_put_congr h.stored _
  exact ⟨(roster.execution_alike h hnow).2, hmark.stored, hmark.refusals⟩

/-- **A run of a job** comes to the same in estates that are alike for it. -/
theorem runApart_alike (hs : s.stored.Labelled) (ht : t.stored.Labelled)
    (h : s.Alike roster.group job.name t) (hnow : t.readings 0 = s.readings 0) :
    (roster.runApart job t).1 = (roster.runApart job s).1 ∧
      (roster.runApart job s).2.Alike roster.group job.name (roster.runApart job t).2 := by
  have href : ∀ n, t.refusals (some (job.within (.at job.name)).name) n
      = s.refusals (some (job.within (.at job.name)).name) n := congrFun h.refusals
  have hread := h.tick.accessed h.stored
  have hwork := roster.afterWork_alike h hnow
  have hreport := roster.report_alike h hnow
  unfold runApart
  rcases h₀ : s.refusals (some (job.within (.at job.name)).name) 0 with _ | e
  swap
  · rw [roster.apart.runJob_of_unread h₀, roster.apart.runJob_of_unread ((href 0).trans h₀)]
    exact ⟨rfl, hread⟩
  rcases h₁ : s.refusals (some (job.within (.at job.name)).name) 1 with _ | e
  swap
  · rw [roster.apart.runJob_of_unmarked hs h₀ h₁,
      roster.apart.runJob_of_unmarked ht ((href 0).trans h₀) ((href 1).trans h₁)]
    exact ⟨rfl, hread.accessed h.stored⟩
  have hrecorded : roster.apart.recorded (job.within (.at job.name)) t
      = roster.apart.recorded (job.within (.at job.name)) s := by
    rw [recorded, recorded, roster.previous_alike h, hnow, hreport]
  have h₀' := (href 0).trans h₀
  have h₁' := (href 1).trans h₁
  by_cases hfit : (roster.apart.recorded (job.within (.at job.name)) s).TotalsFit
  swap
  · rw [roster.apart.runJob_of_overflow hs h₀ h₁ hfit,
      roster.apart.runJob_of_overflow ht h₀' h₁' (hrecorded ▸ hfit)]
    exact ⟨rfl, hwork⟩
  rcases h₂ : s.refusals (some (job.within (.at job.name)).name) 2 with _ | e
  swap
  · rw [roster.apart.runJob_of_unrecorded hs h₀ h₁ hfit h₂, roster.apart.runJob_of_unrecorded ht
      h₀' h₁' (hrecorded ▸ hfit) ((href 2).trans h₂), hreport]
    exact ⟨rfl, hwork.accessed hwork.stored⟩
  · rw [roster.apart.runJob_of_recorded hs h₀ h₁ hfit h₂, roster.apart.runJob_of_recorded ht
      h₀' h₁' (hrecorded ▸ hfit) ((href 2).trans h₂), hreport, hrecorded]
    exact ⟨rfl, hwork.accessed (CheckpointTable.get?_put_congr hwork.stored _)⟩

/-- **A run of a job** leaves alone what belongs to the others. -/
theorem runApart_spares (hs : s.stored.Labelled) (hne : name ≠ job.name) :
    s.Alike group name (roster.runApart job s).2 := by
  have hput : ∀ (t : CheckpointTable) (c : Checkpoint), c.pipeline = job.name →
      (t.put c).get? group name = t.get? group name := fun t c hc =>
    CheckpointTable.get?_put_of_ne fun heq => hne (heq.2.trans hc)
  let own := job.within (.at job.name)
  have hmarked : (roster.apart.previous own s).pipeline = job.name :=
    (roster.apart.previous_labels hs).2
  have hrecorded : (roster.apart.recorded own s).pipeline = job.name :=
    (roster.apart.recorded_labels hs).2
  have htick : s.Alike group name s.tick := ⟨rfl, rfl, rfl⟩
  have hread : s.Alike group name (afterRead (job.within (.at job.name)) s) := htick.spare hne rfl
  have hmark : s.Alike group name (roster.apart.afterMark (job.within (.at job.name)) s) :=
    hread.spare hne (hput _ _ hmarked)
  have hwork : s.Alike group name (roster.apart.afterWork (job.within (.at job.name)) s) :=
    ⟨roster.execution_spares hne, hmark.stored, hmark.refusals⟩
  exact roster.apart.runJob_cases hs (P := fun out => s.Alike group name out.2) (fun _ => hread)
    (fun _ => hread.spare hne rfl) (fun _ _ _ => hwork) (fun _ _ _ => hwork.spare hne rfl)
    fun _ _ _ => hwork.spare hne (hput _ _ hrecorded)

/-- Checkpoints of other groups stay as they are. -/
theorem runApart_get?_of_ne (hs : s.stored.Labelled) (hne : group ≠ roster.group) :
    (roster.runApart job s).2.stored.get? group name = s.stored.get? group name := by
  have hput : ∀ (t : CheckpointTable) (c : Checkpoint), c.group = roster.group →
      (t.put c).get? group name = t.get? group name := fun t c hc =>
    CheckpointTable.get?_put_of_ne fun heq => hne (heq.1.trans hc)
  have hmark := hput s.stored ((roster.apart.previous (job.within (.at job.name)) s).loading
    (s.readings 0)) (roster.apart.previous_labels hs).1
  exact roster.apart.runJob_cases hs
    (P := fun out => out.2.stored.get? group name = s.stored.get? group name) (fun _ => rfl)
    (fun _ => rfl) (fun _ _ _ => hmark) (fun _ _ _ => hmark)
    fun _ _ _ => (hput _ _ (roster.apart.recorded_labels hs).1).trans hmark

/-- A run reads the clock once. -/
theorem runApart_readings (hs : s.stored.Labelled) :
    (roster.runApart job s).2.readings = fun n => s.readings (n + 1) :=
  roster.apart.runJob_cases hs (P := fun out => out.2.readings = fun n => s.readings (n + 1))
    (fun _ => rfl) (fun _ => rfl) (fun _ _ _ => rfl) (fun _ _ _ => rfl) fun _ _ _ => rfl

/-- A report names its job. -/
theorem runApart_pipeline (hs : s.stored.Labelled) :
    ∀ report, (roster.runApart job s).1 = .ok report → report.pipeline = job.name := by
  have hreport : (roster.apart.report (job.within (.at job.name)) s).pipeline = job.name := by
    unfold report
    cases (roster.apart.execution (job.within (.at job.name)) s).1 <;> rfl
  refine roster.apart.runJob_cases hs
    (P := fun out => ∀ report, out.1 = .ok report → report.pipeline = job.name) ?_ ?_ ?_ ?_ ?_
  · rintro e r ⟨⟩
    rfl
  · rintro e r ⟨⟩
    rfl
  · rintro - - - r ⟨⟩
  · rintro e - - r ⟨⟩
    exact hreport
  · rintro - - - r ⟨⟩
    exact hreport

/-- Checkpoints keep their labels in a run. -/
theorem runApart_labelled (hs : s.stored.Labelled) :
    (roster.runApart job s).2.stored.Labelled :=
  roster.apart.runJob_labelled hs

section After

variable {answer : Except Panic RunReport} {s' : Estate (String → κ)}
  (hs : s.stored.Labelled) (hrun : roster.runApart job s = (answer, s'))

include hs hrun

/-- After the run of a job the estate is the same for the others. -/
theorem alike_of_runApart (hne : name ≠ job.name) : s.Alike group name s' := by
  have h : s.Alike group name (roster.runApart job s).2 := roster.runApart_spares hs hne
  rwa [hrun] at h

/-- After the run of a job the checkpoints of other groups are the same. -/
theorem get?_of_runApart (hne : group ≠ roster.group) :
    s'.stored.get? group name = s.stored.get? group name := by
  have h : (roster.runApart job s).2.stored.get? group name = s.stored.get? group name :=
    roster.runApart_get?_of_ne hs hne
  rwa [hrun] at h

/-- **A job that comes later** does the same after the run of another job and without it. -/
theorem runApart_after {other : Job κ} (hne : other.name ≠ job.name) (i : Nat) :
    (roster.runApart other (s.later (i + 1))).1 = (roster.runApart other (s'.later i)).1 ∧
      (roster.runApart other (s'.later i)).2.Alike roster.group other.name
        (roster.runApart other (s.later (i + 1))).2 := by
  have hlabelled : (roster.runApart job s).2.stored.Labelled := roster.runApart_labelled hs
  have hclock : (roster.runApart job s).2.readings = fun n => s.readings (n + 1) :=
    roster.runApart_readings hs
  rw [hrun] at hlabelled hclock
  refine roster.runApart_alike hlabelled hs ((Estate.Alike.later s' i).symm.trans
    ((roster.alike_of_runApart hs hrun hne).symm.trans (.later s (i + 1)))) ?_
  change s.readings (i + 1) = s'.readings i
  rw [hclock]

end After

/-! ## All runs -/

/-- The jobs before the one at `i` are all reported, each of them run for itself with the clock as
it is at its turn. -/
def Reaches (jobs : List (Job κ)) (s : Estate (String → κ)) (i : Nat) : Prop :=
  ∀ j < i, ∀ job, jobs[j]? = some job →
    ∃ report, (roster.runApart job (s.later j)).1 = .ok report

/-- The turn of the first job always comes. -/
theorem reaches_zero (jobs : List (Job κ)) (s : Estate (String → κ)) : roster.Reaches jobs s 0 :=
  fun j hj => absurd hj j.not_lt_zero

/-- The turn of a later job comes if the job in front is reported and so are those between. -/
theorem reaches_succ {jobs : List (Job κ)} {i : Nat} : roster.Reaches (job :: jobs) s (i + 1) ↔
    (∃ report, (roster.runApart job s).1 = .ok report) ∧
      ∀ j < i, ∀ other, jobs[j]? = some other →
        ∃ report, (roster.runApart other (s.later (j + 1))).1 = .ok report := by
  constructor
  · intro h
    refine ⟨by simpa using h 0 i.succ_pos job rfl, fun j hj other hother => ?_⟩
    exact h (j + 1) (Nat.succ_lt_succ hj) other (by simpa using hother)
  · rintro ⟨hfirst, hrest⟩ (_ | j) hj other hother
    · obtain rfl : job = other := by simpa using hother
      simpa using hfirst
    · exact hrest j (Nat.lt_of_succ_lt_succ hj) other (by simpa using hother)

/-- What becomes of jobs that are run one after the other. They are all reported exactly if each is
when it is alone, and then these are the reports. What is left for a job is what a run alone leaves
if its turn comes, and otherwise what there was. -/
structure Apart (jobs : List (Job κ)) (s : Estate (String → κ))
    (out : Except Panic (List RunReport) × Estate (String → κ)) : Prop where
  answered : ∀ reports, out.1 = .ok reports ↔
    ∀ i, jobs[i]?.map (fun job => (roster.runApart job (s.later i)).1) = reports[i]?.map .ok
  pipelines : ∀ reports, out.1 = .ok reports → reports.map (·.pipeline) = jobs.map (·.name)
  alone : ∀ i job, jobs[i]? = some job → roster.Reaches jobs s i →
    (roster.runApart job (s.later i)).2.Alike roster.group job.name out.2
  unreached : ∀ i job, jobs[i]? = some job → ¬roster.Reaches jobs s i →
    s.Alike roster.group job.name out.2
  others : ∀ group name, name ∉ jobs.map (·.name) → s.Alike group name out.2
  groups : ∀ group name, group ≠ roster.group →
    out.2.stored.get? group name = s.stored.get? group name

namespace Apart

variable {roster} {jobs : List (Job κ)} {s' : Estate (String → κ)}

/-- Without jobs nothing happens. -/
theorem nil (s : Estate (String → κ)) : roster.Apart [] s (.ok [], s) where
  answered reports := by
    constructor
    · rintro ⟨⟩ i
      rfl
    · intro h
      rcases reports with _ | ⟨report, others⟩
      · rfl
      · cases h 0
  pipelines reports h := by
    obtain rfl := Except.ok.inj h
    rfl
  alone i job hjob := by cases hjob
  unreached i job hjob := by cases hjob
  others _ _ _ := .refl s
  groups _ _ _ := rfl

theorem name_ne (hname : job.name ∉ jobs.map (·.name)) {i : Nat} {other : Job κ}
    (hother : jobs[i]? = some other) : other.name ≠ job.name := fun heq =>
  hname (heq ▸ List.mem_map_of_mem (List.mem_of_getElem? hother))

/-- **A job in front that panics** keeps the others from running. -/
theorem cons_of_error (hs : s.stored.Labelled) (hname : job.name ∉ jobs.map (·.name)) {p : Panic}
    (hrun : roster.runApart job s = (.error p, s')) :
    roster.Apart (job :: jobs) s (.error p, s') := by
  constructor
  · intro reports
    refine ⟨fun h => (by cases h), fun h => ?_⟩
    have hfirst := h 0
    rw [Estate.later_zero, List.getElem?_cons_zero, Option.map_some, hrun] at hfirst
    rcases reports with _ | ⟨report, others⟩
    · cases hfirst
    · cases Option.some.inj hfirst
  · intro reports h
    cases h
  · rintro (_ | i) other hother hreaches
    · obtain rfl : job = other := by simpa using hother
      rw [Estate.later_zero, hrun]
      exact .refl s'
    · obtain ⟨⟨report, hreport⟩, -⟩ := roster.reaches_succ.mp hreaches
      rw [hrun] at hreport
      cases hreport
  · rintro (_ | i) other hother hreaches
    · exact absurd (roster.reaches_zero _ s) hreaches
    · exact roster.alike_of_runApart hs hrun (name_ne hname (by simpa using hother))
  · intro group name hmem
    rw [List.map_cons, List.mem_cons, not_or] at hmem
    exact roster.alike_of_runApart hs hrun hmem.1
  · exact fun group name => roster.get?_of_runApart hs hrun

section Reported

variable (hs : s.stored.Labelled) (hname : job.name ∉ jobs.map (·.name)) {report : RunReport}
  (hrun : roster.runApart job s = (.ok report, s'))

include hs hname hrun

/-- Behind a job that is reported the turn of a job comes as it would without that job. -/
theorem reaches_cons (i : Nat) :
    roster.Reaches (job :: jobs) s (i + 1) ↔ roster.Reaches jobs s' i := by
  rw [roster.reaches_succ, hrun]
  constructor
  · rintro ⟨-, h⟩ j hj other hother
    rw [← (roster.runApart_after hs hrun (name_ne hname hother) j).1]
    exact h j hj other hother
  · refine fun h => ⟨⟨report, rfl⟩, fun j hj other hother => ?_⟩
    rw [(roster.runApart_after hs hrun (name_ne hname hother) j).1]
    exact h j hj other hother

/-- The answers of all jobs are the report of the first one and the answers of the others. -/
theorem answers_cons (reports : List RunReport) :
    (∀ i, (job :: jobs)[i]?.map (fun job => (roster.runApart job (s.later i)).1)
        = reports[i]?.map .ok) ↔
      ∃ others, reports = report :: others ∧
        ∀ i, jobs[i]?.map (fun job => (roster.runApart job (s'.later i)).1)
          = others[i]?.map .ok := by
  have hsame : ∀ i, jobs[i]?.map (fun job => (roster.runApart job (s.later (i + 1))).1)
      = jobs[i]?.map fun job => (roster.runApart job (s'.later i)).1 := fun i =>
    Option.map_congr fun other hother =>
      (roster.runApart_after hs hrun (name_ne hname hother) i).1
  constructor
  · intro hall
    have hfirst := hall 0
    rw [Estate.later_zero, List.getElem?_cons_zero, Option.map_some, hrun] at hfirst
    rcases reports with _ | ⟨told, others⟩
    · cases hfirst
    obtain rfl : report = told := Except.ok.inj (Option.some.inj hfirst)
    refine ⟨others, rfl, fun i => ?_⟩
    rw [← hsame]
    exact hall (i + 1)
  · rintro ⟨others, rfl, hothers⟩ (_ | i)
    · simp [hrun]
    · rw [List.getElem?_cons_succ, List.getElem?_cons_succ, hsame, hothers i]

/-- **A job in front that is reported** is not noticed by the others, which have other names. -/
theorem cons_of_ok {out : Except Panic (List RunReport) × Estate (String → κ)}
    (h : roster.Apart jobs s' out) :
    roster.Apart (job :: jobs) s (out.1.map (report :: ·), out.2) := by
  have hreport : ∀ reports, out.1.map (report :: ·) = .ok reports ↔
      ∃ others, reports = report :: others ∧ out.1 = .ok others := fun reports => by
    rcases out.1 with p | others <;> simp [Except.map, eq_comm]
  constructor
  · intro reports
    rw [hreport, answers_cons hs hname hrun]
    exact exists_congr fun others => and_congr_right fun _ => h.answered others
  · intro reports hreports
    obtain ⟨others, rfl, hothers⟩ := (hreport reports).mp hreports
    rw [List.map_cons, List.map_cons, h.pipelines others hothers,
      roster.runApart_pipeline hs report (by rw [hrun])]
  · rintro (_ | i) other hother hreached
    · obtain rfl : job = other := by simpa using hother
      rw [Estate.later_zero, hrun]
      exact h.others _ _ hname
    · have hother : jobs[i]? = some other := by simpa using hother
      exact (roster.runApart_after hs hrun (name_ne hname hother) i).2.symm.trans
        (h.alone i other hother ((reaches_cons hs hname hrun i).mp hreached))
  · rintro (_ | i) other hother hreached
    · exact absurd (roster.reaches_zero _ s) hreached
    · have hother : jobs[i]? = some other := by simpa using hother
      exact (roster.alike_of_runApart hs hrun (name_ne hname hother)).trans
        (h.unreached i other hother (mt (reaches_cons hs hname hrun i).mpr hreached))
  · intro group name hmem
    rw [List.map_cons, List.mem_cons, not_or] at hmem
    exact (roster.alike_of_runApart hs hrun hmem.1).trans (h.others group name hmem.2)
  · intro group name hne
    exact (h.groups group name hne).trans (roster.get?_of_runApart hs hrun hne)

end Reported

end Apart

/-- **Jobs that are run one after the other** do not notice each other. -/
theorem runJobs_apart {jobs : List (Job κ)} (hs : s.stored.Labelled)
    (hnames : (jobs.map (·.name)).Nodup) : roster.Apart jobs s
      (roster.apart.orchestrator.runJobs
        ((jobs.map fun job => job.within (.at job.name)).map (·.within Estate.region)) s) := by
  induction jobs generalizing s with
  | nil => exact .nil s
  | cons job jobs ih =>
    obtain ⟨hname, hnames⟩ := List.nodup_cons.mp hnames
    have hlabelled : (roster.runApart job s).2.stored.Labelled := roster.runApart_labelled hs
    rw [List.map_cons, List.map_cons]
    rcases hrun : roster.runApart job s with ⟨p | report, s'⟩
    · rw [Orchestrator.runJobs_cons_of_error hrun]
      exact .cons_of_error hs hname hrun
    · rw [Orchestrator.runJobs_cons_of_ok hrun]
      rw [hrun] at hlabelled
      exact .cons_of_ok hs hname hrun (ih hlabelled hnames)

/-- A run by name is the run of the job of that name. -/
theorem run_apart (hnames : (roster.jobs.map (·.name)).Nodup) (hjob : job ∈ roster.jobs)
    (t : Estate (String → κ)) : roster.apart.orchestrator.run job.name t
      = ((roster.runApart job t).1.mapError .panic, (roster.runApart job t).2) := by
  refine roster.apart.run_of_find? ?_ t
  change (roster.jobs.map _).find? _ = _
  rw [List.find?_map]
  exact congrArg (Option.map _) (Orchestrator.find?_of_nodup hnames hjob)

/-- What a run of a job alone answers is a report, or not, as it is apart from the others. -/
theorem run_answers_iff (hnames : (roster.jobs.map (·.name)).Nodup)
    (s : Estate (String → κ)) (i : Nat) (report : Option RunReport) :
    roster.jobs[i]?.map (fun job => (roster.apart.orchestrator.run job.name (s.later i)).1)
        = report.map .ok ↔
      roster.jobs[i]?.map (fun job => (roster.runApart job (s.later i)).1) = report.map .ok := by
  rcases hjob : roster.jobs[i]? with _ | job
  · cases report <;> simp
  rw [Option.map_some, Option.map_some, roster.run_apart hnames (List.mem_of_getElem? hjob)]
  cases report <;> cases (roster.runApart job (s.later i)).1 <;> simp [Except.mapError]

/-- The turn of the job at `i` comes: each job before it is reported if it is run alone, with the
clock as it is at its turn. -/
def Reached (s : Estate (String → κ)) (i : Nat) : Prop :=
  ∀ j < i, ∀ job, roster.jobs[j]? = some job →
    ∃ report, (roster.apart.orchestrator.run job.name (s.later j)).1 = .ok report

/-- Whether the turn of a job comes can be told from the runs of the jobs. -/
theorem reached_iff (hnames : (roster.jobs.map (·.name)).Nodup) (s : Estate (String → κ))
    (i : Nat) : roster.Reached s i ↔ roster.Reaches roster.jobs s i := by
  refine forall₄_congr fun j _ job hjob => exists_congr fun report => ?_
  rw [roster.run_apart hnames (List.mem_of_getElem? hjob)]
  cases (roster.runApart job (s.later j)).1 <;> simp [Except.mapError]

/-- Three jobs that count their runs; the first one panics. -/
def threesome : Roster Nat where
  group := "g"
  jobs := [
    { name := "a"
      execute := fun _ n => (.error (.panic (.text "lost")), n + 1)
      cleanUp := fun _ n => (.ok (), n) },
    { name := "b"
      execute := fun e n => (.ok ⟨"b", .success, e.window.upTo, n, 0, none, []⟩, n + 1)
      cleanUp := fun _ n => (.ok (), n) },
    { name := "c"
      execute := fun e n => (.ok ⟨"c", .success, e.window.upTo, n, 0, none, []⟩, n + 1)
      cleanUp := fun _ n => (.ok (), n) }]

/-- A job that is not in the roster has a checkpoint, and the last job cannot record its report. -/
def threesomeStart : Estate (String → Nat) where
  work := fun _ => 5
  stored := CheckpointTable.put {} (.neverRun "g" "d" .epoch)
  refusals := fun key n => if key = some "c" ∧ n = 2 then some (.repository "away") else none
  readings := fun n => .atSecond (10 + n)

/-- For the job in the middle nothing else has changed. -/
def threesomeAlone : Estate (String → Nat) where
  work := fun name => if name = "b" then 5 else 0
  stored := {}
  readings := fun n => .atSecond (11 + n)

/-- Two jobs that load a row. -/
def twosome : Roster Nat where
  group := "g"
  jobs := [
    { name := "a"
      execute := fun e n => (.ok ⟨"a", .success, e.window.upTo, 1, 0, none, []⟩, n + 1)
      cleanUp := fun _ n => (.ok (), n) },
    { name := "b"
      execute := fun e n => (.ok ⟨"b", .success, e.window.upTo, 1, 0, none, []⟩, n + 1)
      cleanUp := fun _ n => (.ok (), n) }]

/-- The total of the first job has no room for another row. -/
def twosomeStart : Estate (String → Nat) where
  work := fun _ => 0
  stored := CheckpointTable.put {}
    { Checkpoint.neverRun "g" "a" .epoch with totalRows := 0x7fffffffffffffff }
  readings := fun n => .atSecond (10 + n)

end Roster

end Ingest
