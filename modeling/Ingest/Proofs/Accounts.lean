import Ingest.Proofs.Isolation
import Ingest.Proofs.World.Watched
import Mathlib.Algebra.BigOperators.Ring.Finset
import Mathlib.Data.List.Induction

/-!
# Proofs/Accounts — totals account for every recorded run

From what a watcher wrote down one can tell which runs of a pipeline were recorded since its
checkpoint was last forgotten: a run is recorded if the first access after its execution is a write
that is granted (`account`). A run whose totals are too great panics before it writes, and the next
access is the reading of another run. The stored checkpoint has the sum of the rows that were
recorded, after each thing that was written down and so also in the middle of a run (`Kept`). Main
statement: `Roster.totals_account`.
-/

namespace Ingest

open Estate

/-! ## Accounts -/

/-- What is known about the runs of a pipeline. -/
structure Account where
  /-- The rows of the run that is to be recorded next. -/
  due : Option Nat := none
  /-- The rows of each run that was recorded since the checkpoint was last forgotten. -/
  rows : List Nat := []

namespace Account

/-- What is known after one more deed. -/
def note (a : Account) : Deed → Account
  | .read => { a with due := none }
  | .executed rows => { a with due := some rows }
  | .wrote true => { rows := a.rows ++ a.due.toList }
  | .wrote false => { a with due := none }
  | .forgot true => {}
  | .forgot false => { a with due := none }

/-- The checkpoint has the rows of these runs. -/
structure Matches (a : Account) (c : Checkpoint) : Prop where
  total : c.totalRows = (a.rows.map Orchestrator.signed).sum
  last : c.rows = (a.rows.getLast?.map Orchestrator.signed).getD 0

/-- Without a checkpoint no run was recorded. -/
def Tells (a : Account) (stored : Option Checkpoint) : Prop :=
  stored.elim (a.rows = []) a.Matches

variable {a b : Account} {c previous : Checkpoint} {stored : Option Checkpoint}

/-- An account and a checkpoint are compared by their rows. -/
theorem Matches.of_rows_eq (h : a.Matches c) (hrows : b.rows = a.rows) : b.Matches c :=
  ⟨hrows ▸ h.total, hrows ▸ h.last⟩

theorem Tells.of_rows_eq (h : a.Tells stored) (hrows : b.rows = a.rows) : b.Tells stored := by
  cases stored with
  | none => exact hrows.trans h
  | some c => exact Matches.of_rows_eq h hrows

/-- A run starts from a checkpoint that has the rows of the runs before it. -/
theorem Tells.matches_previous (h : a.Tells stored) (group name : String) (initial : Instant) :
    a.Matches (stored.getD (.neverRun group name initial)) := by
  cases stored with
  | none =>
    have hrows : a.rows = [] := h
    exact ⟨by rw [hrows]; rfl, by rw [hrows]; rfl⟩
  | some c => exact h

/-- Marking a checkpoint keeps its figures. -/
theorem Matches.loading (h : a.Matches c) (hdue : a.due = none) (now : Instant) :
    (a.note (.wrote true)).Matches (c.loading now) := by
  have hrows : (a.note (.wrote true)).rows = a.rows := by simp [note, hdue]
  exact Matches.of_rows_eq ⟨h.total, h.last⟩ hrows

theorem getLast?_map_getD (f : Nat → Int) (rows : List Nat) (r : Nat) :
    ((rows ++ [r]).getLast?.map f).getD 0 = f r := by
  rw [List.getLast?_concat, Option.map_some, Option.getD_some]

/-- **The final write** adds the rows of the run. -/
theorem Matches.recorded (h : a.Matches previous) (now : Instant) {report : RunReport} {rows : Nat}
    (hrows : report.rows = rows) : ((a.note (.executed rows)).note (.wrote true)).Matches
      (Orchestrator.checkpointOf previous now report) where
  total := by
    simp only [Orchestrator.checkpointOf, Checkpoint.recorded, h.total, hrows, note,
      Option.toList_some, List.map_append, List.map_singleton, List.sum_append,
      List.sum_singleton]
  last := by
    rw [note, note, Option.toList_some, getLast?_map_getD, Orchestrator.checkpointOf,
      Checkpoint.recorded, hrows]

/-- Counts that fit are stored as they are. -/
theorem Matches.eq_sum (h : a.Matches c) (hrows : ∀ rows ∈ a.rows, rows < 2 ^ 63) :
    c.totalRows = a.rows.sum ∧ c.rows = a.rows.getLast?.getD 0 := by
  have hmap : a.rows.map Orchestrator.signed = a.rows.map Nat.cast :=
    List.map_congr_left fun rows h => Orchestrator.signed_of_lt (hrows rows h)
  refine ⟨?_, ?_⟩
  · rw [h.total, hmap, Nat.cast_list_sum]
  · rw [h.last, ← List.getLast?_map, hmap, List.getLast?_map]
    cases a.rows.getLast? <;> rfl

/-- The rows of the runs that were recorded or are to be recorded. -/
def seen (a : Account) : List Nat := a.rows ++ a.due.toList

theorem mem_seen_note {rows : Nat} {deed : Deed} (h : rows ∈ (a.note deed).seen) :
    deed = .executed rows ∨ rows ∈ a.seen := by
  have hleft : ∀ {r}, r ∈ a.rows → r ∈ a.seen := fun hr => List.mem_append_left _ hr
  match deed with
  | .read => exact .inr (hleft (by simpa [note, seen] using h))
  | .executed rows' =>
    rcases List.mem_append.mp h with h | h
    · exact .inr (hleft h)
    · exact .inl (congrArg Deed.executed (List.mem_singleton.mp h).symm)
  | .wrote true => exact .inr (by simpa [note, seen] using h)
  | .wrote false => exact .inr (hleft (by simpa [note, seen] using h))
  | .forgot true => simp [note, seen] at h
  | .forgot false => exact .inr (hleft (by simpa [note, seen] using h))

end Account

/-- What is known about the runs of a pipeline from what was written down. -/
def account (name : String) (log : List Entry) : Account :=
  (log.filter (·.name = name)).foldl (fun a entry => a.note entry.deed) {}

section Account

variable {name other : String} {log : List Entry} {deed : Deed} {t : CheckpointTable}

/-- An entry is noted in the account of its pipeline. -/
theorem account_append_self (name : String) (log : List Entry) (deed : Deed)
    (t : CheckpointTable) :
    account name (log ++ [⟨name, deed, t⟩]) = (account name log).note deed := by
  simp [account, List.filter_append]

/-- An entry is not noted in the account of another pipeline. -/
theorem account_append_of_ne (h : other ≠ name) (log : List Entry) (deed : Deed)
    (t : CheckpointTable) : account other (log ++ [⟨name, deed, t⟩]) = account other log := by
  simp [account, List.filter_append, h.symm]

/-- What was recorded was executed. -/
theorem exists_executed (name : String) (log : List Entry) :
    ∀ rows ∈ (account name log).seen, ∃ entry ∈ log, entry.deed = .executed rows := by
  induction log using List.reverseRecOn with
  | nil => simp [account, Account.seen]
  | append_singleton log entry ih =>
    intro rows hrows
    have hold : rows ∈ (account name log).seen →
        ∃ entry' ∈ log ++ [entry], entry'.deed = .executed rows := fun hrows => by
      obtain ⟨entry', hentry, hdeed⟩ := ih rows hrows
      exact ⟨entry', List.mem_append_left _ hentry, hdeed⟩
    by_cases hname : name = entry.name
    · subst hname
      rw [account_append_self] at hrows
      rcases Account.mem_seen_note hrows with hdeed | hrows
      · exact ⟨entry, List.mem_append_right _ (List.mem_singleton_self _), hdeed⟩
      · exact hold hrows
    · rw [account_append_of_ne hname] at hrows
      exact hold hrows

end Account

/-! ## Programs that preserve something -/

/-- The program leaves behind only worlds with `P`. -/
def Preserves {ω α : Type} (P : ω → Prop) (m : StateM ω α) : Prop := ∀ w, P w → P (m w).2

namespace Preserves

variable {ω α β : Type} {P : ω → Prop}

theorem pure (x : α) : Preserves P (Pure.pure x : StateM ω α) := fun _ h => h

theorem bind {m : StateM ω α} {k : α → StateM ω β} (hm : Preserves P m)
    (hk : ∀ x, Preserves P (k x)) : Preserves P (m >>= k) := fun w hw => hk _ _ (hm w hw)

/-- What each run keeps, all keep. -/
theorem runJobs {o : Orchestrator ω} {jobs : List (Job ω)}
    (hrun : ∀ job ∈ jobs, Preserves P (o.runJob job)) : Preserves P (o.runJobs jobs) := by
  induction jobs with
  | nil => exact pure _
  | cons job jobs ih =>
    obtain ⟨hjob, hjobs⟩ := List.forall_mem_cons.mp hrun
    refine hjob.bind fun out => ?_
    rcases out with p | report
    · exact pure _
    · exact (ih hjobs).bind fun _ => pure _

/-- What is kept for each job is kept for all. -/
theorem forEachJob {act : Job ω → StateM ω (Except Error Unit)} {jobs : List (Job ω)}
    (hact : ∀ job ∈ jobs, Preserves P (act job)) :
    Preserves P (Orchestrator.forEachJob act jobs) := by
  induction jobs with
  | nil => exact pure _
  | cons job jobs ih =>
    obtain ⟨hjob, hjobs⟩ := List.forall_mem_cons.mp hact
    refine hjob.bind fun done => ?_
    rcases done with e | ⟨⟩
    · exact pure _
    · exact ih hjobs

/-- **A command** preserves what a run, a deletion and an emptied sink preserve. -/
theorem perform {o : Orchestrator ω} (hrun : ∀ job ∈ o.jobs, Preserves P (o.runJob job))
    (hdelete : ∀ name, Preserves P (o.store.delete o.group name))
    (hempty : ∀ job ∈ o.jobs, Preserves P (job.cleanUp o.group)) (command : Plan.Command) :
    Preserves P (command.perform o) := by
  have hall : Preserves P o.runAll := (runJobs hrun).bind fun _ => pure _
  cases command with
  | run name =>
    refine bind ?_ fun _ => pure _
    unfold Orchestrator.run
    split
    · rename_i job hfind
      exact (hrun job (List.mem_of_find?_eq_some hfind)).bind fun _ => pure _
    · exact pure _
  | runAll => exact hall.bind fun _ => pure _
  | rerun deleteData =>
    refine bind ?_ fun _ => pure _
    unfold Orchestrator.rerun
    refine (forEachJob fun job _ => hdelete job.name).bind fun forgotten => ?_
    rcases forgotten with e | ⟨⟩
    · exact pure _
    have hemptied : ∀ job ∈ if deleteData then o.jobs else [],
        Preserves P (job.cleanUp o.group) := by
      cases deleteData
      · simp
      · exact hempty
    refine (forEachJob hemptied).bind fun emptied => ?_
    rcases emptied with e | ⟨⟩
    · exact pure _
    · exact hall.bind fun _ => pure _

end Preserves

/-! ## What is kept -/

section Kept

variable {π : Type} {group name : String} {s s' : Estate π} {log : List Entry} {deed : Deed}
  {w : Estate π × List Entry} {start : CheckpointTable}

/-- The stored checkpoints of a group tell what was recorded, now and after each entry. At first
they were `start`. -/
structure Kept (start : CheckpointTable) (group : String) (w : Estate π × List Entry) : Prop where
  labelled : w.1.stored.Labelled
  latest : (w.2.getLast?.map Entry.stored).getD start = w.1.stored
  now : ∀ name, (account name w.2).Tells (w.1.stored.get? group name)
  each : ∀ front entry, front ++ [entry] <+: w.2 →
    ∀ name, (account name (front ++ [entry])).Tells (entry.stored.get? group name)

/-- Only the table matters, and what was written down. -/
theorem Kept.of_stored (h : Kept start group (s, log)) (hs : s'.stored = s.stored) :
    Kept start group (s', log) :=
  ⟨hs ▸ h.labelled, hs ▸ h.latest, fun name => hs ▸ h.now name, h.each⟩

/-- **One more entry** concerns its own pipeline. -/
theorem Kept.noted (h : Kept start group (s, log)) (hlabelled : s'.stored.Labelled)
    (hown : ((account name log).note deed).Tells (s'.stored.get? group name))
    (hothers : ∀ other ≠ name, s'.stored.get? group other = s.stored.get? group other) :
    Kept start group (s', log ++ [⟨name, deed, s'.stored⟩]) := by
  have hnow : ∀ other, (account other (log ++ [⟨name, deed, s'.stored⟩])).Tells
      (s'.stored.get? group other) := fun other => by
    by_cases hother : other = name
    · subst hother
      rwa [account_append_self]
    · rw [account_append_of_ne hother, hothers other hother]
      exact h.now other
  refine ⟨hlabelled, by rw [List.getLast?_concat]; rfl, hnow, fun front entry hfront => ?_⟩
  rcases List.prefix_concat_iff.mp hfront with heq | hfront
  · obtain ⟨rfl, hentry⟩ := List.append_inj' heq rfl
    obtain rfl := List.singleton_inj.mp hentry
    exact hnow
  · exact h.each front entry hfront

/-- An entry that leaves the table as it is. -/
theorem Kept.noted_of_stored (h : Kept start group (s, log)) (hs : s'.stored = s.stored)
    (hrows : ((account name log).note deed).rows = (account name log).rows) :
    Kept start group (s', log ++ [⟨name, deed, s'.stored⟩]) :=
  h.noted (hs ▸ h.labelled) (hs ▸ (h.now name).of_rows_eq hrows) fun _ _ => by rw [hs]

/-! ## Accesses -/

theorem Estate.access_cases {α : Type} (key : Option String)
    (act : CheckpointTable → α × CheckpointTable) (s : Estate π) :
    ∃ s', access key act s = (.ok (act s.stored).1, s') ∧ s'.stored = (act s.stored).2 ∨
      ∃ e, access key act s = (.error e, s') ∧ s'.stored = s.stored := by
  rcases h : s.refusals key 0 with _ | e
  · exact ⟨_, .inl ⟨access_of_granted h, rfl⟩⟩
  · exact ⟨_, .inr ⟨e, access_of_refused h, rfl⟩⟩

variable (roster : Roster π) {c : Checkpoint}

/-- **A write** of a checkpoint that has the rows that are due. -/
theorem put_kept (h : Kept start roster.group w) (hgroup : c.group = roster.group)
    (hname : c.pipeline = name) (hmatches : ((account name w.2).note (.wrote true)).Matches c) :
    ∃ r w', roster.orchestrator.watched.store.put c w = (r, w') ∧ Kept start roster.group w' ∧
      account name w'.2 = (account name w.2).note (.wrote r.toBool) := by
  obtain ⟨s, log⟩ := w
  subst hname
  have hput : ∃ s', roster.orchestrator.store.put c s = (.ok (), s') ∧
        s'.stored = s.stored.put c ∨
      ∃ e, roster.orchestrator.store.put c s = (.error e, s') ∧ s'.stored = s.stored :=
    access_cases (some c.pipeline) (fun t => ((), t.put c)) s
  obtain ⟨s', ⟨hput, hs⟩ | ⟨e, hput, hs⟩⟩ := hput
  · refine ⟨.ok (), _, noted_eq hput c.pipeline (fun r => .wrote r.toBool) log,
      h.noted (hs ▸ h.labelled.put c) ?_ fun other hother => ?_, account_append_self _ _ _ _⟩
    · rw [hs, CheckpointTable.get?_put, if_pos ⟨hgroup.symm, rfl⟩]
      exact hmatches
    · rw [hs]
      exact CheckpointTable.get?_put_of_ne fun heq => hother heq.2
  · exact ⟨.error e, _, noted_eq hput c.pipeline (fun r => .wrote r.toBool) log,
      h.noted_of_stored hs rfl, account_append_self _ _ _ _⟩

/-- **A deletion** of a checkpoint. -/
theorem delete_kept (name : String) : Preserves (Kept start roster.group)
    (roster.orchestrator.watched.store.delete roster.group name) := by
  rintro ⟨s, log⟩ h
  have hdelete : ∃ s', roster.orchestrator.store.delete roster.group name s = (.ok (), s') ∧
        s'.stored = s.stored.delete roster.group name ∨
      ∃ e, roster.orchestrator.store.delete roster.group name s = (.error e, s') ∧
        s'.stored = s.stored :=
    access_cases (some name) (fun t => ((), t.delete roster.group name)) s
  obtain ⟨s', ⟨hdelete, hs⟩ | ⟨e, hdelete, hs⟩⟩ := hdelete
  · have hnoted := congrArg Prod.snd (noted_eq hdelete name (fun r => .forgot r.toBool) log)
    refine hnoted.symm ▸ h.noted (hs ▸ h.labelled.delete _ _) ?_ fun other hother => ?_
    · rw [hs, CheckpointTable.get?_delete, if_pos ⟨rfl, rfl⟩]
      exact rfl
    · rw [hs, CheckpointTable.get?_delete, if_neg fun heq => hother heq.2]
  · have hnoted := congrArg Prod.snd (noted_eq hdelete name (fun r => .forgot r.toBool) log)
    exact hnoted.symm ▸ h.noted_of_stored hs rfl

/-! ## One run -/

/-- **What is read** has the rows of the runs so far, and so has its mark: a run that panicked
before it was recorded is not due any more. -/
theorem Kept.matches_loading {s : Estate π} {log : List Entry}
    (h : Kept start roster.group (s, log)) (job : Job π) (t : CheckpointTable) (now : Instant) :
    ((account job.name (log ++ [⟨job.name, .read, t⟩])).note (.wrote true)).Matches
      ((roster.previous job s).loading now) := by
  rw [account_append_self]
  refine Account.Matches.loading ?_ rfl now
  exact ((h.now job.name).matches_previous _ _ _).of_rows_eq rfl

/-- **Reading and marking** a checkpoint. What is read has the rows of the runs so far. -/
theorem begin_kept (h : Kept start roster.group w) (job : Job π) (now : Instant) :
    ∃ r w', roster.orchestrator.watched.begin job.name now w = (r, w') ∧
      Kept start roster.group w' ∧ ∀ previous, r = .ok previous →
        previous.group = roster.group ∧ previous.pipeline = job.name ∧
          (account job.name w'.2).Matches previous := by
  obtain ⟨s, log⟩ := w
  have hget : ∃ s', roster.orchestrator.store.get roster.group job.name s
        = (.ok (s.stored.get? roster.group job.name), s') ∧ s'.stored = s.stored ∨
      ∃ e, roster.orchestrator.store.get roster.group job.name s = (.error e, s') ∧
        s'.stored = s.stored :=
    access_cases (some job.name) (fun t => (t.get? roster.group job.name, t)) s
  obtain ⟨s', ⟨hget, hs⟩ | ⟨e, hget, hs⟩⟩ := hget
  swap
  · exact ⟨_, _, Orchestrator.begin_of_unread (noted_eq hget job.name (fun _ => .read) log),
      h.noted_of_stored hs rfl, by simp⟩
  have hread : Kept start roster.group (s', log ++ [⟨job.name, .read, s'.stored⟩]) :=
    h.noted_of_stored hs rfl
  obtain ⟨hgroup, hname⟩ : (roster.previous job s).group = roster.group ∧
      (roster.previous job s).pipeline = job.name := roster.previous_labels h.labelled
  have hmark := h.matches_loading roster job s'.stored now
  obtain ⟨r, w', hput, hkept, haccount'⟩ := put_kept roster hread
    (c := (roster.previous job s).loading now) hgroup hname hmark
  refine ⟨_, w', Orchestrator.begin_of_read (noted_eq hget job.name (fun _ => .read) log) rfl hput,
    hkept, ?_⟩
  rintro previous hprevious
  rcases r with e | ⟨⟩
  · cases hprevious
  obtain rfl : roster.previous job s = previous := Except.ok.inj hprevious
  exact ⟨hgroup, hname, haccount'.symm ▸ ⟨hmark.total, hmark.last⟩⟩

/-- A report has the rows of the result. -/
theorem reportOf_rows {ω : Type} (o : Orchestrator ω) (name : String) (since : Instant)
    (outcome : Attempt PipelineResult) :
    (o.reportOf name since outcome).rows = reportedRows outcome := by
  cases outcome <;> rfl

/-- **One run** leaves the stored checkpoints telling what was recorded, however it ends. -/
theorem runJob_kept (job : Job π) : Preserves (Kept start roster.group)
    (roster.orchestrator.watched.runJob (job.within Estate.region).watched) := by
  rintro ⟨s, log⟩ h
  have hclock : roster.orchestrator.watched.clock (s, log) = (s.readings 0, s.tick, log) := rfl
  have htick : Kept start roster.group (s.tick, log) := h.of_stored rfl
  obtain ⟨r, ⟨s₁, log₁⟩, hbegin, hbegun, hread⟩ := begin_kept roster htick job (s.readings 0)
  rcases r with e | previous
  · rw [Orchestrator.runJob_of_skipped hclock hbegin]
    exact hbegun
  obtain ⟨hgroup, hname, hmatches⟩ := hread previous rfl
  rcases hwork : (job.within Estate.region).execute
    ⟨roster.group, ⟨previous.upTo, s.readings 0⟩, max roster.batchSize 1⟩ s₁ with ⟨outcome, s₂⟩
  have hs₂ : s₂.stored = s₁.stored := (congrArg (·.2.stored) hwork).symm
  have hnoted := noted_eq hwork job.name (fun outcome => .executed (reportedRows outcome)) log₁
  rw [Orchestrator.runJob_of_begun hclock hbegin hnoted]
  -- the run is due now, and the write that follows, if one does, adds its rows
  have hkept : Kept start roster.group
      (s₂, log₁ ++ [⟨job.name, .executed (reportedRows outcome), s₂.stored⟩]) :=
    hbegun.noted_of_stored hs₂ rfl
  have hrecorded := hmatches.recorded (s.readings 0)
    (reportOf_rows roster.orchestrator.watched job.name previous.upTo outcome)
  rw [← account_append_self job.name log₁ _ s₂.stored] at hrecorded
  obtain ⟨r, w', hput, hkept', -⟩ := put_kept roster hkept
    (c := Orchestrator.checkpointOf previous (s.readings 0) _) hgroup hname hrecorded
  rcases Orchestrator.record_world roster.orchestrator.watched previous (s.readings 0)
    (roster.orchestrator.watched.reportOf job.name previous.upTo outcome)
    (s₂, log₁ ++ [⟨job.name, .executed (reportedRows outcome), s₂.stored⟩]) with hworld | hworld
  · exact hworld.symm ▸ hkept
  · exact (hworld.trans (congrArg Prod.snd hput)).symm ▸ hkept'

/-! ## Commands -/

/-- **A command** leaves the stored checkpoints telling what was recorded. -/
theorem perform_kept (command : Plan.Command) :
    Preserves (Kept start roster.group) (command.perform roster.orchestrator.watched) := by
  refine .perform (fun job hjob => ?_) (delete_kept roster) (fun job hjob => ?_) command
  all_goals
    obtain ⟨_, hwithin, rfl⟩ := List.mem_map.mp hjob
    obtain ⟨job, -, rfl⟩ := List.mem_map.mp hwithin
  · exact runJob_kept roster job
  · exact fun w h => h.of_stored rfl

end Kept

/-! ## Histories -/

namespace Roster

variable {π : Type}

/-- What is kept by commands that were given one after the other. -/
theorem observed_kept (roster : Roster π) (commands : List Plan.Command) {s : Estate π}
    (hs : s.stored.Labelled) (hnew : ∀ name, s.stored.get? roster.group name = none) :
    Kept s.stored roster.group (roster.observed commands s) := by
  refine List.foldlRecOn commands _ ⟨hs, rfl, fun name => ?_, fun front entry hfront => ?_⟩
    fun w h command _ => perform_kept roster command w h
  · rw [hnew name]
    exact rfl
  · simp at hfront

/-- **Totals account for every recorded run.** A store without checkpoints of the group is given
any commands; jobs come to anything and accesses are refused at any time. After each thing that the
watcher wrote down, and so also while a run goes on and after a write that was refused, a stored
checkpoint has the sum of the rows of the runs that were recorded since it was last forgotten, and
the rows of the last of them. Nothing was recorded where none is stored. The checkpoints after the
last entry are those at the end. -/
theorem totals_account (roster : Roster π) (commands : List Plan.Command) (s : Estate π)
    (hs : s.stored.Labelled) (hnew : ∀ name, s.stored.get? roster.group name = none)
    (hrows : ∀ entry ∈ (roster.observed commands s).2, ∀ rows ∈ entry.deed.rows?, rows < 2 ^ 63) :
    let history := (roster.observed commands s).2
    (roster.observed commands s).1 = roster.performAll commands s ∧
    (history.getLast?.map (·.stored)).getD s.stored = (roster.performAll commands s).stored ∧
    ∀ front entry, front ++ [entry] <+: history → ∀ name,
      let recorded := (account name (front ++ [entry])).rows
      match entry.stored.get? roster.group name with
      | some c => c.totalRows = recorded.sum ∧ c.rows = recorded.getLast?.getD 0
      | none => recorded = [] := by
  intro history
  have h := roster.observed_kept commands hs hnew
  refine ⟨roster.observed_eq commands s, ?_, fun front entry hfront name => ?_⟩
  · rw [← roster.observed_eq commands s]
    exact h.latest
  have hfits : ∀ rows ∈ (account name (front ++ [entry])).rows, rows < 2 ^ 63 := by
    intro rows hmem
    obtain ⟨entry', hentry, hdeed⟩ :=
      exists_executed name (front ++ [entry]) rows (List.mem_append_left _ hmem)
    exact hrows entry' (hfront.subset hentry) rows (hdeed ▸ rfl)
  have htells := h.each front entry hfront name
  generalize entry.stored.get? roster.group name = stored at htells ⊢
  rcases stored with _ | c
  · exact htells
  · exact Account.Matches.eq_sum htells hfits

/-- One job that reports two rows at first, and one more each time. -/
def growing : Roster Nat where
  group := "g"
  jobs := [{
    name := "p"
    execute := fun _ n => (.ok ⟨"p", .success, .atSecond n, n + 2, 0, none, []⟩, n + 1)
    cleanUp := fun _ n => (.ok (), n) }]

/-- Before any run. The store refuses the sixth access, which is the final write of the second
run. -/
def growingStart : Estate Nat where
  work := 0
  stored := {}
  refusals := fun _ n => if n = 5 then some (.repository "away") else none
  readings := fun n => .atSecond (10 + n)

/-- Three runs, the second of which is not recorded, and then a new start. -/
theorem totals_account_growing :
    let history := (growing.observed [.run "p", .runAll, .run "p", .rerun true] growingStart).2
    history.map (fun entry => (entry.stored.get? "g" "p").map fun c => (c.rows, c.totalRows))
      = [none, some (0, 0), some (0, 0), some (2, 2), some (2, 2), some (2, 2), some (2, 2),
          some (2, 2), some (2, 2), some (2, 2), some (2, 2), some (4, 6), none, none, some (0, 0),
          some (0, 0), some (5, 5)] ∧
    ∀ front entry, front ++ [entry] <+: history → ∀ name,
      let recorded := (account name (front ++ [entry])).rows
      match entry.stored.get? "g" name with
      | some c => c.totalRows = recorded.sum ∧ c.rows = recorded.getLast?.getD 0
      | none => recorded = [] :=
  ⟨by decide +kernel,
    (totals_account growing _ growingStart CheckpointTable.labelled_empty (fun _ => rfl)
      (by decide +kernel)).2.2⟩

end Roster

end Ingest
