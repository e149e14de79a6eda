import Ingest.Proofs.World.Estate
import Mathlib.Data.List.Induction

/-!
# Proofs/Stored — what a table of checkpoints answers

A table that started empty went through some changes. A look-up answers the checkpoint that was put
last and not deleted since (`get?_after_eq_some_iff`), and a listing of a group has the same
checkpoints, by name (`mem_list_iff`, `pairwise_list`). So the checkpoints that an orchestrator
tells are those that a look-up answers. Main statement: `answers_agree`.
-/

namespace Ingest

namespace OrderedMap

variable {κ α : Type} [Ord κ] [Std.TransOrd κ] [Std.LawfulEqOrd κ] [DecidableEq κ]

omit [DecidableEq κ] in
theorem ofList_concat (l : List (κ × α)) (e : κ × α) :
    (ofList (l ++ [e]) : OrderedMap κ α) = (ofList l).insert e.1 e.2 := by
  rw [ofList, List.foldl_append]
  rfl

/-- A list in which no key is twice is looked up as it is. -/
theorem get?_ofList_eq_some_iff {l : List (κ × α)} (hkeys : (l.map (·.1)).Nodup) {k : κ} {x : α} :
    (ofList l).get? k = some x ↔ (k, x) ∈ l := by
  induction l using List.reverseRecOn with
  | nil => simp [ofList]
  | append_singleton l e ih =>
    rw [List.map_append, List.nodup_append] at hkeys
    obtain ⟨hl, -, hne⟩ := hkeys
    rw [ofList_concat, get?_insert, List.mem_append, List.mem_singleton]
    by_cases hk : k = e.1
    · subst hk
      have hnot : (e.1, x) ∉ l := fun hmem => hne _ (List.mem_map_of_mem hmem) e.1 (by simp) rfl
      simp [hnot, Prod.ext_iff, eq_comm]
    · simp [hk, ih hl, Prod.ext_iff]

end OrderedMap

namespace CheckpointTable

variable {group name : String} {c : Checkpoint} {t : CheckpointTable}

/-! ## Changes -/

/-- A change to a table of checkpoints. -/
inductive Change where
  | put (c : Checkpoint)
  | delete (group pipeline : String)

/-- Makes a change. -/
def Change.perform : Change → StateM CheckpointTable (Except Error Unit)
  | put c => store.put c
  | delete group pipeline => store.delete group pipeline

/-- Whether a change is to the checkpoint of a pipeline of a group. -/
def Change.Concerns (group name : String) : Change → Prop
  | put c => group = c.group ∧ name = c.pipeline
  | delete g n => group = g ∧ name = n

/-- An empty table after changes. -/
def after (changes : List Change) : CheckpointTable :=
  changes.foldl (fun t change => (change.perform t).2) {}

/-- A checkpoint was put under this group and name, and not replaced or deleted since. -/
def LastPut (changes : List Change) (group name : String) (c : Checkpoint) : Prop :=
  ∃ before later, changes = before ++ .put c :: later ∧ group = c.group ∧ name = c.pipeline ∧
    ∀ change ∈ later, ¬change.Concerns group name

theorem after_concat (changes : List Change) (change : Change) :
    after (changes ++ [change]) = (change.perform (after changes)).2 := by
  rw [after, List.foldl_append]
  rfl

/-- Whatever is put and deleted, checkpoints stand under their own labels. -/
theorem labelled_after (changes : List Change) : (after changes).Labelled := by
  induction changes using List.reverseRecOn with
  | nil => exact labelled_empty
  | append_singleton changes change ih =>
    rw [after_concat]
    cases change with
    | put c => exact ih.put c
    | delete group name => exact ih.delete group name

/-- What was put last, after one more change. -/
theorem lastPut_concat {changes : List Change} {change : Change} :
    LastPut (changes ++ [change]) group name c ↔
      (change = .put c ∧ group = c.group ∧ name = c.pipeline) ∨
        (¬change.Concerns group name ∧ LastPut changes group name c) := by
  constructor
  · rintro ⟨before, later, heq, hgroup, hname, hlater⟩
    rcases List.eq_nil_or_concat' later with rfl | ⟨later, last, rfl⟩
    · obtain ⟨-, rfl⟩ := List.append_inj' heq rfl |>.imp id List.singleton_inj.mp
      exact .inl ⟨rfl, hgroup, hname⟩
    · rw [← List.cons_append, ← List.append_assoc] at heq
      obtain ⟨rfl, rfl⟩ := List.append_inj' heq rfl |>.imp id List.singleton_inj.mp
      obtain ⟨hlater, hlast⟩ := List.forall_mem_append.mp hlater
      exact .inr ⟨hlast _ List.mem_cons_self, before, later, rfl, hgroup, hname, hlater⟩
  · rintro (⟨rfl, hgroup, hname⟩ | ⟨hchange, before, later, rfl, hgroup, hname, hlater⟩)
    · exact ⟨changes, [], rfl, hgroup, hname, by simp⟩
    · refine ⟨before, later ++ [change], by simp, hgroup, hname, ?_⟩
      exact List.forall_mem_append.mpr ⟨hlater, by simpa using hchange⟩

/-- A look-up after one more change. -/
theorem get?_perform (t : CheckpointTable) (change : Change) :
    (change.perform t).2.get? group name = some c ↔
      (change = .put c ∧ group = c.group ∧ name = c.pipeline) ∨
        (¬change.Concerns group name ∧ t.get? group name = some c) := by
  cases change with
  | put d =>
    change (t.put d).get? group name = some c ↔ _ ∨ ¬(group = d.group ∧ name = d.pipeline) ∧ _
    rw [get?_put, Change.put.injEq]
    split_ifs with hkey
    · rw [Option.some.injEq]
      exact ⟨fun h => .inl ⟨h, h ▸ hkey⟩, fun h => h.elim And.left fun h => absurd hkey h.1⟩
    · exact ⟨fun h => .inr ⟨hkey, h⟩, fun h => h.elim (fun h => absurd (h.1 ▸ h.2) hkey) And.right⟩
  | delete g n =>
    change (t.delete g n).get? group name = some c ↔ _ ∨ ¬(group = g ∧ name = n) ∧ _
    rw [get?_delete]
    split_ifs with hkey
    · simp [hkey]
    · simp [hkey]

/-- **A look-up** answers what was put last. -/
theorem get?_after_eq_some_iff {changes : List Change} :
    (after changes).get? group name = some c ↔ LastPut changes group name c := by
  induction changes using List.reverseRecOn with
  | nil =>
    have hnone : ¬LastPut [] group name c := fun ⟨before, later, heq, _⟩ => by simp at heq
    exact iff_of_false (fun h => nomatch h) hnone
  | append_singleton changes change ih => rw [after_concat, lastPut_concat, ← ih, get?_perform]

/-! ## Listings -/

/-- An entry stands under the group and the pipeline of its checkpoint. -/
theorem Labelled.key_eq (ht : t.Labelled) {e : (String × String) × Checkpoint}
    (he : e ∈ t.checkpoints.entries) : e.1 = (e.2.group, e.2.pipeline) := by
  obtain ⟨hgroup, hname⟩ := ht e.1.1 e.1.2 e.2 (OrderedMap.get?_eq_some_iff.mpr he)
  rw [hgroup, hname]

/-- A list has what is found under the group. -/
theorem mem_list_iff (ht : t.Labelled) :
    c ∈ t.list group ↔ c.group = group ∧ t.get? group c.pipeline = some c := by
  simp only [list, OrderedMap.values, List.mem_filter, List.mem_map, decide_eq_true_eq, get?,
    OrderedMap.get?_eq_some_iff]
  constructor
  · rintro ⟨⟨e, he, rfl⟩, rfl⟩
    exact ⟨rfl, ht.key_eq he ▸ he⟩
  · rintro ⟨hgroup, he⟩
    exact ⟨⟨_, he, rfl⟩, hgroup⟩

/-- **A listing** of a group has the checkpoints that a look-up answers. -/
theorem mem_list_iff_exists (ht : t.Labelled) :
    c ∈ t.list group ↔ ∃ name, t.get? group name = some c := by
  rw [mem_list_iff ht]
  constructor
  · exact fun h => ⟨_, h.2⟩
  · rintro ⟨name, hget⟩
    obtain ⟨hgroup, rfl⟩ := ht group name c hget
    exact ⟨hgroup, hget⟩

theorem compare_pipelines (group name name' : String) :
    compare (group, name) (group, name') = compare name name' := by
  have hsame : compare group group = .eq := Std.ReflCmp.compare_self
  change (compare group group).then (compare name name') = _
  rw [hsame]
  rfl

/-- **A listing** is by name. -/
theorem pairwise_list (ht : t.Labelled) (group : String) :
    (t.list group).Pairwise fun c d => c.pipeline < d.pipeline := by
  have hvalues : t.checkpoints.values.Pairwise fun c d =>
      c.group = d.group → c.pipeline < d.pipeline := by
    refine List.pairwise_map.mpr (t.checkpoints.ascending.imp_of_mem ?_)
    intro e e' he he' hlt hgroup
    rw [ht.key_eq he, ht.key_eq he', hgroup, compare_pipelines] at hlt
    exact compareOfLessAndEq_eq_lt.mp hlt
  refine (hvalues.filter _).imp_of_mem fun {c d} hc hd hlt => hlt ?_
  have hgroup : ∀ x ∈ t.list group, x.group = group := fun x hx =>
    of_decide_eq_true (List.mem_filter.mp hx).2
  rw [hgroup c hc, hgroup d hd]

/-- The listed checkpoints by name answer what a look-up answers. -/
theorem get?_ofList_list (ht : t.Labelled) (group name : String) :
    (OrderedMap.ofList ((t.list group).map fun c => (c.pipeline, c))).get? name =
      t.get? group name := by
  have hkeys : (((t.list group).map fun c => (c.pipeline, c)).map (·.1)).Nodup := by
    rw [List.map_map]
    have hne : ∀ c d : Checkpoint, c.pipeline < d.pipeline → c.pipeline ≠ d.pipeline :=
      fun c d hlt heq => String.lt_irrefl _ (heq ▸ hlt)
    exact (pairwise_list ht group).map _ hne
  refine Option.ext fun c => ?_
  have hlookup := OrderedMap.get?_ofList_eq_some_iff hkeys (k := name) (x := c)
  rw [hlookup, List.mem_map]
  constructor
  · rintro ⟨c, hc, heq⟩
    obtain ⟨rfl, rfl⟩ := Prod.mk.inj heq
    exact ((mem_list_iff ht).mp hc).2
  · intro hget
    obtain ⟨hgroup, rfl⟩ := ht group name c hget
    exact ⟨c, (mem_list_iff ht).mpr ⟨hgroup, hget⟩, rfl⟩

end CheckpointTable

/-! ## In a larger world -/

/-- A whole world, as a part of it. -/
def Region.whole {ω : Type} : Region ω ω where
  get w := w
  set w _ := w
  get_set _ _ := rfl
  set_set _ _ _ := rfl
  set_get _ := rfl

/-- A store in a region of a larger world. -/
def CheckpointStore.within {ω σ : Type} (g : Region ω σ) (store : CheckpointStore σ) :
    CheckpointStore ω where
  get group name := g.lift (store.get group name)
  put c := g.lift (store.put c)
  delete group name := g.lift (store.delete group name)
  list group := g.lift (store.list group)

namespace Orchestrator

/-- What an orchestrator tells if its store answers a listing. -/
theorem status_eq {ω : Type} (o : Orchestrator ω) (w : ω) {cs : List Checkpoint}
    (h : o.store.list o.group w = (.ok cs, w)) :
    o.status w =
      (.ok (o.statusOf (o.jobs.map (·.name)) (.ofList (cs.map fun c => (c.pipeline, c)))), w) := by
  change ((o.store.list o.group w).1.map _, (o.store.list o.group w).2) = _
  rw [h]
  rfl

/-- Jobs with names of their own each take their own checkpoint. -/
theorem statusOf_of_nodup {ω : Type} (o : Orchestrator ω) {names : List String}
    (hnames : names.Nodup) (stored : OrderedMap String Checkpoint) :
    o.statusOf names stored =
      names.map fun name => (stored.get? name).getD (.neverRun o.group name o.initial) := by
  induction names generalizing stored with
  | nil => rfl
  | cons name names ih =>
    obtain ⟨hname, hnames⟩ := List.nodup_cons.mp hnames
    rw [statusOf, ih hnames, List.map_cons]
    refine congrArg _ (List.map_congr_left fun other hother => ?_)
    rw [OrderedMap.get?_erase, if_neg (ne_of_mem_of_not_mem hother hname)]

end Orchestrator

namespace CheckpointTable

/-- **What is answered agrees.** The table of a world started empty and went through some changes. A
look-up answers the checkpoint that was put last under its group and name and not deleted since. A
listing has the checkpoints that look-ups in its group answer, strictly by name. An orchestrator
whose jobs have names of their own tells one checkpoint for each job, in their order: the one that
a look-up answers, or that of a job that was never run. -/
theorem answers_agree {ω : Type} (g : Region ω CheckpointTable) (changes : List Change) (w : ω)
    (hw : g.get w = after changes) :
    (∀ group name, ∃ answer, (store.within g).get group name w = (.ok answer, w) ∧
      ∀ c, answer = some c ↔ LastPut changes group name c) ∧
    (∀ group, ∃ cs, (store.within g).list group w = (.ok cs, w) ∧
      cs.Pairwise (fun c d => c.pipeline < d.pipeline) ∧
      ∀ c, c ∈ cs ↔ ∃ name, (store.within g).get group name w = (.ok (some c), w)) ∧
    ∀ o : Orchestrator ω, o.store = store.within g → (o.jobs.map (·.name)).Nodup →
      ∃ cs, o.status w = (.ok cs, w) ∧
        List.Forall₂ (fun job c =>
          (store.within g).get o.group job.name w = (.ok (some c), w) ∨
            (store.within g).get o.group job.name w = (.ok none, w) ∧
              c = .neverRun o.group job.name o.initial) o.jobs cs := by
  have hget : ∀ group name,
      (store.within g).get group name w = (.ok ((after changes).get? group name), w) :=
    fun group name => Prod.ext (by rw [← hw]; rfl) (g.set_get w)
  have hlist : ∀ group, (store.within g).list group w = (.ok ((after changes).list group), w) :=
    fun group => Prod.ext (by rw [← hw]; rfl) (g.set_get w)
  have hlabelled := labelled_after changes
  refine ⟨fun group name => ⟨_, hget group name, fun c => get?_after_eq_some_iff⟩,
    fun group => ⟨_, hlist group, pairwise_list hlabelled group, fun c => ?_⟩,
    fun o hstore hnames => ?_⟩
  · have hsome : ∀ name, (store.within g).get group name w = (.ok (some c), w) ↔
        (after changes).get? group name = some c := by
      intro name
      rw [hget]
      exact ⟨fun h => Except.ok.inj (Prod.mk.inj h).1, fun h => by rw [h]⟩
    simp only [hsome]
    exact mem_list_iff_exists hlabelled
  · have hstatus : o.status w = (.ok (o.jobs.map fun job => ((after changes).get? o.group
        job.name).getD (.neverRun o.group job.name o.initial)), w) := by
      have hrun := o.status_eq w (hstore ▸ hlist o.group)
      rw [hrun, o.statusOf_of_nodup hnames, List.map_map]
      simp only [get?_ofList_list hlabelled]
      rfl
    refine ⟨_, hstatus, List.forall₂_map_right_iff.mpr (List.forall₂_same.mpr fun job _ => ?_)⟩
    rw [hget]
    rcases (after changes).get? o.group job.name with _ | c
    · exact .inr ⟨rfl, rfl⟩
    · exact .inl rfl

/-- Pipelines whose names begin alike, in two groups. -/
def namesakes : List Change :=
  [.put (.neverRun "g" "load" .epoch), .put (.neverRun "g" "loader" .epoch),
    .put (.neverRun "h" "load" (.atSecond 1)), .put (.neverRun "g" "lo" .epoch),
    .delete "g" "loader", .put (.neverRun "g" "load" (.atSecond 2)), .delete "h" "lo"]

/-- Two of them, with a world that is the table. -/
def namesakeJobs : Orchestrator CheckpointTable where
  group := "g"
  jobs := ["loader", "load"].map fun name =>
    { name := name
      execute := fun _ => pure (.error (.panic (.text "lost")))
      cleanUp := fun _ => pure (.ok ()) }
  store := store.within .whole
  clock := pure .epoch
  initial := .atSecond 3

/-- The one that was deleted is told as never run, and the other one as it was put last. -/
theorem answers_agree_namesakes :
    Region.whole.get (after namesakes) = after namesakes ∧ (namesakeJobs.jobs.map (·.name)).Nodup ∧
      namesakeJobs.status (after namesakes) = (.ok [.neverRun "g" "loader" (.atSecond 3),
        .neverRun "g" "load" (.atSecond 2)], after namesakes) ∧
      LastPut namesakes "g" "load" (.neverRun "g" "load" (.atSecond 2)) := by
  have hnames : (namesakeJobs.jobs.map (·.name)).Nodup := by decide
  have htold : (namesakeJobs.status (after namesakes)).1 =
      .ok [.neverRun "g" "loader" (.atSecond 3), .neverRun "g" "load" (.atSecond 2)] := by
    decide +kernel
  have hload : ((store.within .whole).get "g" "load" (after namesakes)).1 =
      .ok (some (.neverRun "g" "load" (.atSecond 2))) := by
    decide +kernel
  obtain ⟨hlookup, -, hstatus⟩ := answers_agree .whole namesakes (after namesakes) rfl
  obtain ⟨cs, hcs, -⟩ := hstatus namesakeJobs rfl hnames
  obtain ⟨answer, hanswer, hlast⟩ := hlookup "g" "load"
  refine ⟨rfl, hnames, ?_, (hlast _).mp ?_⟩
  · rw [hcs, Except.ok.inj ((congrArg Prod.fst hcs).symm.trans htold)]
  · exact Except.ok.inj ((congrArg Prod.fst hanswer).symm.trans hload)

end CheckpointTable

end Ingest
