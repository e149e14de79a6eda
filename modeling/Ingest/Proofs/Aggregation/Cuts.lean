import Ingest.Proofs.Aggregation.Grouping
import Ingest.Proofs.Aggregation.Segments
import Mathlib.Data.List.Dedup
import Mathlib.Data.List.Forall2

/-!
# Proofs/Aggregation/Cuts — where a flush cuts the rows of every key

A stage that flushes holds one group for each key since the last flush (`GroupsOf`). It flushes
right after the row that brings one key too many, and at the end of its input (`cuts`). So the rows
of all keys are cut at the same places, and within a flush each key has one group. Main statement:
`stage_partitions`, for which keys and merges must not fail.
-/

namespace Ingest

variable {κ ρ : Type} [DecidableEq κ]

/-! ## The groups of some rows -/

/-- One group for each key of the rows, the left fold of the rows of this key. -/
structure GroupsOf (key : ρ → κ) (merge : ρ → ρ → ρ) (rows : List ρ) (groups : List (Held κ ρ)) :
    Prop where
  nodup : (groups.map Held.key).Nodup
  members : ∀ g ∈ groups, g.members = rows.filter fun r => key r = g.key
  folds : ∀ g ∈ groups, ∃ first more, g.members = first :: more ∧
    g.group.row = more.foldl merge first
  covers : ∀ r ∈ rows, key r ∈ groups.map Held.key

namespace GroupsOf

variable {key : ρ → κ} {merge : ρ → ρ → ρ} {rows : List ρ} {groups groups' : List (Held κ ρ)}
  {g : Held κ ρ}

theorem nil (key : ρ → κ) (merge : ρ → ρ → ρ) : GroupsOf key merge [] [] :=
  ⟨.nil, by simp, by simp, by simp⟩

/-- The order of the groups does not matter. -/
theorem perm (h : GroupsOf key merge rows groups) (hperm : groups'.Perm groups) :
    GroupsOf key merge rows groups' where
  nodup := (hperm.map _).nodup_iff.mpr h.nodup
  members g hg := h.members g (hperm.mem_iff.mp hg)
  folds g hg := h.folds g (hperm.mem_iff.mp hg)
  covers r hr := (hperm.map _).mem_iff.mpr (h.covers r hr)

/-- The keys of the groups are the keys of the rows. -/
theorem mem_keys_iff (h : GroupsOf key merge rows groups) {k : κ} :
    k ∈ groups.map Held.key ↔ k ∈ rows.map key := by
  constructor
  · intro hk
    obtain ⟨g, hg, rfl⟩ := List.mem_map.mp hk
    obtain ⟨first, more, hfirst, -⟩ := h.folds g hg
    have hmem : first ∈ rows.filter fun r => key r = g.key := by
      rw [← h.members g hg, hfirst]
      exact List.mem_cons_self
    obtain ⟨hrow, hkey⟩ := List.mem_filter.mp hmem
    exact List.mem_map.mpr ⟨first, hrow, of_decide_eq_true hkey⟩
  · intro hk
    obtain ⟨r, hr, rfl⟩ := List.mem_map.mp hk
    exact h.covers r hr

/-- There are as many groups as keys. -/
theorem length_eq (h : GroupsOf key merge rows groups) :
    groups.length = (rows.map key).dedup.length := by
  have hperm : (groups.map Held.key).Perm (rows.map key).dedup :=
    (List.perm_ext_iff_of_nodup h.nodup (List.nodup_dedup _)).mpr fun k => by
      rw [List.mem_dedup, h.mem_keys_iff]
  simpa using hperm.length_eq

/-- **The group of a key**, if it has rows. -/
theorem map_members_filter (h : GroupsOf key merge rows groups) (k : κ) :
    (groups.filter fun g => g.key = k).map Held.members
      = [rows.filter fun r => key r = k].filter fun l => !l.isEmpty := by
  rcases filter_key_cases h.nodup k with hnone | ⟨g, hg, rfl, hsingle⟩
  · have hrows : rows.filter (fun r => key r = k) = [] := List.filter_eq_nil_iff.mpr fun r hr => by
      obtain ⟨g, hg, hgr⟩ := List.mem_map.mp (h.covers r hr)
      simpa [← hgr] using List.filter_eq_nil_iff.mp hnone g hg
    rw [hnone, hrows]
    rfl
  · obtain ⟨first, more, hfirst, -⟩ := h.folds g hg
    rw [hsingle, ← h.members g hg, hfirst]
    simp [hfirst]

/-- What is held of a key is the rows of the key. -/
theorem flatMap_members_filter (h : GroupsOf key merge rows groups) (k : κ) :
    (groups.filter fun g => g.key = k).flatMap (·.members) = rows.filter fun r => key r = k := by
  rw [List.flatMap_def, h.map_members_filter, List.flatten_filter_not_isEmpty,
    List.flatten_singleton]

/-- **One more row** joins what there is of its key. -/
theorem absorb (h : GroupsOf key merge rows groups) {r : ρ} (hkey : key r = g.key)
    (hmembers : g.members = (groups.filter fun x => x.key = g.key).flatMap (·.members) ++ [r])
    (hfolds : ∃ first more, g.members = first :: more ∧ g.group.row = more.foldl merge first) :
    GroupsOf key merge (rows ++ [r]) ((groups.filter fun x => x.key ≠ g.key) ++ [g]) where
  nodup := nodup_filter_append h.nodup rfl
  members x hx := by
    rw [List.filter_append]
    rcases List.mem_append.mp hx with hx | hx
    · obtain ⟨hx, hne⟩ := List.mem_filter.mp hx
      have hne : g.key ≠ x.key := by simpa using Ne.symm (of_decide_eq_true hne)
      simpa [hkey, hne] using h.members x hx
    · obtain rfl := List.mem_singleton.mp hx
      rw [hmembers, h.flatMap_members_filter]
      simp [hkey]
  folds x hx := by
    rcases List.mem_append.mp hx with hx | hx
    · exact h.folds x (List.mem_of_mem_filter hx)
    · exact List.mem_singleton.mp hx ▸ hfolds
  covers x hx := by
    rw [List.map_append, List.mem_append]
    by_cases hg : key x = g.key
    · exact .inr (by simp [hg])
    rcases List.mem_append.mp hx with hx | hx
    · obtain ⟨y, hy, heq⟩ := List.mem_map.mp (h.covers x hx)
      exact .inl (List.mem_map.mpr ⟨y, List.mem_filter.mpr ⟨hy, by simpa [heq] using hg⟩, heq⟩)
    · exact absurd (List.mem_singleton.mp hx ▸ hkey) hg

end GroupsOf

/-! ## Cuts -/

/-- The rows, cut right after each one that brings the number of keys since the last cut above the
threshold, and at the end; `since` are the rows since the last cut. -/
def cuts (threshold : Nat) (key : ρ → κ) : List ρ → List ρ → List (List ρ)
  | since, [] => [since]
  | since, r :: rest =>
    if threshold < ((since ++ [r]).map key).dedup.length then
      (since ++ [r]) :: cuts threshold key [] rest
    else cuts threshold key (since ++ [r]) rest

theorem flatten_cuts (threshold : Nat) (key : ρ → κ) (since rows : List ρ) :
    (cuts threshold key since rows).flatten = since ++ rows := by
  induction rows generalizing since with
  | nil => simp [cuts]
  | cons r rest ih =>
    rw [cuts]
    split <;> simp [ih]

section Segments

variable {key : ρ → κ} {merge : ρ → ρ → ρ} {parts : List (List ρ)}
  {flushes : List (List (Held κ ρ))}

/-- The groups of a key, flush by flush, have the rows of the key, part by part. -/
theorem map_members_filter_flatten (h : List.Forall₂ (GroupsOf key merge) parts flushes) (k : κ) :
    (flushes.flatten.filter fun g => g.key = k).map Held.members
      = (parts.map (List.filter fun r => key r = k)).filter fun l => !l.isEmpty := by
  induction h with
  | nil => rfl
  | @cons part groups parts flushes hgroups _ ih =>
    rw [List.flatten_cons, List.filter_append, List.map_append, ih, hgroups.map_members_filter,
      ← List.filter_append]
    rfl

end Segments

/-! ## The flushes of a stage -/

namespace GroupingAggregation

variable [Timed ρ] {a : GroupingAggregation κ ρ} {s s' : State κ ρ} {read todo left since : List ρ}
  {r : ρ} {held : List (Held κ ρ)} {key : ρ → κ} {merge : ρ → ρ → ρ}

/-- **One row** joins its group among the groups of the rows since the last cut. -/
theorem Keeps.put_groupsOf (h : a.Keeps s read left held) (hgroups : GroupsOf key merge since held)
    (hkey : ∀ r, a.key r = .ok (key r)) (hmerge : ∀ x r, a.merge x r = .ok (merge x r))
    (hs : a.put s r = .ok s') :
    ∃ held', a.Keeps s' (read ++ [r]) left held' ∧ GroupsOf key merge (since ++ [r]) held' := by
  obtain ⟨g, hjoined, hkeeps⟩ := h.put hs
  have hfolds := (hkeeps.holding.sound g (by simp)).makes.foldl hmerge
  exact ⟨_, hkeeps, hgroups.absorb (Except.ok.inj ((hkey r).symm.trans hjoined.key)) hjoined.members
    hfolds⟩

/-- **What a stage still sends** is flush by flush the groups of the rows from cut to cut. -/
theorem Keeps.exists_flushes (h : a.Keeps s read left held)
    (hgroups : GroupsOf key merge since held) (horder : a.Reorders)
    (hkey : ∀ r, a.key r = .ok (key r)) (hmerge : ∀ x r, a.merge x r = .ok (merge x r))
    (asc : Ascending (read ++ todo)) :
    ∃ (out : List (Staged ρ)) (flushes : List (List (Held κ ρ))),
      Stage.fold a.step a.finish s (todo.map .ok) = out.map .ok ∧
      out.map (·.row) = flushes.flatten.map (·.group.row) ∧
      List.Forall₂ (GroupsOf key merge) (cuts a.threshold key since todo) flushes := by
  induction todo generalizing read left held s since with
  | nil =>
    obtain ⟨leaving, hperm, hflush, -⟩ := h.flush horder
    exact ⟨(a.flush s).2, [leaving], rfl, by simpa using hflush.rows,
      .cons (hgroups.perm hperm) .nil⟩
  | cons r todo ih =>
    have hread : ∀ x ∈ read, time x ≤ time r := fun x hx =>
      (List.pairwise_append.mp asc).2.2 x hx r List.mem_cons_self
    have hasc : Ascending (read ++ [r] ++ todo) := by simpa using asc
    obtain ⟨s₁, hput⟩ := h.exists_put hkey hmerge hread
    obtain ⟨held', hkeeps, hgroups'⟩ := h.put_groupsOf hgroups hkey hmerge hput
    have hsize : s₁.groups.length = ((since ++ [r]).map key).dedup.length := by
      rw [hkeeps.groups, List.length_map, hgroups'.length_eq]
    have hstep : a.step s r = .ok (a.relieve s₁) := by
      rw [step_eq, hput]
      rfl
    rw [List.map_cons, Stage.fold, hstep, cuts, ← hsize, relieve]
    split_ifs with hfull
    · obtain ⟨leaving, hperm, hflush, hflushed⟩ := hkeeps.flush horder
      obtain ⟨out, flushes, hfold, hrows, hcuts⟩ := ih hflushed (.nil key merge) hasc
      refine ⟨(a.flush s₁).2 ++ out, leaving :: flushes, ?_, ?_, .cons (hgroups'.perm hperm) hcuts⟩
      · rw [List.map_append, ← hfold]
      · simp [hflush.rows, hrows]
    · obtain ⟨out, flushes, hfold, hrest⟩ := ih hkeeps hgroups' hasc
      exact ⟨out, flushes, by simpa using hfold, hrest⟩

/-- **A stage never holds many groups**: no more than the threshold between two rows, and one more
when a row has just been put into its group. -/
theorem length_groups_le {out : List (Staged ρ)} (hruns : Stage.Runs a.step start read out s) :
    s.groups.length ≤ a.threshold ∧
      ∀ r s', a.put s r = .ok s' → s'.groups.length ≤ a.threshold + 1 := by
  have hput : ∀ {s s' : State κ ρ} {r}, a.put s r = .ok s' →
      s'.groups.length ≤ s.groups.length + 1 := fun hs => by
    obtain ⟨c', k, p, -, -, -, rfl⟩ := exists_extend_of_put hs
    simpa using List.length_filter_le _ _
  suffices h : s.groups.length ≤ a.threshold from
    ⟨h, fun r s' hs => (hput hs).trans (Nat.add_le_add_right h 1)⟩
  cases hruns with
  | start => exact Nat.zero_le _
  | next _ hstep =>
    obtain ⟨s₁, -, hrelieve⟩ := exists_put_of_step hstep
    unfold relieve at hrelieve
    split_ifs at hrelieve with hfull
    · obtain ⟨rfl, -⟩ := Prod.mk.inj hrelieve
      exact Nat.zero_le _
    · obtain ⟨rfl, -⟩ := Prod.mk.inj hrelieve
      exact not_lt.mp hfull

/-- The rows `out`, sent for the rows `xs`, are the groups of `flushes`. Each flush is the groups of
the rows from cut to cut, so the groups of a key are the non-empty pieces of its rows. -/
structure Partitions (a : GroupingAggregation κ ρ) (key : ρ → κ) (merge : ρ → ρ → ρ) (xs : List ρ)
    (out : List (Staged ρ)) (flushes : List (List (Held κ ρ))) : Prop where
  rows : out.map (·.row) = flushes.flatten.map (·.group.row)
  flushed : List.Forall₂ (GroupsOf key merge) (cuts a.threshold key [] xs) flushes
  pieces : ∀ k, (flushes.flatten.filter fun g => g.key = k).map Held.members
    = ((cuts a.threshold key [] xs).map (List.filter fun r => key r = k)).filter fun l => !l.isEmpty
  account : ∀ k, (flushes.flatten.filter fun g => g.key = k).flatMap (·.members)
    = xs.filter fun r => key r = k
  few : ∀ read out s, Stage.Runs a.step start read out s → s.groups.length ≤ a.threshold ∧
    ∀ r s', a.put s r = .ok s' → s'.groups.length ≤ a.threshold + 1

/-- **A flush cuts the rows of every key at the same places**, and nothing but groups is sent. -/
theorem stage_partitions (a : GroupingAggregation κ ρ) (horder : a.Reorders)
    (hkey : ∀ r, a.key r = .ok (key r)) (hmerge : ∀ x r, a.merge x r = .ok (merge x r))
    {xs : List ρ} (asc : Ascending xs) :
    ∃ out flushes, a.stage.transform (xs.map .ok) = out.map .ok ∧
      a.Partitions key merge xs out flushes := by
  obtain ⟨out, flushes, hfold, hrows, hflushed⟩ :=
    a.keeps_start.exists_flushes (.nil key merge) horder hkey hmerge asc
  have hpieces := map_members_filter_flatten hflushed
  refine ⟨out, flushes, hfold, hrows, hflushed, hpieces, fun k => ?_, fun _ _ _ => length_groups_le⟩
  rw [List.flatMap_def, hpieces, List.flatten_filter_not_isEmpty, ← List.filter_flatten,
    flatten_cuts, List.nil_append]

/-- The groups of a field that comes and goes, from a map that gives them out backwards. -/
def alarmsBackwards : GroupingAggregation Bool Row where
  toGroupBy := StreamingAggregation.oneAtATime.toGroupBy
  name := "alarms"
  limit := 0
  order _ groups := groups.reverse

theorem stage_partitions_comesAndGoes :
    alarmsBackwards.Reorders ∧ Ascending StreamingAggregation.comesAndGoes ∧
    ∃ out flushes, alarmsBackwards.stage.transform (StreamingAggregation.comesAndGoes.map .ok)
      = out.map .ok ∧ alarmsBackwards.Partitions (fun r => (r.get? "alarm").isSome)
        (fun x r => { x with timestamp := max x.timestamp r.timestamp })
        StreamingAggregation.comesAndGoes out flushes :=
  have horder : alarmsBackwards.Reorders := fun _ _ _ => List.reverse_perm _
  have asc : Ascending StreamingAggregation.comesAndGoes := by decide +kernel
  ⟨horder, asc, stage_partitions _ horder (fun _ => rfl) (fun _ _ => rfl) asc⟩

/-- The alarm is one key too many for a threshold of one. -/
example : (cuts alarmsBackwards.threshold (fun r => (r.get? "alarm").isSome) []
    StreamingAggregation.comesAndGoes).map List.length = [3, 1] := by decide +kernel

end GroupingAggregation

end Ingest
