import Ingest.Proofs.Aggregation.Merging
import Ingest.Proofs.Failing

/-!
# Proofs/Totals — sums survive aggregation

Wherever the cache or a flush cuts the rows of a key, the groups that were sent and those that are
held are made of the rows that were read, each of them once (`Machine.Accounts`). A group of rows
whose sums stay within 64 bits has the exact sums of its rows
(`FieldAggregation.aggregated_of_makes`), so the sums of a key do not depend on the cuts. Main
statement: `stages_preserve_sums`, for both stages.
-/

namespace Ingest

variable {κ ρ σ : Type} [Timed ρ]

/-! ## The rows of the groups -/

namespace Machine

/-- After `read` was read, the groups `sent` were sent as `out`, and the groups `held` are held. The
rows read are their members. -/
structure Accounts (m : Machine κ ρ σ) (s : σ) (read : List ρ) (out : List (Staged ρ))
    (sent held : List (Held κ ρ)) : Prop where
  rows : out.map (·.row) = sent.map (·.group.row)
  makes : ∀ g ∈ sent ++ held, m.Makes g.key g.members g.group.row
  account : read.Perm ((sent ++ held).flatMap (·.members))
  lookup : ∀ k q, m.held s k = some q → ∃ g ∈ held, g.key = k ∧ g.group = q
  finish : ∀ last, m.finish s = .ok last →
    ∃ leaving : List (Held κ ρ), leaving.Perm held ∧ last.map (·.row) = leaving.map (·.group.row)

/-- A stage that keeps its accounts, whatever it has read. -/
def Accountable (m : Machine κ ρ σ) : Prop :=
  ∀ {read out s}, Stage.Runs m.step m.start read out s →
    ∃ sent held, m.Accounts s read out sent held

end Machine

variable [DecidableEq κ]

omit [Timed ρ] in
/-- The held group of a key is one of those held. -/
theorem exists_held_of_lookup {held : List (Held κ ρ)} (nodup : (held.map Held.key).Nodup) {k : κ}
    {q : Pending ρ} (h : Held.lookup held k = some q) : ∃ g ∈ held, g.key = k ∧ g.group = q := by
  obtain ⟨g, hg, hkey, hgroup, -⟩ := exists_perm_cons_filter nodup h
  exact ⟨g, hg, hkey, hgroup⟩

/-- A streaming aggregation accounts for its rows. -/
theorem StreamingAggregation.accountable (a : StreamingAggregation κ ρ) :
    a.machine.Accountable := by
  intro read out s hruns
  obtain ⟨sent, held, h, -⟩ := exists_course hruns
  refine ⟨sent, held, h.rows, fun g hg => (h.makes_of_mem hg).1, ?_, fun k q hq => ?_,
    fun last hlast => ⟨held, .refl held, ?_⟩⟩
  · rw [List.flatMap_append]
    exact h.keeps.holding.account
  · change RecencyCache.get? s.cache k = some q at hq
    rw [RecencyCache.get?, h.keeps.cache] at hq
    exact exists_held_of_lookup h.keeps.nodup hq
  · obtain rfl := Except.ok.inj ((h.keeps.finish_eq h.fits).symm.trans hlast)
    rw [Floors.drain_rows, List.map_map]
    rfl

namespace GroupingAggregation

variable {a : GroupingAggregation κ ρ} {s : State κ ρ} {read : List ρ} {out : List (Staged ρ)}

/-- What a stage that flushes has sent and what it holds. By induction on the rows read. -/
theorem exists_sent (horder : a.Reorders) (hruns : Stage.Runs a.step start read out s) :
    ∃ sent held : List (Held κ ρ), a.Keeps s read (sent.flatMap (·.members)) held ∧
      out.map (·.row) = sent.map (·.group.row) ∧
      ∀ g ∈ sent, a.Makes g.key g.members g.group.row := by
  induction hruns with
  | start => exact ⟨[], [], a.keeps_start, rfl, by simp⟩
  | @next read r out more s₁ s₂ _ hstep ih =>
    obtain ⟨sent, held, h, hrows, hmakes⟩ := ih
    obtain ⟨held', -, hholding, ⟨rfl, hkeeps⟩ | ⟨hflush, hkeeps⟩⟩ := h.step horder hstep
    · exact ⟨sent, held', hkeeps, by simpa using hrows, hmakes⟩
    refine ⟨sent ++ held', [], by rwa [List.flatMap_append], ?_, ?_⟩
    · rw [List.map_append, List.map_append, hrows, hflush.rows]
    · exact List.forall_mem_append.mpr ⟨hmakes, fun g hg => (hholding.sound g hg).makes⟩

/-- A grouping aggregation accounts for its rows. -/
theorem accountable (horder : a.Reorders) : a.machine.Accountable := by
  intro read out s hruns
  obtain ⟨sent, held, h, hrows, hmakes⟩ := exists_sent horder hruns
  refine ⟨sent, held, hrows, ?_, ?_, fun k q hq => ?_, fun last hlast => ?_⟩
  · exact List.forall_mem_append.mpr ⟨hmakes, fun g hg => (h.holding.sound g hg).makes⟩
  · rw [List.flatMap_append]
    exact h.holding.account
  · change find? s.groups k = some q at hq
    rw [find?, h.groups] at hq
    exact exists_held_of_lookup h.nodup hq
  · obtain rfl := Except.ok.inj hlast
    obtain ⟨leaving, hperm, hflush, -⟩ := h.flush horder
    exact ⟨leaving, hperm, hflush.rows⟩

end GroupingAggregation

omit [DecidableEq κ]

/-! ## Sums -/

namespace FieldAggregation

/-- The exact total of a field over the rows of a key. -/
def total (a : FieldAggregation) (f k : String) (rows : List Row) : Int :=
  ((rows.filter fun r => a.key r = k).map fun r => (r.valueAt f).amount).sum

/-- The rows `sent` stand for the rows `xs`: in each summed field they have integers or nulls, which
have for each key the same total, and are nulls only if the key has no integer. -/
structure Preserves (a : FieldAggregation) (xs sent : List Row) : Prop where
  count : ∀ f ∈ a.sum, ∀ r ∈ sent, (r.valueAt f).IsCount
  total_eq : ∀ f ∈ a.sum, ∀ k, a.total f k sent = a.total f k xs
  null_iff : ∀ f ∈ a.sum, ∀ k, (∀ r ∈ sent, a.key r = k → r.valueAt f = .null) ↔
    ∀ r ∈ xs, a.key r = k → r.valueAt f = .null

variable {a : FieldAggregation} {xs read : List Row} {out : List (Staged Row)}
  {groups : List (Held String Row)} {σ : Type} {m : Machine String Row σ} {s : σ}

/-- A total does not depend on the order of the rows. -/
theorem total_perm {rows rows' : List Row} (h : rows.Perm rows') (f k : String) :
    a.total f k rows = a.total f k rows' := ((h.filter _).map _).sum_eq

theorem total_append (f k : String) (rows rows' : List Row) :
    a.total f k (rows ++ rows') = a.total f k rows + a.total f k rows' := by
  simp [total]

/-- A group: its row has the sums of its rows, and the key of each. -/
structure Sums (a : FieldAggregation) (g : Held String Row) : Prop where
  aggregated : a.Aggregated g.members g.group.row
  key_members : ∀ m ∈ g.members, a.key m = g.key
  key_row : a.key g.group.row = g.key

/-- A group has the total of its rows. -/
theorem sums_of_makes (hsep : a.Separate) {g : Held String Row} (hs : a.Summable g.members)
    (hmakes : a.toGroupBy.Makes g.key g.members g.group.row) : a.Sums g := by
  obtain ⟨hagg, hne, hkey⟩ := aggregated_of_makes hsep hmakes hs
  obtain ⟨m, hm⟩ := List.exists_mem_of_ne_nil _ hne
  exact ⟨hagg, hkey, hagg.key_eq hsep hm hkey⟩

/-- A group counts for a key what its rows count for it. -/
theorem Sums.total_eq {g : Held String Row} (h : a.Sums g) {f : String} (hf : f ∈ a.sum)
    (k : String) : a.total f k [g.group.row] = a.total f k g.members := by
  unfold total
  by_cases hk : g.key = k
  · have hmembers : g.members.filter (fun m => a.key m = k) = g.members :=
      List.filter_eq_self.mpr fun m hm => decide_eq_true ((h.key_members m hm).trans hk)
    rw [hmembers, List.filter_cons_of_pos (by simpa [h.key_row] using hk), List.filter_nil,
      List.map_singleton, List.sum_singleton, h.aggregated.amount f hf]
  · have hmembers : g.members.filter (fun m => a.key m = k) = [] :=
      List.filter_eq_nil_iff.mpr fun m hm => by simpa [h.key_members m hm] using hk
    rw [hmembers, List.filter_cons_of_neg (by simpa [h.key_row] using hk), List.filter_nil]

/-- The totals of groups add up to the total of their rows. -/
theorem total_groups {f : String} (hf : f ∈ a.sum) (hgroups : ∀ g ∈ groups, a.Sums g) (k : String) :
    a.total f k (groups.map (·.group.row)) = a.total f k (groups.flatMap (·.members)) := by
  induction groups with
  | nil => rfl
  | cons g groups ih =>
    obtain ⟨hg, hgroups⟩ := List.forall_mem_cons.mp hgroups
    rw [List.map_cons, ← List.singleton_append, total_append, hg.total_eq hf, ih hgroups,
      List.flatMap_cons, total_append]

/-- **Groups preserve sums**, wherever the rows of a key were cut. -/
theorem preserves_of_groups (hgroups : ∀ g ∈ groups, a.Sums g)
    (haccount : xs.Perm (groups.flatMap (·.members))) :
    a.Preserves xs (groups.map (·.group.row)) where
  count f hf r hr := by
    obtain ⟨g, hg, rfl⟩ := List.mem_map.mp hr
    exact (hgroups g hg).aggregated.count f hf
  total_eq f hf k := by rw [total_groups hf hgroups, total_perm haccount]
  null_iff f hf k := by
    rw [List.forall_mem_map]
    constructor
    · intro hnull m hm hk
      obtain ⟨g, hg, hm⟩ := List.mem_flatMap.mp (haccount.mem_iff.mp hm)
      have h := hgroups g hg
      have hkey : g.key = k := (h.key_members m hm).symm.trans hk
      exact (h.aggregated.null_iff f hf).mp (hnull g hg (h.key_row.trans hkey)) m hm
    · intro hnull g hg hk
      have h := hgroups g hg
      refine (h.aggregated.null_iff f hf).mpr fun m hm => hnull m ?_ ?_
      · exact haccount.mem_iff.mpr (List.mem_flatMap.mpr ⟨g, hg, hm⟩)
      · exact (h.key_members m hm).trans (h.key_row.symm.trans hk)

/-! ## The stages -/

/-- The members of a group are some of the rows that were read. -/
theorem members_subperm (h : xs.Perm (groups.flatMap (·.members))) {g : Held String Row}
    (hg : g ∈ groups) : g.members.Subperm xs := by
  rw [List.flatMap_def] at h
  exact (List.sublist_flatten_of_mem (List.mem_map_of_mem hg)).subperm.trans h.symm.subperm

/-- **Rows that can be summed do not fail**: each merges with the group that is held of its key. -/
theorem not_failsAt (hsep : a.Separate) {r : Row} (hs : a.Summable (read ++ [r]))
    (hasc : Ascending (read ++ [r])) (hmachine : m.toGroupBy = a.toGroupBy)
    {sent held : List (Held String Row)} (h : m.Accounts s read out sent held) (e : Error) :
    ¬m.FailsAt read (m.held s) (.ok r) e := by
  have hle : ∀ x ∈ read, time x ≤ time r := fun x hx =>
    (List.pairwise_append.mp hasc).2.2 x hx r (List.mem_singleton_self r)
  rintro (_ | ⟨hprev, hlt⟩ | ⟨-, hkey⟩ | ⟨-, -, hheld, hmerge⟩)
  · exact (hle _ (List.mem_of_getLast? hprev)).not_gt hlt
  · rw [hmachine] at hkey
    cases hkey
  · obtain ⟨g, hg, rfl, rfl⟩ := h.lookup _ _ hheld
    have hgroup : g ∈ sent ++ held := List.mem_append_right _ hg
    have hmakes := h.makes g hgroup
    rw [hmachine] at hmakes hmerge
    have hmembers :=
      hs.subperm ((List.subperm_append_right [r]).mpr (members_subperm h.account hgroup))
    have hagg := (aggregated_of_makes hsep hmakes
      (hmembers.subperm (List.sublist_append_left _ _).subperm)).1
    obtain ⟨y, hy, -⟩ := hagg.exists_merge hsep hmembers
    simp [toGroupBy, hy, Except.mapError] at hmerge

/-- Rows that can be added and are ascending do not fail. -/
theorem not_firstFailure (hacc : m.Accountable) (hmachine : m.toGroupBy = a.toGroupBy)
    (hsep : a.Separate) (hs : a.Summable xs) (hasc : Ascending xs) (e : Error) :
    ¬m.FirstFailure (xs.map .ok) out e := by
  intro hfirst
  generalize hitems : xs.map (Except.ok (ε := Error)) = items at hfirst
  obtain @⟨read, out, s, entry, e, htakes, hfails, rest⟩ := hfirst
  -- the entry that fails is one of the rows, so it can be summed with those before it
  rcases entry with err | r
  · have hmem : .error err ∈ xs.map (Except.ok (ε := Error)) := by simp [hitems]
    simp at hmem
  obtain ⟨front, back, rfl, hread, -⟩ := map_ok_eq_append_cons hitems
  obtain rfl := eq_of_map_ok_eq hread
  have hfront : (read ++ [r]).Sublist (read ++ r :: back) := by simp
  obtain ⟨sent, held, haccounts⟩ := hacc htakes.runs
  exact not_failsAt hsep (hs.subperm hfront.subperm) (hasc.sublist hfront) hmachine haccounts e
    hfails

/-- The groups that were sent before the end and those sent at the end have all the rows. -/
theorem preserves_of_completes (hacc : m.Accountable) (hmachine : m.toGroupBy = a.toGroupBy)
    (hsep : a.Separate) (hs : a.Summable xs) {sent : List (Staged Row)}
    (hsent : m.Completes (xs.map .ok) sent) : a.Preserves xs (sent.map (·.row)) := by
  generalize hitems : xs.map (Except.ok (ε := Error)) = items at hsent
  obtain @⟨rows, out, last, s, htakes, hfinish⟩ := hsent
  obtain rfl := eq_of_map_ok_eq hitems
  obtain ⟨sent, held, h⟩ := hacc htakes.runs
  obtain ⟨leaving, hperm, hlast⟩ := h.finish last hfinish
  have haccount := h.account.trans ((hperm.symm.append_left sent).flatMap_right (·.members))
  have hgroups : ∀ g ∈ sent ++ leaving, a.Sums g := fun g hg =>
    sums_of_makes hsep (hs.subperm (members_subperm haccount hg))
      (hmachine ▸ h.makes g ((hperm.append_left sent).mem_iff.mp hg))
  have hpreserves := preserves_of_groups hgroups haccount
  rwa [List.map_append, ← h.rows, ← hlast, ← List.map_append] at hpreserves

/-- **A stage preserves sums** if it keeps its accounts. -/
theorem exists_preserves (hm : m.Lawful) (hacc : m.Accountable)
    (hmachine : m.toGroupBy = a.toGroupBy) (hsep : a.Separate) (hs : a.Summable xs)
    (hasc : Ascending xs) :
    ∃ sent : List (Staged Row), m.stream (xs.map .ok) = sent.map .ok ∧
      a.Preserves xs (sent.map (·.row)) := by
  obtain ⟨out, e, hfirst⟩ | ⟨sent, hsent⟩ := hm.cases (xs.map .ok)
  · exact absurd hfirst (not_firstFailure hacc hmachine hsep hs hasc e)
  · exact ⟨sent, hsent.stream_eq, preserves_of_completes hacc hmachine hsep hs hsent⟩

/-- **Sums survive aggregation.** Behind either stage, however many groups it may hold, no error is
sent for ascending rows that can be summed, and in each summed field the groups of a key have
integers, or null where the key has none, with the exact total of the rows of that key. -/
theorem stages_preserve_sums (a : FieldAggregation) (hsep : a.Separate) (hs : a.Summable xs)
    (hasc : Ascending xs) (b : StreamingAggregation String Row) (hb : b.toGroupBy = a.toGroupBy)
    (c : GroupingAggregation String Row) (hc : c.toGroupBy = a.toGroupBy) (horder : c.Reorders) :
    (∃ sent : List (Staged Row), b.stage.transform (xs.map .ok) = sent.map .ok ∧
      a.Preserves xs (sent.map (·.row))) ∧
    ∃ sent : List (Staged Row), c.stage.transform (xs.map .ok) = sent.map .ok ∧
      a.Preserves xs (sent.map (·.row)) :=
  ⟨exists_preserves b.lawful b.accountable hb hsep hs hasc,
    exists_preserves c.lawful (c.accountable horder) hc hsep hs hasc⟩

/-- Counts by key, with the highest level. -/
def counting : FieldAggregation where
  groupBy := ["k"]
  sum := ["n"]
  max := ["level"]

/-- A row with a key, a count and a level. -/
def countedRow (second : Int) (key : String) (n : Value) (level : Int) : Row :=
  ⟨.atSecond second, .ofList [("k", .string key), ("n", n), ("level", .ofInt level)]⟩

/-- Two rows of one key, and a row of another one between them. -/
def countedRows : List Row :=
  [countedRow 1 "a" (.ofInt 2) 3, countedRow 2 "b" .null 1, countedRow 3 "a" (.ofInt (-5)) 2]

theorem counting_separate : counting.Separate := ⟨by decide, by decide, by decide⟩

theorem countedRows_summable : counting.Summable countedRows where
  counts f hf r hr := by
    obtain rfl := List.mem_singleton.mp hf
    simp only [countedRows, List.mem_cons, List.not_mem_nil, or_false] at hr
    rcases hr with rfl | rfl | rfl
    · exact .inr ⟨2, rfl⟩
    · exact .inl rfl
    · exact .inr ⟨-5, rfl⟩
  fits f hf := by
    obtain rfl := List.mem_singleton.mp hf
    decide +kernel
  compares f hf r hr r' hr' := by
    obtain rfl := List.mem_singleton.mp hf
    simp only [countedRows, List.mem_cons, List.not_mem_nil, or_false] at hr hr'
    rcases hr with rfl | rfl | rfl <;> rcases hr' with rfl | rfl | rfl <;> rfl

/-- The row between them drives the first row of the key out of a stage that holds one group. -/
theorem stages_preserve_sums_countedRows :
    counting.Separate ∧ counting.Summable countedRows ∧ Ascending countedRows ∧
    (∃ sent : List (Staged Row),
      (StreamingAggregation.stage ⟨counting.toGroupBy, "counts", 1⟩).transform (countedRows.map .ok)
        = sent.map .ok ∧ counting.Preserves countedRows (sent.map (·.row))) ∧
    ∃ sent : List (Staged Row),
      (GroupingAggregation.stage { counting.toGroupBy with
        name := "counts", limit := 1, order := fun _ groups => groups.reverse }).transform
        (countedRows.map .ok) = sent.map .ok ∧ counting.Preserves countedRows (sent.map (·.row)) :=
  have hasc : Ascending countedRows := by decide +kernel
  ⟨counting_separate, countedRows_summable, hasc,
    stages_preserve_sums counting counting_separate countedRows_summable hasc _ rfl _ rfl
      fun _ groups _ => groups.reverse_perm⟩

example : counting.total "n" (counting.key (countedRow 1 "a" .null 0)) countedRows = -3 := by
  decide +kernel

end FieldAggregation

end Ingest
