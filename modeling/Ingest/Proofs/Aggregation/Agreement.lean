import Ingest.Proofs.Aggregation.Ascending
import Ingest.Proofs.Aggregation.Cuts

/-!
# Proofs/Aggregation/Agreement — two groupings that agree when nothing overflows

As long as there are no more keys than a cache or a map may hold, neither stage sends anything, and
both hold the same groups in the same order (`exists_held`). At the end the cache is emptied in the
order of recency and the map is sorted by time. These orders agree up to ties, and so do the bounds
at the end of each timestamp (`settled_of_lastAt`). Main statement: `stages_agree`.
-/

namespace Ingest

variable {κ ρ : Type} [Timed ρ]

/-! ## Groups in the order of time -/

/-- The row `it` is the last one with the timestamp `t`. -/
def LastAt (t : Instant) (out : List (Staged ρ)) (it : Staged ρ) : Prop :=
  time it.row = t ∧ ∃ front back, out = front ++ it :: back ∧ ∀ x ∈ back, time x.row ≠ t

/-- **The last row of a timestamp** carries the least floor of the later groups. -/
theorem settled_of_lastAt {f : Floors} {groups : List (Held κ ρ)} (hf : f.Of groups)
    (hsorted : Ascending (groups.map (·.group.row))) {t : Instant} {it : Staged ρ}
    (h : LastAt t (f.drain (groups.map (·.group))).2 it) :
    it.settled = Held.settled (groups.filter fun g => t < time g.group.row) := by
  obtain ⟨rfl, front, back, hsplit, hback⟩ := h
  have hall : f.Of (groups ++ []) := (List.append_nil groups).symm ▸ hf
  obtain ⟨sooner, g, later, rfl, -, hit, hrows, hsettled⟩ := hall.drain_split hsplit
  have hlater : ∀ x ∈ later, time x.group.row ≠ time it.row := fun x hx => by
    obtain ⟨y, hy, heq⟩ := List.mem_map.mp (hrows ▸ List.mem_map_of_mem hx)
    exact heq ▸ hback y hy
  rw [Ascending, List.pairwise_map, List.pairwise_append] at hsorted
  obtain ⟨-, hrest, hcross⟩ := hsorted
  have hsooner : (sooner.filter fun x => time it.row < time x.group.row) = [] :=
    List.filter_eq_nil_iff.mpr fun x hx => by simpa [hit] using hcross x hx g List.mem_cons_self
  have hlast : (later.filter fun x => time it.row < time x.group.row) = later :=
    List.filter_eq_self.mpr fun x hx => by
      have hle := (List.pairwise_cons.mp hrest).1 x hx
      simpa using lt_of_le_of_ne (hit ▸ hle) (hlater x hx).symm
  rw [hsettled, List.append_nil, List.filter_append, hsooner,
    List.filter_cons_of_neg (by simp [hit]), hlast, List.nil_append]

/-- The outputs `out₁` and `out₂` are the same groups of the rows `xs`, `groups₁` and `groups₂`, in
the same order but for ties, and the last rows of each timestamp have the same bound. -/
structure SameGroups [DecidableEq κ] (key : ρ → κ) (merge : ρ → ρ → ρ) (xs : List ρ)
    (out₁ out₂ : List (Staged ρ)) (groups₁ groups₂ : List (Held κ ρ)) : Prop where
  groups : GroupsOf key merge xs groups₁
  rows₁ : out₁.map (·.row) = groups₁.map (·.group.row)
  rows₂ : out₂.map (·.row) = groups₂.map (·.group.row)
  times : out₁.map (fun it => time it.row) = out₂.map (fun it => time it.row)
  ties : ∀ t, (groups₁.filter fun g => time g.group.row = t).Perm
    (groups₂.filter fun g => time g.group.row = t)
  settled : ∀ t it₁ it₂, LastAt t out₁ it₁ → LastAt t out₂ it₂ → it₁.settled = it₂.settled

/-- **Groups that leave in the order of time**, in two orders. -/
theorem SameGroups.of_drain [DecidableEq κ] {key : ρ → κ} {merge : ρ → ρ → ρ} {xs : List ρ}
    {groups₁ groups₂ : List (Held κ ρ)} {f₁ f₂ : Floors} (hgroups : GroupsOf key merge xs groups₁)
    (hperm : groups₂.Perm groups₁) (hf₁ : f₁.Of groups₁) (hf₂ : f₂.Of groups₂)
    (hsorted₁ : Ascending (groups₁.map (·.group.row)))
    (hsorted₂ : Ascending (groups₂.map (·.group.row))) :
    SameGroups key merge xs (f₁.drain (groups₁.map (·.group))).2
      (f₂.drain (groups₂.map (·.group))).2 groups₁ groups₂ := by
  have hrows : ∀ (f : Floors) (groups : List (Held κ ρ)),
      (f.drain (groups.map (·.group))).2.map (·.row) = groups.map (·.group.row) := fun _ _ => by
    rw [Floors.drain_rows, List.map_map]
    rfl
  have htimes : ∀ (f : Floors) (groups : List (Held κ ρ)),
      (f.drain (groups.map (·.group))).2.map (fun it => time it.row)
        = groups.map fun g => time g.group.row := fun f groups => by
    have := congrArg (List.map time) (hrows f groups)
    rwa [List.map_map, List.map_map] at this
  refine ⟨hgroups, hrows _ _, hrows _ _, ?_, fun t => hperm.symm.filter _,
    fun t it₁ it₂ h₁ h₂ => ?_⟩
  · rw [htimes, htimes]
    rw [Ascending, List.pairwise_map] at hsorted₁ hsorted₂
    exact (hperm.symm.map _).eq_of_pairwise (fun _ _ _ _ hab hba => le_antisymm hab hba)
      (List.pairwise_map.mpr hsorted₁) (List.pairwise_map.mpr hsorted₂)
  · rw [settled_of_lastAt hf₁ hsorted₁ h₁, settled_of_lastAt hf₂ hsorted₂ h₂]
    exact Held.settled_perm (hperm.symm.filter _)

/-! ## In step -/

variable [DecidableEq κ] {key : ρ → κ} {merge : ρ → ρ → ρ}

omit [Timed ρ] in
/-- Among more rows there are no fewer keys. -/
theorem length_dedup_le (key : ρ → κ) {rows rows' : List ρ} (h : rows ⊆ rows') :
    (rows.map key).dedup.length ≤ (rows'.map key).dedup.length := by
  refine (List.subperm_of_subset (List.nodup_dedup _) fun k hk => ?_).length_le
  rw [List.mem_dedup] at hk ⊢
  exact List.map_subset key h hk

namespace RecencyCache

omit [DecidableEq κ] in
theorem push_of_room {α : Type} {c : RecencyCache κ α} (h : c.entries.length < c.capacity) (k : κ)
    (x : α) : c.push k x = (none, { c with entries := c.entries ++ [(k, x)] }) := by
  unfold push
  rcases hentries : c.entries with _ | ⟨oldest, rest⟩
  · rfl
  · exact if_neg (by simpa [hentries] using h)

end RecencyCache

namespace StreamingAggregation

variable {a : StreamingAggregation κ ρ} {s s' : State κ ρ} {read : List ρ} {r : ρ}
  {out more : List (Staged ρ)} {sent held : List (Held κ ρ)}

/-- **Nothing leaves a cache that has room** for the group of the next row. -/
theorem Course.sends_nothing (h : a.Course s read out sent held) (hs : a.step s r = .ok (s', more))
    {k : κ} (hkey : a.key r = .ok k)
    (hroom : (held.filter fun x => x.key ≠ k).length < a.bufferSize) : more = [] := by
  obtain ⟨c', k', p, hadv, hkey', hext⟩ := exists_extend_of_step hs
  obtain rfl := Except.ok.inj (hkey.symm.trans hkey')
  have hlength : (s.cache.erase k).entries.length < (s.cache.erase k).capacity := by
    have hentries : (s.cache.erase k).entries
        = (held.filter fun x => x.key ≠ k).map Held.entry := by
      rw [RecencyCache.erase, h.keeps.cache, List.filter_map]
      rfl
    rw [hentries, List.length_map]
    exact hroom.trans_eq h.fits.capacity_eq.symm
  rw [step_of_extend h.keeps.handOff hadv hkey hext (RecencyCache.push_of_room hlength k p)] at hs
  exact (Prod.mk.inj (Except.ok.inj hs)).2.symm

end StreamingAggregation

/-- Both stages have read `read`, sent nothing and hold the groups `held` of these rows. -/
structure InStep (a : StreamingAggregation κ ρ) (b : GroupingAggregation κ ρ) (key : ρ → κ)
    (merge : ρ → ρ → ρ) (read : List ρ) (s₁ : StreamingAggregation.State κ ρ)
    (s₂ : GroupingAggregation.State κ ρ) (held : List (Held κ ρ)) : Prop where
  course : a.Course s₁ read [] [] held
  runs : Stage.Runs b.step GroupingAggregation.start read [] s₂
  keeps : b.Keeps s₂ read [] held
  groups : GroupsOf key merge read held
  ascending : Ascending (held.map (·.group.row))

section InStep

variable {a : StreamingAggregation κ ρ} {b : GroupingAggregation κ ρ} {read : List ρ} {r : ρ}
  {s₁ : StreamingAggregation.State κ ρ} {s₂ : GroupingAggregation.State κ ρ}
  {held : List (Held κ ρ)}

omit [DecidableEq κ] in
/-- A map that holds no more groups than it may sends nothing. -/
theorem relieve_of_room {s : GroupingAggregation.State κ ρ} (h : b.Keeps s read [] held)
    (hroom : held.length ≤ b.threshold) : b.relieve s = (s, []) := by
  rw [GroupingAggregation.relieve, h.groups, List.length_map, if_neg hroom.not_gt]

/-- **One more row** joins the same group in both stages, and both still send nothing. -/
theorem InStep.snoc (h : InStep a b key merge read s₁ s₂ held) (hsame : b.toGroupBy = a.toGroupBy)
    (hlater : a.KeepsLater) (hkey : ∀ r, a.key r = .ok (key r))
    (hmerge : ∀ x r, a.merge x r = .ok (merge x r)) (hr : ∀ x ∈ read, time x ≤ time r)
    (hbuffer : ((read ++ [r]).map key).dedup.length ≤ a.bufferSize)
    (hthreshold : ((read ++ [r]).map key).dedup.length ≤ b.threshold) :
    ∃ s₁' s₂' held', InStep a b key merge (read ++ [r]) s₁' s₂' held' := by
  have hmerge' : ∀ x r, b.merge x r = .ok (merge x r) := hsame ▸ hmerge
  obtain ⟨s₁', more, hstep⟩ := h.course.keeps.exists_step hkey hmerge hr
  obtain ⟨leaving, stay, f, hcourse, -, -, -, hmore, x, hx, hheld⟩ := h.course.next hstep
  obtain ⟨s₂', hput⟩ := h.keeps.exists_put (hsame ▸ hkey) hmerge' hr
  obtain ⟨y, hy, hkeeps⟩ := h.keeps.put hput
  -- the rows read determine the clock, so the row does the same to its group
  rw [hsame, ← hcourse.keeps.clock.unique hkeeps.clock] at hy
  obtain rfl := hx.unique hy
  have hgroups := h.groups.absorb (Except.ok.inj ((hkey r).symm.trans hx.key)) hx.members
    ((hkeeps.holding.sound x (by simp)).makes.foldl hmerge')
  rw [← hgroups.length_eq] at hbuffer hthreshold
  obtain rfl := h.course.sends_nothing hstep hx.key (by simpa [Nat.succ_le_iff] using hbuffer)
  have hrows := f.drain_rows (leaving.map (·.group))
  obtain rfl : leaving = [] := by simpa [← hmore] using hrows.symm
  have hstep₂ : b.step s₂ r = .ok (s₂', []) := by
    rw [GroupingAggregation.step_eq, hput, Except.map, relieve_of_room hkeeps hthreshold]
  have hbefore : Ascending ((([] : List (Held κ ρ)) ++ held).map (·.group.row)) := h.ascending
  have hasc := hcourse.ascending_next hbefore hlater hx.mem hheld
  rw [List.nil_append] at hheld
  subst hheld
  exact ⟨s₁', s₂', _, by simpa using hcourse, by simpa using h.runs.next hstep₂, hkeeps, hgroups,
    by simpa using hasc⟩

/-- **Both stages stay in step** as long as nothing overflows. By induction on the rows read. -/
theorem exists_held (hsame : b.toGroupBy = a.toGroupBy) (hlater : a.KeepsLater)
    (hkey : ∀ r, a.key r = .ok (key r)) (hmerge : ∀ x r, a.merge x r = .ok (merge x r))
    {xs : List ρ} (asc : Ascending xs) (hbuffer : (xs.map key).dedup.length ≤ a.bufferSize)
    (hthreshold : (xs.map key).dedup.length ≤ b.threshold) :
    ∃ s₁ s₂ held, InStep a b key merge xs s₁ s₂ held := by
  induction xs using List.reverseRecOn with
  | nil => exact ⟨_, _, [], .start a, .start, b.keeps_start, .nil key merge, .nil⟩
  | append_singleton read r ih =>
    obtain ⟨hread, -, hr⟩ := List.pairwise_append.mp asc
    have hfewer := length_dedup_le key (List.subset_append_left read [r])
    obtain ⟨s₁, s₂, held, h⟩ := ih hread (hfewer.trans hbuffer) (hfewer.trans hthreshold)
    exact h.snoc hsame hlater hkey hmerge (fun x hx => hr x hx r (by simp)) hbuffer hthreshold

end InStep

/-- **The two groupings agree** on ascending rows with no more keys than a cache or a map may hold.
If the rows are followed by an error, both send nothing but the error. -/
theorem stages_agree (a : StreamingAggregation κ ρ) (b : GroupingAggregation κ ρ)
    (hsame : b.toGroupBy = a.toGroupBy) (horder : b.Reorders) (hlater : a.KeepsLater)
    (hkey : ∀ r, a.key r = .ok (key r)) (hmerge : ∀ x r, a.merge x r = .ok (merge x r))
    {xs : List ρ} (asc : Ascending xs) (hbuffer : (xs.map key).dedup.length ≤ a.bufferSize)
    (hthreshold : (xs.map key).dedup.length ≤ b.threshold) :
    (∃ out₁ out₂ groups₁ groups₂, a.stage.transform (xs.map .ok) = out₁.map .ok ∧
      b.stage.transform (xs.map .ok) = out₂.map .ok ∧
      SameGroups key merge xs out₁ out₂ groups₁ groups₂) ∧
    ∀ err rest, a.stage.transform (xs.map .ok ++ .error err :: rest) = [.error err] ∧
      b.stage.transform (xs.map .ok ++ .error err :: rest) = [.error err] := by
  obtain ⟨s₁, s₂, held, h⟩ := exists_held hsame hlater hkey hmerge asc hbuffer hthreshold
  refine ⟨?_, fun err rest => ⟨h.course.reached a.finish _, h.runs.fold_append b.finish _⟩⟩
  obtain ⟨leaving, hperm, hflush, -⟩ := h.keeps.flush horder
  have hout₁ := h.course.reached a.finish []
  have hout₂ := h.runs.fold_append b.finish []
  rw [List.append_nil, Stage.fold, h.course.keeps.finish_eq h.course.fits] at hout₁
  rw [List.append_nil, Stage.fold, GroupingAggregation.finish, hflush.out_eq] at hout₂
  refine ⟨_, _, held, leaving, hout₁, hout₂,
    .of_drain h.groups hperm h.course.keeps.floors (.refl _) h.ascending ?_⟩
  rw [Ascending, List.pairwise_map]
  exact hflush.sorted

/-- Room for rows with a field and for rows without it, in a cache. -/
def alarmsCached : StreamingAggregation Bool Row :=
  { StreamingAggregation.oneAtATime with buffer := 2 }

/-- Room for both, in a map that gives them out backwards. -/
def alarmsMapped : GroupingAggregation Bool Row :=
  { GroupingAggregation.alarmsBackwards with limit := 2 }

/-- Two groups that end at the same second. -/
def endTogether : List Row := StreamingAggregation.comesAndGoes.take 3

theorem stages_agree_endTogether :
    alarmsMapped.Reorders ∧ alarmsCached.KeepsLater ∧ Ascending endTogether ∧
    (endTogether.map fun r => (r.get? "alarm").isSome).dedup.length = 2 ∧
    ∃ out₁ out₂ groups₁ groups₂, alarmsCached.stage.transform (endTogether.map .ok) = out₁.map .ok ∧
      alarmsMapped.stage.transform (endTogether.map .ok) = out₂.map .ok ∧
      SameGroups (fun r => (r.get? "alarm").isSome)
        (fun x r => { x with timestamp := max x.timestamp r.timestamp }) endTogether out₁ out₂
        groups₁ groups₂ := by
  have horder : alarmsMapped.Reorders := fun _ _ _ => List.reverse_perm _
  have hlater : alarmsCached.KeepsLater := fun _ _ _ h => Except.ok.inj h ▸ rfl
  have asc : Ascending endTogether := by decide +kernel
  have hkeys : (endTogether.map fun r => (r.get? "alarm").isSome).dedup.length = 2 := by
    decide +kernel
  exact ⟨horder, hlater, asc, hkeys, (stages_agree alarmsCached alarmsMapped rfl horder hlater
    (fun _ => rfl) (fun _ _ => rfl) asc hkeys.le hkeys.le).1⟩

/-- The groups come in different orders, so only the last bounds of that second are the same. -/
example : (inputRows (alarmsCached.stage.transform (endTogether.map .ok))).map (·.settled)
      = [some (.atSecond 1), none] ∧
    (inputRows (alarmsMapped.stage.transform (endTogether.map .ok))).map (·.settled)
      = [some .earliest, none] := ⟨by decide +kernel, by cbv⟩

end Ingest
