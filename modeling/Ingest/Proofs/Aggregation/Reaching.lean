import Ingest.Proofs.Aggregation.Grouping
import Ingest.Proofs.Aggregation.Streaming

/-!
# Proofs/Aggregation/Reaching — at the end of its input a stage holds nothing back

A stream *reaches* rows if, unless it ends with an error, it has a row that is as late as each of
them, and its last row has no bound. The stages that there are reach all of their input, whatever
they merge, hold and reorder, and they never send a row that is later than the input. Main
statement: `Stage.Provided.reaches`.
-/

namespace Ingest

variable {κ ρ : Type} [Timed ρ]

/-! ## Streams -/

/-- Unless the stream ends with an error, it is as late as the rows `owed` and its last row has no
bound. No row of the stream is later than all of `read`. -/
structure Reaches (owed read : List ρ) (items : List (Except Error (Staged ρ))) : Prop where
  within : ∀ it : Staged ρ, .ok it ∈ items → ∃ x ∈ read, time it.row ≤ time x
  reach : ∀ done : List (Staged ρ), items = done.map .ok →
    ∀ x ∈ owed, ∃ it ∈ done, time x ≤ time it.row
  settled : ∀ done : List (Staged ρ), items = done.map .ok →
    ∀ it ∈ done.getLast?, it.settled = none

namespace Reaches

variable {owed owed' read : List ρ} {out : List (Staged ρ)}
  {items : List (Except Error (Staged ρ))}

/-- A stream that fails owes nothing more. -/
theorem error (owed read : List ρ) (e : Error) : Reaches owed read [.error e] where
  within it hit := by simp at hit
  reach done hdone := by cases done <;> simp at hdone
  settled done hdone := by cases done <;> simp at hdone

theorem nil (read : List ρ) : Reaches [] read [] where
  within it hit := by cases hit
  reach done _ x hx := by cases hx
  settled done hdone := by simp [List.map_eq_nil_iff.mp hdone.symm]

theorem subset (h : Reaches owed read items) (hsub : owed' ⊆ owed) : Reaches owed' read items where
  within := h.within
  reach done hdone x hx := h.reach done hdone x (hsub hx)
  settled := h.settled

/-- No row of `out` is later than all of `read`. -/
def Within (read : List ρ) (out : List (Staged ρ)) : Prop :=
  ∀ it ∈ out, ∃ x ∈ read, time it.row ≤ time x

theorem Within.append (h : Within read out) (todo : List ρ) : Within (read ++ todo) out := by
  intro it hit
  obtain ⟨x, hx, hle⟩ := h it hit
  exact ⟨x, List.mem_append_left _ hx, hle⟩

/-- **More rows in front.** If something follows them, they may have bounds. -/
theorem append (h : Reaches owed read items) (hwithin : Within read out)
    (hreach : ∀ x ∈ owed', ∃ it ∈ out, time x ≤ time it.row)
    (hlast : owed ≠ [] ∨ ∀ it ∈ out.getLast?, it.settled = none) :
    Reaches (owed' ++ owed) read (out.map .ok ++ items) where
  within it hit := by
    rcases List.mem_append.mp hit with hit | hit
    · exact hwithin it (by simpa using hit)
    · exact h.within it hit
  reach done hdone x hx := by
    obtain ⟨front, back, rfl, hfront, hback⟩ := List.map_eq_append_iff.mp hdone.symm
    obtain rfl := List.map_injective_iff.mpr (fun _ _ => Except.ok.inj) hfront
    rcases List.mem_append.mp hx with hx | hx
    · obtain ⟨it, hit, hle⟩ := hreach x hx
      exact ⟨it, List.mem_append_left _ hit, hle⟩
    · obtain ⟨it, hit, hle⟩ := h.reach back hback.symm x hx
      exact ⟨it, List.mem_append_right _ hit, hle⟩
  settled done hdone it hit := by
    obtain ⟨front, back, rfl, hfront, hback⟩ := List.map_eq_append_iff.mp hdone.symm
    obtain rfl := List.map_injective_iff.mpr (fun _ _ => Except.ok.inj) hfront
    rcases back with _ | ⟨next, back⟩
    · rw [List.append_nil] at hit
      refine hlast.resolve_left (fun howed => ?_) it hit
      obtain ⟨x, hx⟩ := List.exists_mem_of_ne_nil owed howed
      obtain ⟨y, hy, -⟩ := h.reach [] hback.symm x hx
      cases hy
    · exact h.settled (next :: back) hback.symm it (by simpa using hit)

end Reaches

/-! ## Groups that leave -/

namespace Holding

variable {g : GroupBy κ ρ} {c c' : InputClock} {read left : List ρ} {r : ρ}
  {held held' leaving : List (Held κ ρ)} {out : List (Staged ρ)}

theorem within_of_rows (h : Holding g c read left held) (hlater : g.KeepsLater)
    (hsub : leaving ⊆ held) (hrows : out.map (·.row) = leaving.map fun x => x.group.row) :
    Reaches.Within read out := by
  intro it hit
  have hmem : it.row ∈ leaving.map fun x => x.group.row := hrows ▸ List.mem_map_of_mem hit
  obtain ⟨x, hx, hrow⟩ := List.mem_map.mp hmem
  obtain ⟨⟨m, hm, htime⟩, -⟩ := (h.sound x (hsub hx)).makes.time_mem hlater
  exact ⟨m, h.mem_read (hsub hx) hm, by rw [htime, hrow]⟩

theorem reach_of_rows (h : Holding g c read left held) (hlater : g.KeepsLater)
    (hsub : leaving ⊆ held) (hrows : out.map (·.row) = leaving.map fun x => x.group.row) :
    ∀ x ∈ leaving.flatMap (·.members), ∃ it ∈ out, time x ≤ time it.row := by
  intro m hm
  obtain ⟨x, hx, hm⟩ := List.mem_flatMap.mp hm
  have hmem : x.group.row ∈ out.map (·.row) := hrows ▸ List.mem_map_of_mem hx
  obtain ⟨it, hit, hrow⟩ := List.mem_map.mp hmem
  exact ⟨it, hit, by rw [hrow]; exact ((h.sound x (hsub hx)).makes.time_mem hlater).2 m hm⟩

/-- With one more row, the members of the groups are one more. -/
theorem members_perm (h : Holding g c read left held)
    (h' : Holding g c' (read ++ [r]) left held') :
    (held.flatMap (·.members) ++ [r]).Perm (held'.flatMap (·.members)) := by
  rw [← List.perm_append_left_iff left, ← List.append_assoc]
  exact (h.account.symm.append_right [r]).trans h'.account

/-- A held group has a member. -/
theorem members_ne_nil (h : Holding g c read left held) (hlater : g.KeepsLater)
    (hne : held ≠ []) : held.flatMap (·.members) ≠ [] := by
  obtain ⟨x, hx⟩ := List.exists_mem_of_ne_nil held hne
  obtain ⟨⟨m, hm, -⟩, -⟩ := (h.sound x hx).makes.time_mem hlater
  exact List.ne_nil_of_mem (List.mem_flatMap.mpr ⟨x, hx, hm⟩)

end Holding

/-! ## The stages -/

/-- Rows that are passed on reach as far as themselves. -/
theorem Stage.direct_reaches (xs : List ρ) :
    Reaches xs xs ((Stage.direct ρ).transform (xs.map .ok)) := by
  rw [Stage.direct_transform]
  refine ⟨fun it hit => ?_, fun done hdone x hx => ?_, fun done hdone it hit => ?_⟩
  · obtain ⟨x, hx, rfl⟩ : ∃ x ∈ xs, (⟨x, none⟩ : Staged ρ) = it := by simpa using hit
    exact ⟨x, hx, le_rfl⟩
  · obtain rfl := List.map_injective_iff.mpr (fun _ _ => Except.ok.inj) hdone
    exact ⟨⟨x, none⟩, List.mem_map_of_mem hx, le_rfl⟩
  · obtain rfl := List.map_injective_iff.mpr (fun _ _ => Except.ok.inj) hdone
    obtain ⟨x, -, rfl⟩ := List.mem_map.mp (List.mem_of_getLast? hit)
    rfl

variable {read todo left : List ρ} {held : List (Held κ ρ)}

/-- What is owed before a row is owed after it, to the groups that left and to those that stay. -/
theorem Holding.owed_subset {g : GroupBy κ ρ} {c c' : InputClock} {r : ρ}
    (leaving : List (Held κ ρ)) {stay : List (Held κ ρ)} (h : Holding g c read left held)
    (h' : Holding g c' (read ++ [r]) left (leaving ++ stay)) :
    held.flatMap (·.members) ++ r :: todo
      ⊆ leaving.flatMap (·.members) ++ (stay.flatMap (·.members) ++ todo) := by
  have hmembers := h.members_perm h'
  rw [List.flatMap_append] at hmembers
  rw [← List.append_assoc, List.append_cons]
  exact List.append_subset.mpr ⟨fun x hx => List.mem_append_left _ (hmembers.mem_iff.mp hx),
    List.subset_append_right _ _⟩

variable [DecidableEq κ]

/-- **A group leaves the cache at the latest when the input ends**, and the last one to leave has no
bound. -/
theorem StreamingAggregation.Keeps.reaches {a : StreamingAggregation κ ρ}
    {s : StreamingAggregation.State κ ρ} (h : a.Keeps s read left held) (hlater : a.KeepsLater) :
    Reaches (held.flatMap (·.members) ++ todo) (read ++ todo)
      (Stage.fold a.step a.finish s (todo.map .ok)) := by
  have hrows : ∀ (f : Floors) (leaving : List (Held κ ρ)),
      (f.drain (leaving.map (·.group))).2.map (·.row) = leaving.map fun x => x.group.row :=
    fun f leaving => by
      rw [Floors.drain_rows, List.map_map]
      rfl
  induction todo generalizing read left held s with
  | nil =>
    rw [List.map_nil, Stage.fold, List.append_nil]
    rcases hs : a.finish s with f | out
    · exact .error _ _ _
    obtain rfl := h.finish hs
    have happ := (Reaches.nil read).append
      (h.holding.within_of_rows hlater (fun _ => id) (hrows s.floors held))
      (h.holding.reach_of_rows hlater (fun _ => id) (hrows s.floors held))
      (.inr h.floors.drain_getLast?)
    simpa using happ
  | cons r todo ih =>
    rw [List.map_cons, Stage.fold]
    rcases hs : a.step s r with f | ⟨s', out⟩
    · exact .error _ _ _
    obtain ⟨leaving, stay, f, hkeeps, hstay, hholding, -, rfl, -⟩ := h.step hs
    have hsub : leaving ⊆ leaving ++ stay := List.subset_append_left _ _
    have hmembers := hkeeps.holding.members_ne_nil hlater hstay
    have happ := (ih hkeeps).append
      ((hholding.within_of_rows hlater hsub (hrows f leaving)).append todo)
      (hholding.reach_of_rows hlater hsub (hrows f leaving))
      (.inl fun hnil => hmembers (List.append_eq_nil_iff.mp hnil).1)
    rw [List.append_cons read]
    exact happ.subset (h.holding.owed_subset leaving hholding)

/-- **All groups leave in the last flush**, and the last one to leave has no bound. -/
theorem GroupingAggregation.Keeps.reaches {a : GroupingAggregation κ ρ}
    {s : GroupingAggregation.State κ ρ} (h : a.Keeps s read left held) (horder : a.Reorders)
    (hlater : a.KeepsLater) :
    Reaches (held.flatMap (·.members) ++ todo) (read ++ todo)
      (Stage.fold a.step a.finish s (todo.map .ok)) := by
  induction todo generalizing read left held s with
  | nil =>
    obtain ⟨leaving, hperm, hflush⟩ := flushes horder h.groups h.nodup
    have hholding := h.holding.perm hperm.symm
    have happ := (Reaches.nil read).append
      (hholding.within_of_rows hlater (fun _ => id) hflush.rows)
      (hholding.reach_of_rows hlater (fun _ => id) hflush.rows) (.inr hflush.settled_getLast?)
    have hall := happ.subset fun x hx =>
      List.mem_append_left [] ((hperm.flatMap_right _).mem_iff.mpr hx)
    simpa [Stage.fold, finish] using hall
  | cons r todo ih =>
    rw [List.map_cons, Stage.fold]
    rcases hs : a.step s r with f | ⟨s', out⟩
    · exact .error _ _ _
    rw [List.append_cons read]
    obtain ⟨held', -, hholding, ⟨rfl, hkeeps⟩ | ⟨hflush, hkeeps⟩⟩ := h.step horder hs
    · exact (ih hkeeps).subset (h.holding.owed_subset [] hholding)
    · have happ := (ih hkeeps).append
        ((hholding.within_of_rows hlater (fun _ => id) hflush.rows).append todo)
        (hholding.reach_of_rows hlater (fun _ => id) hflush.rows) (.inr hflush.settled_getLast?)
      have hholding' : Holding a.toGroupBy s'.clock (read ++ [r]) left (held' ++ []) := by
        rwa [List.append_nil]
      exact happ.subset (h.holding.owed_subset held' hholding')

/-- The stages that there are: none, and grouping in either way by a merge that keeps the later
timestamp. -/
inductive Stage.Provided : Stage ρ → Prop where
  | direct : Provided (.direct ρ)
  | streaming {κ : Type} [DecidableEq κ] (a : StreamingAggregation κ ρ) (hlater : a.KeepsLater) :
    Provided a.stage
  | grouping {κ : Type} [DecidableEq κ] (a : GroupingAggregation κ ρ) (hlater : a.KeepsLater)
    (horder : a.Reorders) : Provided a.stage

/-- Without rows a stage sends nothing. -/
theorem Stage.Provided.transform_nil {stage : Stage ρ} (h : stage.Provided) :
    stage.transform [] = [] := by
  cases h with
  | direct => rfl
  | streaming a hlater => rfl
  | grouping a hlater horder =>
    have hnil : a.order 0 [] = [] := List.Perm.eq_nil (horder 0 [] .nil)
    change (GroupingAggregation.emit ((a.order 0 []).map (·.2))).map Except.ok = []
    rw [hnil, GroupingAggregation.emit, List.map_nil, List.mergeSort_nil]
    rfl

/-- **At the end of its input a stage holds nothing back.** -/
theorem Stage.Provided.reaches {stage : Stage ρ} (h : stage.Provided) (xs : List ρ) :
    Reaches xs xs (stage.transform (xs.map .ok)) := by
  cases h with
  | direct => exact Stage.direct_reaches xs
  | streaming a hlater => exact a.keeps_start.reaches hlater
  | grouping a hlater horder => exact a.keeps_start.reaches horder hlater

end Ingest
