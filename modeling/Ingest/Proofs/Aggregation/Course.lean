import Ingest.Proofs.Aggregation.Runs
import Ingest.Proofs.Aggregation.Streaming

/-!
# Proofs/Aggregation/Course — what a bounded grouping has sent and what it holds

A stage that has taken some rows in has sent the groups `sent` and holds the groups `held`
(`Course`). Nothing is assumed of keys and merges for this. A step adds one row to what is held, and
then some of it leaves (`Course.next`). Since the cache never holds more groups than the hand-off
queue has room for, the end of the input succeeds (`Keeps.finish_eq`).
-/

namespace Ingest

variable {κ ρ : Type}

/-! ## The cache and the hand-off queue -/

/-- A cache that holds no more than it may. -/
structure RecencyCache.Fits {α : Type} (c : RecencyCache κ α) (capacity : Nat) : Prop where
  capacity_eq : c.capacity = capacity
  length_le : c.entries.length ≤ capacity

namespace RecencyCache.Fits

variable {α : Type} {c : RecencyCache κ α} {capacity : Nat}

theorem erase [DecidableEq κ] (h : c.Fits capacity) (k : κ) : (c.erase k).Fits capacity :=
  ⟨h.capacity_eq, (List.length_filter_le _ _).trans h.length_le⟩

/-- A new entry finds a place, since the oldest one leaves a full cache. -/
theorem push (h : c.Fits capacity) (hpos : 0 < capacity) (k : κ) (x : α) :
    (c.push k x).2.Fits capacity := by
  unfold RecencyCache.push
  rcases hentries : c.entries with _ | ⟨oldest, rest⟩
  · exact ⟨h.capacity_eq, hpos⟩
  have hlength : rest.length + 1 ≤ capacity := by simpa [hentries] using h.length_le
  by_cases hfull : c.capacity ≤ (oldest :: rest).length
  · simp only [if_pos hfull]
    exact ⟨h.capacity_eq, by simpa using hlength⟩
  · simp only [if_neg hfull]
    exact ⟨h.capacity_eq, by simpa [h.capacity_eq, Nat.succ_le_iff] using hfull⟩

end RecencyCache.Fits

/-- A queue with room for all groups offered to it takes them in. -/
theorem StreamingAggregation.HandOff.foldl_offer {capacity : Nat} {h : HandOff ρ}
    {entries : List (κ × Pending ρ)} (hroom : h.queue.length + entries.length ≤ capacity) :
    entries.foldl (fun h e => h.offer capacity e.2) h
      = ⟨h.queue ++ entries.map (·.2), h.overflowed⟩ := by
  induction entries generalizing h with
  | nil => simp
  | cons e entries ih =>
    rw [List.length_cons] at hroom
    have hoffer : h.offer capacity e.2 = ⟨h.queue ++ [e.2], h.overflowed⟩ := if_pos (by omega)
    rw [List.foldl_cons, hoffer, ih (by simp; omega)]
    simp

namespace StreamingAggregation

variable [Timed ρ] [DecidableEq κ] {a : StreamingAggregation κ ρ} {s s' : State κ ρ}
  {read left : List ρ} {r : ρ} {out more : List (Staged ρ)} {sent held : List (Held κ ρ)}

/-! ## Steps -/

/-- A row that does not descend is taken in, unless its key or its merge fails. -/
theorem Keeps.exists_step (h : a.Keeps s read left held) {key : ρ → κ} {merge : ρ → ρ → ρ}
    (hkey : ∀ r, a.key r = .ok (key r)) (hmerge : ∀ x r, a.merge x r = .ok (merge x r))
    (hr : ∀ x ∈ read, time x ≤ time r) : ∃ s' out, a.step s r = .ok (s', out) := by
  obtain ⟨c', hadv⟩ := h.clock.exists_advance hr
  obtain ⟨p, hext⟩ := GroupBy.exists_extend hmerge c' r (s.cache.get? (key r))
  exact ⟨_, _, step_of_extend h.handOff hadv (hkey r) hext rfl⟩

/-- A step leaves the cache within its bounds. -/
theorem fits_of_step (hfits : s.cache.Fits a.bufferSize) (hempty : s.handOff = ⟨[], false⟩)
    (hs : a.step s r = .ok (s', out)) : s'.cache.Fits a.bufferSize := by
  obtain ⟨c', k, p, hadv, hkey, hext⟩ := exists_extend_of_step hs
  rw [step_of_extend hempty hadv hkey hext rfl] at hs
  obtain ⟨rfl, -⟩ := Prod.mk.inj (Except.ok.inj hs)
  exact (hfits.erase _).push a.bufferSize_pos _ _

omit [DecidableEq κ] in
/-- **The end of the input never overflows the queue.** -/
theorem Keeps.finish_eq (h : a.Keeps s read left held) (hfits : s.cache.Fits a.bufferSize) :
    a.finish s = .ok (s.floors.drain (held.map (·.group))).2 := by
  have hroom : s.handOff.queue.length + s.cache.entries.length ≤ a.bufferSize := by
    simpa [h.handOff] using hfits.length_le
  unfold StreamingAggregation.finish
  simp only [RecencyCache.evictAll, HandOff.foldl_offer hroom]
  rw [h.handOff, h.cache, if_neg Bool.false_ne_true, List.nil_append, List.map_map]
  rfl

/-! ## A course -/

/-- The rows `read` made the stage send `out`, which is the groups `sent`; it holds `held`. -/
structure Course (a : StreamingAggregation κ ρ) (s : State κ ρ) (read : List ρ)
    (out : List (Staged ρ)) (sent held : List (Held κ ρ)) : Prop where
  runs : Stage.Runs a.step a.start read out s
  keeps : a.Keeps s read (sent.flatMap (·.members)) held
  fits : s.cache.Fits a.bufferSize
  ascending : Ascending read
  makes : ∀ g ∈ sent, a.Makes g.key g.members g.group.row
  rows : out.map (·.row) = sent.map (·.group.row)

namespace Course

theorem start (a : StreamingAggregation κ ρ) : a.Course a.start [] [] [] [] where
  runs := .start
  keeps := a.keeps_start
  fits := ⟨rfl, Nat.zero_le _⟩
  ascending := .nil
  makes := by simp
  rows := rfl

theorem reached (h : a.Course s read out sent held) (finish : State κ ρ → Attempt (List (Staged ρ)))
    (rest : List (Except Error ρ)) :
    Stage.fold a.step finish a.start (read.map .ok ++ rest)
      = out.map .ok ++ Stage.fold a.step finish s rest := h.runs.fold_append finish rest

theorem rows_drain (h : a.Course s read out sent held) (f : Floors) (leaving : List (Held κ ρ)) :
    (out ++ (f.drain (leaving.map (·.group))).2).map (·.row)
      = (sent ++ leaving).map (·.group.row) := by
  rw [List.map_append, h.rows, Floors.drain_rows, List.map_append, List.map_map]
  rfl

/-- Every group is made of rows that were read. -/
theorem makes_of_mem (h : a.Course s read out sent held) {g : Held κ ρ} (hg : g ∈ sent ++ held) :
    a.Makes g.key g.members g.group.row ∧ g.members ⊆ read := by
  rcases List.mem_append.mp hg with hg | hg
  · refine ⟨h.makes g hg, fun m hm => h.keeps.holding.account.mem_iff.mpr ?_⟩
    exact List.mem_append_left _ (List.mem_flatMap.mpr ⟨g, hg, hm⟩)
  · exact ⟨(h.keeps.holding.sound g hg).makes, fun m => h.keeps.holding.mem_read hg⟩

/-- **One more row** joins what is held of its key, and then some groups leave. -/
theorem next (h : a.Course s read out sent held) (hs : a.step s r = .ok (s', more)) :
    ∃ leaving stay f, a.Course s' (read ++ [r]) (out ++ more) (sent ++ leaving) stay ∧
      stay ≠ [] ∧
      Holding a.toGroupBy s'.clock (read ++ [r]) (sent.flatMap (·.members)) (leaving ++ stay) ∧
      Floors.Of f (leaving ++ stay) ∧ more = (f.drain (leaving.map (·.group))).2 ∧
      ∃ h', Held.Joined a.toGroupBy s'.clock held r h' ∧
        leaving ++ stay = (held.filter fun x => x.key ≠ h'.key) ++ [h'] := by
  obtain ⟨c', k, p, hadv, -, -⟩ := exists_extend_of_step hs
  obtain ⟨leaving, stay, f, hkeeps, hstay, hholding, hfloors, rfl, h', hrest⟩ := h.keeps.step hs
  refine ⟨leaving, stay, f, ⟨h.runs.next hs, ?_, fits_of_step h.fits h.keeps.handOff hs,
    h.keeps.clock.ascending h.ascending hadv, fun g hg => ?_, h.rows_drain f leaving⟩, hstay,
    hholding, hfloors, rfl, h', hrest⟩
  · rwa [List.flatMap_append]
  · rcases List.mem_append.mp hg with hg | hg
    · exact h.makes g hg
    · exact (hholding.sound g (List.mem_append_left _ hg)).makes

end Course

end StreamingAggregation

end Ingest
