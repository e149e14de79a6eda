import Ingest.Proofs.GroupingSafety
import Ingest.Proofs.Loading.Ties

/-!
# Proofs/DrainOrder — the order in which a map gives out its groups

A flush sends its groups by timestamp, so another order of the map permutes groups of equal
timestamp and nothing else. The bound that comes with the last group of a timestamp is the least
floor of the later groups, whatever the order. Main statement: `load_withOrder` — behind a loader
the order is invisible.
-/

namespace Ingest

variable {κ ρ : Type} [Timed ρ]

/-! ## One flush -/

/-- A held group is dated as its row is. -/
instance : Timed (Held κ ρ) := ⟨fun h => time h.group.row⟩

namespace Floors

variable {f f' : Floors} {leaving leaving' held held' : List (Held κ ρ)} {t : Instant}

omit [Timed ρ] in
theorem drain_append (f : Floors) (xs ys : List (Pending ρ)) :
    (f.drain (xs ++ ys)).2 = (f.drain xs).2 ++ ((f.drain xs).1.drain ys).2 := by
  induction xs generalizing f with
  | nil => rfl
  | cons p xs ih => exact congrArg (_ :: ·) (ih _)

omit [Timed ρ] in
/-- The last of the groups that leave carries the least floor of those that stay. -/
theorem Of.settled_drain_getLast? (hf : f.Of (leaving ++ held)) :
    (f.drain (leaving.map (·.group))).2.getLast?.map (·.settled)
      = (leaving.map fun _ => Held.settled held).getLast? := by
  induction leaving generalizing f with
  | nil => rfl
  | cons h₀ leaving ih =>
    have hrest := hf.release
    rcases leaving with _ | ⟨h₁, leaving⟩
    · exact congrArg some hrest.settled_eq
    · exact ih hrest

/-- Groups of one timestamp leave in two orders, and the same groups stay. -/
theorem Of.tiedRuns (hf : f.Of (leaving ++ held)) (hf' : f'.Of (leaving' ++ held'))
    (hleaving : leaving.Perm leaving') (hheld : held.Perm held') (ht : ∀ h ∈ leaving, time h = t) :
    Loading.TiedRuns t (f.drain (leaving.map (·.group))).2
      (f'.drain (leaving'.map (·.group))).2 where
  time_eq it hit := by
    have hrow := List.mem_map_of_mem (f := (·.row)) hit
    rw [drain_rows, List.map_map] at hrow
    obtain ⟨h, hmem, heq⟩ := List.mem_map.mp hrow
    exact heq ▸ ht h hmem
  rows := by
    rw [drain_rows, drain_rows]
    exact (hleaving.map _).map _
  settled := by
    rw [hf.settled_drain_getLast?, hf'.settled_drain_getLast?, Held.settled_perm hheld,
      List.map_const', List.map_const', hleaving.length_eq]

/-- **Groups leave by timestamp**, in two orders of which each is ascending. -/
theorem Of.sameRuns (hf : f.Of leaving) (hf' : f'.Of leaving') (hp : leaving.Perm leaving')
    (asc : Ascending leaving) (asc' : Ascending leaving')
    {rest rest' : List (Except Error (Staged ρ))} (hrest : Loading.SameRuns rest rest') :
    Loading.SameRuns ((f.drain (leaving.map (·.group))).2.map .ok ++ rest)
      ((f'.drain (leaving'.map (·.group))).2.map .ok ++ rest') := by
  induction hn : leaving.length using Nat.strong_induction_on
    generalizing f f' leaving leaving' with
  | _ n ih
  rcases leaving with _ | ⟨h₀, more⟩
  · obtain rfl := hp.nil_eq
    exact hrest
  -- the groups with the first timestamp, and the later ones
  have hfirst : ∀ h ∈ (h₀ :: more).filter (fun h => time h ≤ time h₀), time h = time h₀ := by
    intro h hh
    obtain ⟨hmem, hle⟩ := List.mem_filter.mp hh
    refine (of_decide_eq_true hle).antisymm ?_
    rcases List.mem_cons.mp hmem with rfl | hmem
    · exact le_rfl
    · exact (List.pairwise_cons.mp asc).1 h hmem
  have hshort : ((h₀ :: more).filter fun h => time h₀ < time h).length < n := by
    rw [List.filter_cons_of_neg (by simp), ← hn, List.length_cons]
    exact Nat.lt_succ_of_le (List.length_filter_le _ _)
  rw [← asc.filter_le_append_filter_lt (time h₀)] at hf ⊢
  rw [← asc'.filter_le_append_filter_lt (time h₀)] at hf' ⊢
  rw [List.map_append, List.map_append, drain_append, drain_append, List.map_append,
    List.map_append, List.append_assoc, List.append_assoc]
  exact .ties (hf.tiedRuns hf' (hp.filter _) (hp.filter _) hfirst)
    (ih _ hshort hf.drain hf'.drain (hp.filter _) (asc.filter _) (asc'.filter _) rfl)

end Floors

namespace GroupingAggregation

/-! ## A whole run -/

/-- The same stage with a map that gives out its groups in another order. -/
def withOrder (a : GroupingAggregation κ ρ)
    (order : Nat → List (κ × Pending ρ) → List (κ × Pending ρ)) : GroupingAggregation κ ρ :=
  { a with order := order }

variable {a : GroupingAggregation κ ρ}
  {order : Nat → List (κ × Pending ρ) → List (κ × Pending ρ)} {s : State κ ρ}
  {read left : List ρ} {held leaving leaving' : List (Held κ ρ)} {out out' : List (Staged ρ)}
  {rest rest' : List (Except Error (Staged ρ))}

theorem Flushes.sameRuns (h : Flushes leaving out) (h' : Flushes leaving' out')
    (hp : leaving.Perm leaving') (hrest : Loading.SameRuns rest rest') :
    Loading.SameRuns (out.map .ok ++ rest) (out'.map .ok ++ rest') := by
  rw [h.out_eq, h'.out_eq]
  exact Floors.Of.sameRuns (.refl _) (.refl _) hp h.sorted h'.sorted hrest

/-- **A flush** with two orders. -/
theorem Keeps.flush_sameRuns (h : a.Keeps s read left held) (horder : a.Reorders)
    (horder' : (a.withOrder order).Reorders) (hrest : Loading.SameRuns rest rest') :
    Loading.SameRuns ((a.flush s).2.map .ok ++ rest)
      (((a.withOrder order).flush s).2.map .ok ++ rest') := by
  obtain ⟨leaving, hperm, hflush⟩ := flushes horder h.groups h.nodup
  obtain ⟨leaving', hperm', hflush'⟩ := flushes horder' h.groups h.nodup
  exact hflush.sameRuns hflush' (hperm.trans hperm'.symm) hrest

variable [DecidableEq κ]

/-- **The stage with two orders** goes through the same states, since a flush empties it. -/
theorem Keeps.sameRuns (h : a.Keeps s read left held) (horder : a.Reorders)
    (horder' : (a.withOrder order).Reorders) (items : List (Except Error ρ)) :
    Loading.SameRuns (Stage.fold a.step a.finish s items)
      (Stage.fold (a.withOrder order).step (a.withOrder order).finish s items) := by
  induction items generalizing s read left held with
  | nil =>
    have hflush := h.flush_sameRuns horder horder' .nil
    rwa [List.append_nil, List.append_nil] at hflush
  | cons entry items ih =>
    rcases entry with e | r
    · exact .error e [] []
    have hput : (a.withOrder order).put s r = a.put s r := rfl
    simp only [Stage.fold, step_eq, hput]
    rcases hs : a.put s r with fault | s₁
    · exact .error fault.caught [] []
    obtain ⟨h', -, hkeeps⟩ := h.put hs
    obtain ⟨leaving, -, -, hflushed⟩ := hkeeps.flush horder
    by_cases hfull : a.threshold < s₁.groups.length
    · have hrelieve : a.relieve s₁ = a.flush s₁ := if_pos hfull
      have hrelieve' : (a.withOrder order).relieve s₁ = (a.withOrder order).flush s₁ :=
        if_pos hfull
      simp only [Except.map, hrelieve, hrelieve']
      exact hkeeps.flush_sameRuns horder horder' (ih hflushed)
    · have hrelieve : a.relieve s₁ = (s₁, []) := if_neg hfull
      have hrelieve' : (a.withOrder order).relieve s₁ = (s₁, []) := if_neg hfull
      simp only [Except.map, hrelieve, hrelieve', List.map_nil, List.nil_append]
      exact ih hkeeps

/-! ## The statement -/

/-- **The order of the map is invisible behind a loader.** For two orders in which the map may give
out its groups, and a sink whose verdicts do not depend on the order of ties, the loads have the
same status, the same count and the same instant, or both break off. They hand the sink the same
batches with the same verdicts, and commit the same batches, but for the order of ties within a
batch. -/
theorem load_withOrder {ω : Type} (a : GroupingAggregation κ ρ)
    (order : Nat → List (κ × Pending ρ) → List (κ × Pending ρ)) (horder : a.Reorders)
    (horder' : (a.withOrder order).Reorders) (sink : Sink ω ρ) (w : ω)
    (hsink : sink.IgnoresTies w) (e : Execution) (items : List (Except Error ρ)) :
    let sent := a.stage.transform items
    let sent' := (a.withOrder order).stage.transform items
    (Loading.run sink e sent w).1.SameTally (Loading.run sink e sent' w).1 ∧
      List.Forall₂ SameEntry (Loading.handed sink e sent w) (Loading.handed sink e sent' w) ∧
      List.Forall₂ SameButTies (committedBatches (Loading.handed sink e sent w))
        (committedBatches (Loading.handed sink e sent' w)) := by
  intro sent sent'
  have hsame : Loading.SameRuns sent sent' := a.keeps_start.sameRuns horder horder' items
  obtain ⟨htally, hlog⟩ := Loading.run_sameTally hsink e hsame
  exact ⟨htally, hlog, forall₂_committedBatches hlog⟩

/-- Two rows with keys of their own in each of two timestamps. -/
def pairedRows : List Row := [keyedRow 1 "a", keyedRow 1 "b", keyedRow 2 "c", keyedRow 2 "d"]

/-- A sink that rejects what makes it hold more than three rows. -/
def roomForThree : Sink Nat Row where
  name := "room for three"
  processable _ := true
  commit c := do
    if (← get) + c.rows.length ≤ 3 then
      modify (· + c.rows.length)
      return .ok (.committed c.rows.length 0)
    else return .ok (.rejected none)
  deleteAll _ := return .ok ()

theorem roomForThree_ignoresTies (n : Nat) : roomForThree.IgnoresTies n := by
  let Same : Nat → Nat → Nat → Nat → Prop := fun d d' m m' => d = d' ∧ m = m'
  refine Sink.Overlooks.ignoresTies (R := Same) ?_ ⟨rfl, rfl⟩
  rintro c c' d _ hc m _ ⟨rfl, rfl⟩
  have hreply : roomForThree.commit c m = roomForThree.commit c' m := by
    simp only [roomForThree, hc.rows.length_eq]
  rw [hreply]
  exact ⟨⟨rfl, Iff.rfl⟩, rfl, rfl⟩

/-- Either row of a timestamp may come first. -/
theorem load_withOrder_pairedRows :
    let sent := byKey.stage.transform (pairedRows.map .ok)
    let sent' := (byKey.withOrder fun _ groups => groups.reverse).stage.transform
      (pairedRows.map .ok)
    (inputRows sent).map (·.row) = pairedRows ∧
    (inputRows sent').map (·.row) =
      [keyedRow 1 "b", keyedRow 1 "a", keyedRow 2 "d", keyedRow 2 "c"] ∧
    (Loading.run roomForThree oneByOne sent 0).1.SameTally
      (Loading.run roomForThree oneByOne sent' 0).1 := by
  refine ⟨by cbv, by cbv, ?_⟩
  exact (load_withOrder byKey (fun _ groups => groups.reverse) byKey_reorders
    (fun _ groups _ => groups.reverse_perm) roomForThree 0 (roomForThree_ignoresTies 0) oneByOne
    (pairedRows.map .ok)).1

end GroupingAggregation

end Ingest
