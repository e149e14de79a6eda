import Ingest.Aggregation.Streaming
import Ingest.Proofs.Aggregation.Held

/-!
# Proofs/Aggregation/Streaming — grouping in bounded memory loses nothing

Between two input rows the hand-off queue is empty and the cache holds the groups (`Keeps`). The
group of the latest row is always among them, so its floor bounds what leaves before the end of the
input. Main statement: `stage_backed`.
-/

namespace Ingest

variable {κ ρ : Type}

namespace RecencyCache

variable {α : Type}

/-- A new key stands last, and at most the first entry leaves. -/
theorem push_cases (c : RecencyCache κ α) (k : κ) (x : α) :
    ∃ evicted stay, c.entries = Option.toList evicted ++ stay ∧
      c.push k x = (evicted, { c with entries := stay ++ [(k, x)] }) := by
  unfold push
  rcases hentries : c.entries with _ | ⟨oldest, rest⟩
  · exact ⟨none, [], rfl, rfl⟩
  · by_cases hfull : c.capacity ≤ (oldest :: rest).length
    · exact ⟨some oldest, rest, rfl, if_pos hfull⟩
    · exact ⟨none, oldest :: rest, rfl, if_neg hfull⟩

end RecencyCache

namespace StreamingAggregation

variable {a : StreamingAggregation κ ρ} {s s' : State κ ρ} {read todo left : List ρ}
  {held : List (Held κ ρ)}

theorem bufferSize_pos (a : StreamingAggregation κ ρ) : 0 < a.bufferSize :=
  Nat.lt_of_lt_of_le Nat.one_pos (le_max_right _ _)

/-- A queue that never was full holds all groups offered to it. -/
theorem HandOff.queue_of_not_overflowed {capacity : Nat} {h : HandOff ρ}
    {entries : List (κ × Pending ρ)}
    (hall : (entries.foldl (fun h e => h.offer capacity e.2) h).overflowed = false) :
    h.overflowed = false ∧
      (entries.foldl (fun h e => h.offer capacity e.2) h).queue = h.queue ++ entries.map (·.2) := by
  induction entries generalizing h with
  | nil => exact ⟨hall, by simp⟩
  | cons e entries ih =>
    obtain ⟨hnot, hqueue⟩ := ih hall
    rw [List.foldl_cons, hqueue]
    by_cases hroom : h.queue.length < capacity
    · simp only [HandOff.offer, if_pos hroom] at hnot ⊢
      exact ⟨hnot, by simp⟩
    · simp [HandOff.offer, hroom] at hnot

variable [Timed ρ] [DecidableEq κ]

/-- The stage has read `read`, has sent `left` in groups and holds the groups `held`. -/
structure Keeps (a : StreamingAggregation κ ρ) (s : State κ ρ) (read left : List ρ)
    (held : List (Held κ ρ)) : Prop where
  cache : s.cache.entries = held.map Held.entry
  nodup : (held.map Held.key).Nodup
  handOff : s.handOff = ⟨[], false⟩
  floors : s.floors.Of held
  clock : s.clock.Reads read
  holding : Holding a.toGroupBy s.clock read left held

/-- What a step takes in, if it does not fail. -/
theorem exists_extend_of_step {r : ρ} {out : List (Staged ρ)} (h : a.step s r = .ok (s', out)) :
    ∃ c' k p, s.clock.advance (time r) = .ok c' ∧ a.key r = .ok k ∧
      a.extend c' r (s.cache.get? k) = .ok p := by
  unfold StreamingAggregation.step at h
  rcases henter : a.enter s.clock r with e | ⟨c', k⟩ <;> rw [henter] at h
  · cases h
  obtain ⟨hadv, hkey⟩ := GroupBy.enter_eq_ok henter
  rcases hext : a.extend c' r (s.cache.get? k) with e | p
  · simp [RecencyCache.compute, hext, bind, Except.bind] at h
  · exact ⟨c', k, p, hadv, hkey, hext⟩

/-- **A step**, by what it takes in and what has to leave the cache. -/
theorem step_of_extend (hempty : s.handOff = ⟨[], false⟩) {r : ρ} {c' : InputClock} {k : κ}
    {p : Pending ρ} (hadv : s.clock.advance (time r) = .ok c') (hkey : a.key r = .ok k)
    (hext : a.extend c' r (s.cache.get? k) = .ok p) {evicted : Option (κ × Pending ρ)}
    {cache : RecencyCache κ (Pending ρ)} (hpush : (s.cache.erase k).push k p = (evicted, cache)) :
    a.step s r = .ok (drain ⟨cache, ⟨evicted.toList.map (·.2), false⟩,
      if (s.cache.get? k).isNone then s.floors.hold c'.floor else s.floors, c'⟩) := by
  have hqueue : evicted.elim s.handOff (fun e => s.handOff.offer a.bufferSize e.2)
      = ⟨evicted.toList.map (·.2), false⟩ := by
    rw [hempty]
    cases evicted <;> simp [HandOff.offer, a.bufferSize_pos]
  simp only [StreamingAggregation.step, GroupBy.enter_of_advance hadv hkey, RecencyCache.compute,
    hext, hpush, hqueue, bind, Except.bind]
  exact if_neg Bool.false_ne_true

omit [DecidableEq κ] in
theorem keeps_start (a : StreamingAggregation κ ρ) : a.Keeps a.start [] [] [] :=
  ⟨rfl, .nil, rfl, .nil, InputClock.reads_start, .start _⟩

/-- **One row** joins what is held of its key. Some groups leave, and the group of the row stays. -/
theorem Keeps.step (h : a.Keeps s read left held) {r : ρ} {out : List (Staged ρ)}
    (hs : a.step s r = .ok (s', out)) :
    ∃ leaving stay f, a.Keeps s' (read ++ [r]) (left ++ leaving.flatMap (·.members)) stay ∧
      stay ≠ [] ∧ Holding a.toGroupBy s'.clock (read ++ [r]) left (leaving ++ stay) ∧
      Floors.Of f (leaving ++ stay) ∧ out = (f.drain (leaving.map (·.group))).2 ∧
      ∃ h', Held.Joined a.toGroupBy s'.clock held r h' ∧
        leaving ++ stay = (held.filter fun x => x.key ≠ h'.key) ++ [h'] := by
  obtain ⟨c', k, p, hadv, hkey, hext⟩ := exists_extend_of_step hs
  obtain ⟨hreads, hbefore⟩ := h.clock.advance hadv
  have hget : s.cache.get? k = Held.lookup held k := by
    rw [RecencyCache.get?, h.cache, Held.lookup]
  obtain ⟨evicted, stay, hentries, hpush⟩ := (s.cache.erase k).push_cases k p
  rw [step_of_extend h.handOff hadv hkey hext hpush, hget] at hs
  rw [hget] at hext
  obtain ⟨h', hentry, hjoined, hholding⟩ := h.holding.absorb h.nodup hreads hbefore hkey hext
  obtain ⟨rfl, rfl⟩ := Prod.mk.inj hentry
  have hfloors := h.floors.absorb h.nodup hext
  have hnodup := nodup_filter_append h.nodup (x := h') rfl
  have hsplit : (held.filter fun x => x.key ≠ h'.key).map Held.entry = evicted.toList ++ stay := by
    rw [← hentries, RecencyCache.erase, h.cache, List.filter_map]
    rfl
  obtain ⟨leaving, stay, hheld, hleaving, rfl⟩ := List.map_eq_append_iff.mp hsplit
  rw [hheld, List.append_assoc] at hholding hfloors hnodup
  have hgroups : evicted.toList.map (·.2) = leaving.map (·.group) := by
    rw [← hleaving, List.map_map]
    rfl
  rw [hgroups] at hs
  obtain ⟨rfl, rfl⟩ := Prod.mk.inj (Except.ok.inj hs)
  refine ⟨leaving, stay ++ [h'], _, ⟨?_, ?_, rfl, ?_, hreads, hholding.emitAll⟩, by simp, hholding,
    hfloors, rfl, h', hjoined, by rw [hheld, List.append_assoc]⟩
  · simp [Held.entry]
  · rw [List.map_append] at hnodup
    exact (List.nodup_append.mp hnodup).2.1
  · exact hfloors.drain

omit [DecidableEq κ] in
/-- **The end of the input.** Every group leaves. -/
theorem Keeps.finish (h : a.Keeps s read left held) {out : List (Staged ρ)}
    (hs : a.finish s = .ok out) : out = (s.floors.drain (held.map (·.group))).2 := by
  unfold StreamingAggregation.finish at hs
  simp only [RecencyCache.evictAll, h.cache, h.handOff] at hs
  split at hs
  · cases hs
  · rename_i hnot
    have hqueue := (HandOff.queue_of_not_overflowed (by simpa using hnot)).2
    obtain rfl := Except.ok.inj hs
    rw [drain]
    simp only [hqueue, List.nil_append, List.map_map]
    rfl

/-- **Nothing gets lost.** What the stage sends for ascending rows is backed by them. -/
theorem Keeps.backed (h : a.Keeps s read left held) (asc : Ascending (read ++ todo)) :
    Backed (fun ms r => ∃ k, a.Makes k ms r) (read ++ todo) left
      (Stage.fold a.step a.finish s (todo.map .ok)) := by
  induction todo generalizing read left held s with
  | nil =>
    rw [List.map_nil, Stage.fold]
    rcases hs : a.finish s with f | out
    · trivial
    · obtain rfl := h.finish hs
      have hholding : Holding a.toGroupBy s.clock read left (held ++ []) := by simpa using h.holding
      have hfloors : s.floors.Of (held ++ []) := by simpa using h.floors
      have hnext : ∀ x ∈ ([] : List ρ), .earliest < time x → s.clock.before < time x := by simp
      simpa using drain_backed hholding hfloors hnext (by simp) Backed.nil
  | cons r todo ih =>
    rw [List.map_cons, Stage.fold]
    rcases hs : a.step s r with f | ⟨s', out⟩
    · trivial
    · obtain ⟨leaving, stay, f, hkeeps, hstay, hholding, hfloors, rfl, -⟩ := h.step hs
      have hxs : read ++ r :: todo = (read ++ [r]) ++ todo := by simp
      rw [hxs] at asc ⊢
      have hcur : time r ∈ s'.clock.current := by simp [hkeeps.clock.current]
      refine drain_backed hholding hfloors (fun x hx hlt => ?_) (fun hnil => absurd hnil hstay)
        (ih hkeeps asc)
      exact hkeeps.clock.before_lt hcur ((List.pairwise_append.mp asc).2.2 r (by simp) x hx) hlt

theorem stage_backed (a : StreamingAggregation κ ρ) {xs : List ρ} (asc : Ascending xs) :
    Backed (fun ms r => ∃ k, a.Makes k ms r) xs [] (a.stage.transform (xs.map .ok)) :=
  a.keeps_start.backed asc

end StreamingAggregation

end Ingest
