import Ingest.Proofs.Failing

/-!
# Proofs/HandOff — the hand-off queue of a bounded stage never overflows

Between two rows the queue is empty and the cache within its bounds (`exists_course`). A row lets at
most one group out of the cache, and the end of the input all of them, which are no more than the
queue has room for (`ready_of_runs`). How much of the output is taken does not matter, as a receiver
that is gone only ends the stage earlier (`Stage.consume_spec`). Main statement: `never_overflows`.
-/

namespace Ingest

variable {κ ρ σ : Type}

/-! ## A receiver that may go away -/

namespace Stage

/-- Runs a stage whose receiver takes `room` rows and is then gone: the rows that were sent, and how
the stage ended. A stage ends well once it finds its receiver gone. -/
def consume (step : σ → ρ → Attempt (σ × List (Staged ρ)))
    (finish : σ → Attempt (List (Staged ρ))) :
    Nat → σ → List (Except Error ρ) → List (Staged ρ) × Attempt Unit
  | room, s, [] =>
    match finish s with
    | .ok out => (out.take room, .ok ())
    | .error f => ([], .error f)
  | _, _, .error e :: _ => ([], .error (.error e))
  | room, s, .ok r :: rest =>
    match step s r with
    | .ok (s', out) =>
      if room < out.length then (out.take room, .ok ())
      else
        let (more, result) := consume step finish (room - out.length) s' rest
        (out ++ more, result)
    | .error f => ([], .error f)

variable {step : σ → ρ → Attempt (σ × List (Staged ρ))} {finish : σ → Attempt (List (Staged ρ))}

/-- What the stream of a stage has after the rows that a receiver took: nothing or another row if
the stage ended well, and the error otherwise. -/
def Remains : Attempt Unit → List (Except Error (Staged ρ)) → Prop
  | .ok (), back => back = [] ∨ ∃ it more, back = .ok it :: more
  | .error f, back => back = [.error f.caught]

theorem remains_drop (out : List (Staged ρ)) (room : Nat) :
    Remains (.ok ()) ((out.drop room).map .ok) := by
  rcases out.drop room with _ | ⟨it, more⟩
  · exact .inl rfl
  · exact .inr ⟨it, more.map .ok, rfl⟩

/-- **A receiver takes a front of the stream**, and a stage that fails does so after all of its
rows. -/
theorem consume_spec (step : σ → ρ → Attempt (σ × List (Staged ρ)))
    (finish : σ → Attempt (List (Staged ρ))) (room : Nat) (s : σ) (items : List (Except Error ρ)) :
    ∃ back, fold step finish s items = (consume step finish room s items).1.map .ok ++ back ∧
      Remains (consume step finish room s items).2 back := by
  induction items generalizing room s with
  | nil =>
    rw [fold, consume]
    rcases finish s with f | out
    · exact ⟨_, rfl, rfl⟩
    · refine ⟨(out.drop room).map .ok, ?_, remains_drop out room⟩
      rw [← List.map_append, List.take_append_drop]
  | cons entry items ih =>
    rcases entry with e | r
    · exact ⟨_, rfl, rfl⟩
    rw [fold, consume]
    rcases step s r with f | ⟨s', out⟩
    · exact ⟨_, rfl, rfl⟩
    obtain ⟨back, hfold, hremains⟩ := ih (room - out.length) s'
    dsimp only
    -- the receiver goes away within the rows of this step, or it takes all of them
    split_ifs with hroom
    · have hne : out.drop room ≠ [] := by simpa using hroom
      obtain ⟨it, more, hdrop⟩ := List.exists_cons_of_ne_nil hne
      refine ⟨(out.drop room).map .ok ++ fold step finish s' items, ?_, .inr ?_⟩
      · rw [← List.append_assoc, ← List.map_append, List.take_append_drop]
      · exact ⟨it, more.map .ok ++ fold step finish s' items, by rw [hdrop]; rfl⟩
    · refine ⟨back, ?_, hremains⟩
      rw [hfold, List.map_append, List.append_assoc]

/-- What a stage fails with is an error of its stream. -/
theorem mem_fold_of_consume {room : Nat} {s : σ} {items : List (Except Error ρ)} {f : Fault}
    (h : (consume step finish room s items).2 = .error f) :
    .error f.caught ∈ fold step finish s items := by
  obtain ⟨back, hfold, hremains⟩ := consume_spec step finish room s items
  rw [h] at hremains
  rw [hfold, (show back = [.error f.caught] from hremains)]
  simp

end Stage

/-! ## Between two rows -/

variable [Timed ρ] [DecidableEq κ]

namespace StreamingAggregation

variable {a : StreamingAggregation κ ρ} {s : State κ ρ} {read : List ρ} {out : List (Staged ρ)}

/-- Between two rows the queue is empty and at most `bufferSize` groups are held. Neither a row nor
the end of the input finds the queue full, so that it holds all groups that were offered to it. -/
structure Ready (a : StreamingAggregation κ ρ) (s : State κ ρ) : Prop where
  queue_eq : s.handOff.queue = []
  resident_le : s.cache.entries.length ≤ a.bufferSize
  put : ∀ r s₁, a.put s r = .ok s₁ →
    s₁.handOff.overflowed = false ∧ s₁.handOff.queue.length ≤ a.bufferSize
  evict : (a.evict s).handOff.overflowed = false ∧
    (a.evict s).handOff.queue = s.cache.entries.map (·.2)

theorem ready_of_runs (hruns : Stage.Runs a.step a.start read out s) : a.Ready s := by
  obtain ⟨sent, held, hcourse, -⟩ := exists_course hruns
  have hempty := hcourse.keeps.handOff
  have hroom : s.handOff.queue.length + s.cache.entries.length ≤ a.bufferSize := by
    simpa [hempty] using hcourse.fits.length_le
  refine ⟨by rw [hempty], hcourse.fits.length_le, fun r s₁ hput => ?_, ?_⟩
  · obtain ⟨hover, hlength⟩ := handOff_of_put hempty hput
    exact ⟨hover, hlength.trans a.bufferSize_pos⟩
  · have hevict : (a.evict s).handOff = ⟨s.cache.entries.map (·.2), false⟩ := by
      rw [StreamingAggregation.evict, RecencyCache.evictAll]
      simp only [HandOff.foldl_offer hroom]
      rw [hempty, List.nil_append]
    rw [hevict]
    exact ⟨rfl, rfl⟩

/-- On its way through the input the stage merges a row with the group that it holds of its key, and
the merge itself fails with the error `e`. -/
inductive MergeFails (a : StreamingAggregation κ ρ) (e : Error) : List (Except Error ρ) → Prop where
  | intro {read : List ρ} {out : List (Staged ρ)} {s : State κ ρ} {r : ρ} {k : κ} {q : Pending ρ}
      (hruns : Stage.Runs a.step a.start read out s) (hkey : a.key r = .ok k)
      (hheld : s.cache.get? k = some q) (hmerge : a.merge q.row r = .error (.error e))
      (rest : List (Except Error ρ)) : a.MergeFails e (read.map .ok ++ .ok r :: rest)

omit [DecidableEq κ] in
/-- A row fails with an overflow only if its merge gives one. -/
theorem merge_of_failsAt {g : GroupBy κ ρ} {held : κ → Option (Pending ρ)} {r : ρ} {n : Nat}
    (h : g.FailsAt read held (.ok r) (.handOffOverflow n)) :
    ∃ k q, g.key r = .ok k ∧ held k = some q ∧
      g.merge q.row r = .error (.error (.handOffOverflow n)) := by
  generalize he : Error.handOffOverflow n = e at h
  cases h with
  | descends | key => cases he
  | @merge _ k q f hr hkey hheld hmerge =>
    rcases f with err | p
    · obtain rfl : Error.handOffOverflow n = err := he
      exact ⟨k, q, hkey, hheld, hmerge⟩
    · cases he

/-- **The stage never finds an overflow itself.** -/
theorem given_handOffOverflow {items : List (Except Error ρ)} {n : Nat}
    (h : .error (.handOffOverflow n) ∈ a.stage.transform items) :
    .error (.handOffOverflow n) ∈ items ∨ a.MergeFails (.handOffOverflow n) items := by
  obtain hinput | ⟨read, out, s, f, hruns, hf, ⟨r, rest, rfl, hstep⟩ | hfinish⟩ :=
    Stage.error_cases h
  · exact .inl hinput
  · have hfails := (a.lawful.step_error_iff hruns r _).mp ⟨f, hstep, hf.symm⟩
    obtain ⟨k, q, hkey, hheld, hmerge⟩ := merge_of_failsAt hfails
    exact .inr (.intro hruns hkey hheld hmerge rest)
  · obtain ⟨last, hlast⟩ := a.lawful.exists_finish hruns
    cases hlast.symm.trans hfinish

/-- **The hand-off queue never overflows.** Before every row it is empty and the cache is within its
bounds; what a row and the end of the input let out of the cache finds room. Wherever the receiver
goes away, the stage ends with an overflow only to pass on one that an entry of its input is or that
a merge it made gave. -/
theorem never_overflows (a : StreamingAggregation κ ρ) :
    (∀ read out s, Stage.Runs a.step a.start read out s → a.Ready s) ∧
      ∀ room items n,
        (Stage.consume a.step a.finish room a.start items).2
          = .error (.error (.handOffOverflow n)) →
        .error (.handOffOverflow n) ∈ items ∨ a.MergeFails (.handOffOverflow n) items :=
  ⟨fun _ _ _ hruns => ready_of_runs hruns,
    fun _ _ _ h => given_handOffOverflow (Stage.mem_fold_of_consume h)⟩

end StreamingAggregation

end Ingest
