import Ingest.Loading
import Mathlib.Data.List.Basic

/-!
# Proofs/Simulation — loaders that cannot tell two worlds apart

A loader touches the world through its sink, and of a row it sees the timestamp and what the sink
says to it. If two sinks answer alike in worlds that are paired by a relation, and leave such worlds
behind, then so do the loaders on them (`Loading.run_simulates`). A sink in a region of a larger
world and a sink that keeps a log are like the sink itself in this way.
-/

namespace Ingest

variable {ω ω' ρ ρ' : Type}

/-! ## Programs -/

/-- In worlds that `R` pairs the programs answer alike, seen through `f`, and they leave such worlds
behind. -/
def Simulates {α α' : Type} (R : ω → ω' → Prop) (f : α → α') (m : StateM ω α)
    (m' : StateM ω' α') : Prop :=
  ∀ w w', R w w' → f (m w).1 = (m' w').1 ∧ R (m w).2 (m' w').2

namespace Simulates

variable {R : ω → ω' → Prop} {α α' β β' : Type} {f : α → α'} {g : β → β'}

theorem pure (f : α → α') (x : α) : Simulates R f (Pure.pure x) (Pure.pure (f x)) :=
  fun _ _ h => ⟨rfl, h⟩

/-- Two programs in a row are simulated one after the other. -/
theorem bind {m : StateM ω α} {m' : StateM ω' α'} {k : α → StateM ω β} {k' : α' → StateM ω' β'}
    (hm : Simulates R f m m') (hk : ∀ x, Simulates R g (k x) (k' (f x))) :
    Simulates R g (m >>= k) (m' >>= k') := by
  intro w w' hw
  obtain ⟨hx, hw⟩ := hm w w' hw
  change g (k (m w).1 (m w).2).1 = (k' (m' w').1 (m' w').2).1 ∧
    R (k (m w).1 (m w).2).2 (k' (m' w').1 (m' w').2).2
  rw [← hx]
  exact hk _ _ _ hw

end Simulates

/-! ## Sinks -/

/-- The batch with other rows. -/
def Commit.map (f : ρ → ρ') (c : Commit ρ) : Commit ρ' := ⟨c.group, c.batch, c.rows.map f⟩

/-- The staged row with another row. -/
def Staged.map (f : ρ → ρ') (it : Staged ρ) : Staged ρ' := ⟨f it.row, it.settled⟩

@[simp] theorem Commit.map_id (c : Commit ρ) : c.map id = c := by simp [Commit.map]

@[simp] theorem Staged.map_id_entry (entry : Except Error (Staged ρ)) :
    entry.map (Staged.map id) = entry := by cases entry <;> rfl

@[simp] theorem Staged.map_id_stream (items : List (Except Error (Staged ρ))) :
    items.map (Except.map (Staged.map id)) = items :=
  List.map_id'' Staged.map_id_entry items

/-- In worlds that `R` pairs the sinks want the same rows, seen through `f`, and answer alike. -/
structure Sink.Like (R : ω → ω' → Prop) (f : ρ → ρ') (sink : Sink ω ρ) (sink' : Sink ω' ρ') :
    Prop where
  name : sink.name = sink'.name
  processable : ∀ r, sink.processable r = sink'.processable (f r)
  commit : ∀ c : Commit ρ, Simulates R id (sink.commit c) (sink'.commit (c.map f))

namespace Loading

/-- The state with other rows in the buffer. -/
def State.map (f : ρ → ρ') (s : State ρ) : State ρ' where
  total := s.total
  buffer := s.buffer.map f
  last := s.last
  settled := s.settled
  batches := s.batches
  events := s.events

@[simp] theorem State.map_id (s : State ρ) : s.map id = s := by simp [State.map]

variable {R : ω → ω' → Prop} {f : ρ → ρ'} {sink : Sink ω ρ} {sink' : Sink ω' ρ'}

/-- A flush does the same with the rows in another form. -/
theorem flush_simulates (h : sink.Like R f sink') (group : String) (upTo : Instant) (s : State ρ) :
    Simulates R (Prod.map (State.map f) id) (flush sink group upTo s)
      (flush sink' group upTo (s.map f)) := by
  have hsize : (s.map f).buffer.length = s.buffer.length := List.length_map _
  have hbatches : (s.map f).batches = s.batches := rfl
  have htotal : (s.map f).total = s.total := rfl
  unfold flush
  rw [hsize, hbatches, htotal, ← h.name]
  split_ifs
  · exact .pure _ _
  refine (h.commit ⟨group, s.batches + 1, s.buffer⟩).bind fun reply => ?_
  rcases reply with (e | p) | (⟨rows, d⟩ | reason)
  · exact .pure _ _
  · exact .pure _ _
  · dsimp only [id]
    rcases s.total.add? (.committed rows upTo d) with p | total <;> exact .pure _ _
  · exact .pure _ _

/-- A batch is closed in the same way with the rows in another form. -/
theorem closeBatch_simulates (h : sink.Like R f sink') (e : Execution) (t : Instant)
    (s : State ρ) : Simulates R (Prod.map (State.map f) id) (closeBatch sink e t s)
      (closeBatch sink' e t (s.map f)) := by
  have hsize : (s.map f).buffer.length = s.buffer.length := List.length_map _
  have hlast : (s.map f).last = s.last := rfl
  unfold closeBatch
  rw [hsize, hlast]
  rcases s.last with _ | last
  · exact .pure _ _
  · dsimp only
    split_ifs
    · exact flush_simulates h e.group _ s
    · exact .pure _ _

/-- The end of a stream is the same with the rows in another form. -/
theorem finish_simulates (h : sink.Like R f sink') (e : Execution) (s : State ρ) :
    Simulates R (Prod.map (State.map f) id) (finish sink e s) (finish sink' e (s.map f)) := by
  have hempty : (s.map f).buffer.isEmpty = s.buffer.isEmpty := List.isEmpty_map
  have hlast : (s.map f).last = s.last := rfl
  unfold finish
  rw [hlast, hempty]
  rcases s.last with _ | last
  · exact .pure _ _
  dsimp only
  split_ifs
  · exact .pure _ _
  · exact (flush_simulates h e.group _ s).bind fun _ => .pure _ _

variable [Timed ρ] [Timed ρ']

/-- A step does the same with the rows in another form. -/
theorem step_simulates (h : sink.Like R f sink') (hf : ∀ r, time (f r) = time r) (e : Execution)
    (s : State ρ) (item : Except Error (Staged ρ)) :
    Simulates R (Prod.map (State.map f) id) (step sink e s item)
      (step sink' e (s.map f) (item.map (Staged.map f))) := by
  rcases item with err | item
  · exact .pure _ _
  have hdescent : ∀ t, (s.map f).descent? t = s.descent? t := fun _ => rfl
  have htime : time (item.map f).row = time item.row := hf item.row
  simp only [step, Except.map, hdescent, htime]
  rcases s.descent? (time item.row) with _ | last
  swap
  · exact .pure _ _
  have hpass : ∀ s : State ρ, (s.map f).pass (item.map f) = (s.pass item).map f := fun s => by
    simp only [State.pass, State.map, htime]
    rfl
  have hkeep : ∀ s : State ρ, (s.map f).keep (item.map f) = (s.keep item).map f := fun s => by
    rw [State.keep, State.keep, hpass]
    simp only [State.map, List.map_append]
    rfl
  dsimp only
  by_cases hs : time item.row ≤ e.window.since
  · simp only [if_pos hs, hpass]
    exact .pure _ _
  by_cases hu : e.window.upTo < time item.row
  · simp only [if_neg hs, if_pos hu]
    exact .pure _ _
  simp only [if_neg hs, if_neg hu]
  refine (closeBatch_simulates h e _ s).bind ?_
  rintro ⟨s', _ | ending⟩
  · simp only [Prod.map, id, hpass, hkeep, ← apply_ite (State.map f),
      show sink'.processable (item.map f).row = sink.processable item.row from
        (h.processable item.row).symm]
    exact .pure (Prod.map (State.map f) id) _
  · exact .pure _ _

/-- A stream is read in the same way with the rows in another form. -/
theorem consume_simulates (h : sink.Like R f sink') (hf : ∀ r, time (f r) = time r) (e : Execution)
    (items : List (Except Error (Staged ρ))) (s : State ρ) :
    Simulates R (Prod.map (State.map f) id) (consume sink e items s)
      (consume sink' e (items.map (Except.map (Staged.map f))) (s.map f)) := by
  induction items generalizing s with
  | nil => exact .pure _ _
  | cons item items ih =>
    refine (step_simulates h hf e s item).bind ?_
    rintro ⟨s', _ | ending⟩
    · exact ih s'
    · exact .pure _ _

/-- **Loaders on like sinks** have the same outcome. -/
theorem run_simulates (h : sink.Like R f sink') (hf : ∀ r, time (f r) = time r) (e : Execution)
    (items : List (Except Error (Staged ρ))) :
    Simulates R id (run sink e items) (run sink' e (items.map (Except.map (Staged.map f)))) := by
  refine (consume_simulates h hf e items _).bind ?_
  rintro ⟨s, ending⟩
  cases ending with
  | finished =>
    refine (finish_simulates h e s).bind ?_
    rintro ⟨s', ending⟩
    cases ending <;> exact .pure _ _
  | failed m => exact .pure _ _
  | panicked p => exact .pure _ _

end Loading

end Ingest
