import Ingest.Proofs.Aggregation.Traced
import Ingest.Proofs.Loading
import Ingest.Proofs.Simulation

/-!
# Proofs/Recording — a sink that writes down what it took

A loader on traced rows hands its batches to any sink of plain rows, and a log keeps the traced rows
of the batches that were taken (`Sink.Performs.recorded`). Main statement: `Loading.run_recording` —
the loader does not notice.
-/

namespace Ingest

variable {ω ρ : Type}

/-- Forgets what the rows of a batch were made of. -/
def Commit.erase (c : Commit (Traced ρ)) : Commit ρ := ⟨c.group, c.batch, c.rows.map (·.row)⟩

/-- A sink that also writes down the rows it took. -/
def Sink.recording (sink : Sink ω ρ) : Sink (ω × List (Traced ρ)) (Traced ρ) where
  name := sink.name
  processable r := sink.processable r.row
  commit c := fun (w, log) =>
    let (reply, w) := sink.commit c.erase w
    (reply, w, if took reply then log ++ c.rows else log)
  deleteAll group := fun (w, log) =>
    let (r, w) := sink.deleteAll group w
    (r, w, log)

/-- **The log** is what was committed. -/
theorem Sink.Performs.recorded {sink : Sink ω ρ} {w w' : ω × List (Traced ρ)}
    {commits : List (Commit (Traced ρ) × Attempt CommitReply)}
    (h : sink.recording.Performs w commits w') :
    w'.2 = w.2 ++ (committedBatches commits).flatten := by
  induction h with
  | nil w => simp [committedBatches]
  | @cons w w₁ w₂ c reply rest hcommit hrest ih =>
    obtain ⟨rfl, rfl⟩ := Prod.mk.inj hcommit
    rw [ih, committedBatches_cons]
    by_cases htook : took (sink.commit c.erase w.1).1
    · simp [htook]
    · simp [htook]

/-! ## The loader -/

/-- Apart from its log, a recording sink is like the sink. -/
theorem Sink.recording_like (sink : Sink ω ρ) :
    sink.recording.Like (fun w w' => w.1 = w') Traced.row sink where
  name := rfl
  processable _ := rfl
  commit c := by
    rintro w _ rfl
    exact ⟨rfl, rfl⟩

/-- **A loader does not notice** the log, nor what its rows were made of. -/
theorem Loading.run_recording [Timed ρ] (sink : Sink ω ρ) (e : Execution)
    (items : List (Except Error (Staged (Traced ρ)))) (w : ω) (log : List (Traced ρ)) :
    run sink e (items.map (Except.map Staged.erase)) w
      = ((run sink.recording e items (w, log)).1, (run sink.recording e items (w, log)).2.1) := by
  obtain ⟨houtcome, hworld⟩ :=
    run_simulates sink.recording_like (fun _ => rfl) e items (w, log) w rfl
  exact Prod.ext houtcome.symm hworld.symm

end Ingest
