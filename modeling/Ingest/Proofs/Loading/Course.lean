import Ingest.Proofs.Loading
import Ingest.Proofs.Simulation
import Mathlib.Data.List.Induction

/-!
# Proofs/Loading/Course — what a loader read and what it handed over

A sink that writes down each batch with its reply is like the sink without its log, so the log of a
run is what the loader handed over (`Loading.handed`, `performs_handed`). A loader reads entry by
entry while there is no reason to stop (`Reads`). Main statement: `run_cases` — a run reads a front
of its stream and then either commits what is left or stops at the next entry.
-/

namespace Ingest

variable {ω ρ : Type}

/-! ## The log -/

/-- A sink that also writes down each batch it was handed and what it replied. -/
def Sink.logged (sink : Sink ω ρ) : Sink (ω × List (Commit ρ × Attempt CommitReply)) ρ where
  name := sink.name
  processable := sink.processable
  commit c := fun (w, log) =>
    let (reply, w) := sink.commit c w
    (reply, w, log ++ [(c, reply)])
  deleteAll group := fun (w, log) =>
    let (r, w) := sink.deleteAll group w
    (r, w, log)

/-- Apart from its log, a logged sink is like the sink. -/
theorem Sink.logged_like (sink : Sink ω ρ) :
    sink.logged.Like (fun w w' => w.1 = w') id sink where
  name := rfl
  processable _ := rfl
  commit c := by
    rintro w _ rfl
    rw [Commit.map_id]
    exact ⟨rfl, rfl⟩

theorem Sink.log_of_commit {sink : Sink ω ρ} {c : Commit ρ} {reply : Attempt CommitReply}
    {w w' : ω × List (Commit ρ × Attempt CommitReply)}
    (h : sink.logged.commit c w = (reply, w')) : w'.2 = w.2 ++ [(c, reply)] := by
  obtain ⟨rfl, rfl⟩ := Prod.mk.inj h
  rfl

/-- What a logged sink was handed was handed to the sink, and stands in the log. -/
theorem Sink.Performs.logged {sink : Sink ω ρ}
    {w w' : ω × List (Commit ρ × Attempt CommitReply)}
    {commits : List (Commit ρ × Attempt CommitReply)} (h : sink.logged.Performs w commits w') :
    sink.Performs w.1 commits w'.1 ∧ w'.2 = w.2 ++ commits := by
  induction h with
  | nil w => exact ⟨.nil _, (List.append_nil _).symm⟩
  | @cons w w₁ w₂ c reply rest hcommit _ ih =>
    obtain ⟨rfl, rfl⟩ := Prod.mk.inj hcommit
    exact ⟨.cons rfl ih.1, by rw [ih.2, List.append_assoc]; rfl⟩

namespace Loading

variable [Timed ρ] {sink : Sink ω ρ} {e : Execution}
  {items front back : List (Except Error (Staged ρ))}
  {entry : Except Error (Staged ρ)} {s s' : State ρ} {w w₁ w₂ : ω}

/-- The batches that a loader hands to its sink in a run, each with the reply. -/
def handed (sink : Sink ω ρ) (e : Execution) (items : List (Except Error (Staged ρ))) (w : ω) :
    List (Commit ρ × Attempt CommitReply) :=
  (run sink.logged e items (w, [])).2.2

/-- A loader does not notice that its commits are written down. -/
theorem run_logged (sink : Sink ω ρ) (e : Execution) (items : List (Except Error (Staged ρ)))
    (w : ω) : run sink e items w =
      ((run sink.logged e items (w, [])).1, (run sink.logged e items (w, [])).2.1) := by
  obtain ⟨houtcome, hworld⟩ :=
    run_simulates sink.logged_like (fun _ => rfl) e items (w, []) w rfl
  rw [Staged.map_id_stream] at houtcome hworld
  exact Prod.ext houtcome.symm hworld.symm

theorem handed_of_performs {commits : List (Commit ρ × Attempt CommitReply)}
    (h : sink.logged.Performs (w, []) commits (run sink.logged e items (w, [])).2) :
    handed sink e items w = commits := h.logged.2

/-- **The log is the run**: handing its batches over one after the other leaves the world that the
loader leaves. -/
theorem performs_handed (sink : Sink ω ρ) (e : Execution)
    (items : List (Except Error (Staged ρ))) (w : ω) :
    sink.Performs w (handed sink e items w) (run sink e items w).2 := by
  obtain ⟨commits, -, -, hperf, -⟩ := run_books sink.logged e items (w, [])
  rw [handed_of_performs hperf, run_logged]
  exact hperf.logged.1

/-! ## Reading -/

/-- A loader reads `front` and has no reason to stop; this is the state it is in then. -/
inductive Reads (sink : Sink ω ρ) (e : Execution) (w : ω) :
    List (Except Error (Staged ρ)) → State ρ → ω → Prop where
  | start : Reads sink e w [] { total := .started e.window.since } w
  | next {front : List (Except Error (Staged ρ))} {entry : Except Error (Staged ρ)}
      {s s' : State ρ} {w₁ w₂ : ω} (h : Reads sink e w front s w₁)
      (hstep : step sink e s entry w₁ = ((s', none), w₂)) :
      Reads sink e w (front ++ [entry]) s' w₂

/-- What is read further depends on the state alone. -/
theorem Reads.consume (h : Reads sink e w front s w₁) (rest : List (Except Error (Staged ρ))) :
    consume sink e (front ++ rest) { total := .started e.window.since } w
      = Loading.consume sink e rest s w₁ := by
  induction h generalizing rest with
  | start => rfl
  | next h hstep ih => rw [List.append_assoc, ih, List.singleton_append, consume_cons_of_none hstep]

/-- What was read was read entry by entry. -/
theorem Reads.of_append (h : Reads sink e w (front ++ back) s w₁) :
    ∃ s₀ w₀, Reads sink e w front s₀ w₀ := by
  induction back using List.reverseRecOn generalizing s w₁ with
  | nil => exact ⟨s, w₁, by simpa using h⟩
  | append_singleton back entry ih =>
    rw [← List.append_assoc] at h
    generalize hread : front ++ back ++ [entry] = read at h
    cases h with
    | start => simp at hread
    | next h _ =>
      obtain ⟨rfl, -⟩ := List.append_inj' hread rfl
      exact ih h

/-- Loaders on like sinks read alike. -/
theorem Reads.map {ω' : Type} {R : ω → ω' → Prop} {sink' : Sink ω' ρ} (hlike : sink.Like R id sink')
    (h : Reads sink e w front s w₁) {w' : ω'} (hw : R w w') :
    ∃ w₁', Reads sink' e w' front s w₁' ∧ R w₁ w₁' := by
  induction h with
  | start => exact ⟨w', .start, hw⟩
  | @next front entry s s' w₁ w₂ _ hstep ih =>
    obtain ⟨w₁', hreads, hw₁⟩ := ih
    obtain ⟨hout, hworld⟩ := step_simulates hlike (fun _ => rfl) e s entry w₁ w₁' hw₁
    rw [hstep, State.map_id, Staged.map_id_entry] at hout hworld
    exact ⟨_, .next hreads (Prod.ext (hout.symm.trans (by simp)) rfl), hworld⟩

/-- The loader wants nothing of this stream: it is empty or starts with a row after the window. -/
def Past (e : Execution) (s : State ρ) : List (Except Error (Staged ρ)) → Prop
  | [] => True
  | .error _ :: _ => False
  | .ok item :: _ => s.descent? (time item.row) = none ∧ e.window.since < time item.row ∧
      e.window.upTo < time item.row

/-- A loader that is content with an entry has not touched anything. -/
theorem step_finished (h : step sink e s entry w = ((s', some .finished), w₁)) :
    s' = s ∧ w₁ = w ∧ ∀ rest, Past e s (entry :: rest) := by
  cases step_spec_of_eq h with
  | late hd hs hu => exact ⟨rfl, rfl, fun _ => ⟨hd, not_le.mp hs, hu⟩⟩
  | loses hd hs hu hl hlater hfull hflush => exact absurd rfl (flush_of_some hflush).2.2

/-- A loader goes on after a row that neither descends nor ends the window. -/
theorem step_none (h : step sink e s entry w = ((s', none), w₁)) :
    ∃ item, entry = .ok item ∧ s'.last = some (time item.row) ∧
      (time item.row ≤ e.window.since ∨ time item.row ≤ e.window.upTo) := by
  cases step_spec_of_eq h with
  | early hd hs => exact ⟨_, rfl, rfl, .inl hs⟩
  | gathers hd hs hu => exact ⟨_, rfl, State.accept_last s _, .inr (not_lt.mp hu)⟩
  | closes hd hs hu => exact ⟨_, rfl, State.accept_last _ _, .inr (not_lt.mp hu)⟩

/-- Only rows are read over, and none of them is after the window. -/
theorem Reads.within (h : Reads sink e w front s w₁) :
    ∃ rows : List (Staged ρ), front = rows.map .ok ∧
      ∀ it ∈ rows, time it.row ≤ e.window.since ∨ time it.row ≤ e.window.upTo := by
  induction h with
  | start => exact ⟨[], rfl, by simp⟩
  | next _ hstep ih =>
    obtain ⟨rows, rfl, hrows⟩ := ih
    obtain ⟨item, rfl, -, hitem⟩ := step_none hstep
    refine ⟨rows ++ [item], by simp, fun it hit => ?_⟩
    rcases List.mem_append.mp hit with hit | hit
    · exact hrows it hit
    · exact List.mem_singleton.mp hit ▸ hitem

/-! ## The end of a run -/

/-- How reading on from a state ends: with nothing left to want, or at an entry. -/
theorem Reads.consume_cases (h : Reads sink e w front s w₁)
    (todo : List (Except Error (Staged ρ))) :
    ∃ done rest s₁ w₂, todo = done ++ rest ∧ Reads sink e w (front ++ done) s₁ w₂ ∧
      (Past e s₁ rest ∧ Loading.consume sink e todo s w₁ = ((s₁, .finished), w₂) ∨
        ∃ entry back s₂ ending w₃, rest = entry :: back ∧
          step sink e s₁ entry w₂ = ((s₂, some ending), w₃) ∧ ending ≠ .finished ∧
          Loading.consume sink e todo s w₁ = ((s₂, ending), w₃)) := by
  induction todo generalizing front s w₁ with
  | nil => exact ⟨[], [], s, w₁, rfl, by rwa [List.append_nil], .inl ⟨trivial, rfl⟩⟩
  | cons entry todo ih =>
    rcases hstep : step sink e s entry w₁ with ⟨⟨s₁, _ | ending⟩, w₂⟩
    · obtain ⟨done, rest, s₂, w₃, hsplit, hreads, hend⟩ := ih (.next h hstep)
      rw [consume_cons_of_none hstep]
      exact ⟨entry :: done, rest, s₂, w₃, by rw [hsplit]; rfl, by simpa using hreads, hend⟩
    refine ⟨[], entry :: todo, s, w₁, rfl, by rwa [List.append_nil], ?_⟩
    rw [consume_cons_of_some hstep]
    by_cases hfinished : ending = .finished
    · subst hfinished
      obtain ⟨rfl, rfl, hpast⟩ := step_finished hstep
      exact .inl ⟨hpast todo, rfl⟩
    · exact .inr ⟨entry, todo, s₁, ending, w₂, rfl, hstep, hfinished, rfl⟩

/-- **A whole run** reads a front of its stream. Either the loader then wants nothing more and
commits what is left, or it stops at the entry that follows. -/
theorem run_cases (sink : Sink ω ρ) (e : Execution) (items : List (Except Error (Staged ρ)))
    (w : ω) :
    ∃ front rest s w₁, items = front ++ rest ∧ Reads sink e w front s w₁ ∧
      (Past e s rest ∧ run sink e items w =
          (conclude (finish sink e s w₁).1.1 (finish sink e s w₁).1.2, (finish sink e s w₁).2) ∨
        ∃ entry back s₁ ending w₂, rest = entry :: back ∧
          step sink e s entry w₁ = ((s₁, some ending), w₂) ∧ ending ≠ .finished ∧
          run sink e items w = (conclude s₁ ending, w₂)) := by
  obtain ⟨front, rest, s, w₁, hsplit, hreads, hend⟩ :=
    (Reads.start : Reads sink e w [] _ w).consume_cases items
  refine ⟨front, rest, s, w₁, hsplit, hreads, ?_⟩
  rcases hend with ⟨hpast, hconsume⟩ | ⟨entry, back, s₁, ending, w₂, hrest, hstep, hne, hconsume⟩
  · exact .inl ⟨hpast, run_of_finished hconsume rfl⟩
  · exact .inr ⟨entry, back, s₁, ending, w₂, hrest, hstep, hne, run_of_stopped hconsume hne⟩

/-- An error that a loader reaches is what it fails with. -/
theorem Reads.run_of_error (h : Reads sink e w front s w₁) (err : Error)
    (rest : List (Except Error (Staged ρ))) :
    run sink e (front ++ .error err :: rest) w = (conclude s (.failed err.message), w₁) :=
  run_of_stopped ((h.consume _).trans (consume_cons_of_some rfl)) (by simp)

end Loading

end Ingest
