import Ingest.Staged
import Mathlib.Data.List.Basic

/-!
# Proofs/Aggregation/Runs — the runs of a stage

A stage takes rows in as long as its steps succeed (`Stage.Runs`), and then its stream ends in one
of four ways (`Stage.Ends`): the input is over and what is left is sent, or sending it fails, or the
input has an error, or a step fails. Main statements: `Stage.fold_cases` — every stream is what a
run sends, and an end; `Stage.error_cases` — where an error of it comes from.
-/

namespace Ingest

/-- The rows of an input, without its errors. -/
def inputRows {ρ : Type} (items : List (Except Error ρ)) : List ρ := items.filterMap Except.toOption

section InputRows

variable {ρ : Type}

@[simp] theorem inputRows_append (a b : List (Except Error ρ)) :
    inputRows (a ++ b) = inputRows a ++ inputRows b := List.filterMap_append

@[simp] theorem inputRows_cons_ok (r : ρ) (rest : List (Except Error ρ)) :
    inputRows (.ok r :: rest) = r :: inputRows rest := rfl

@[simp] theorem inputRows_map_ok (rows : List ρ) : inputRows (rows.map .ok) = rows := by
  rw [inputRows, List.filterMap_map]
  exact List.filterMap_some

theorem mem_inputRows {items : List (Except Error ρ)} {r : ρ} :
    r ∈ inputRows items ↔ .ok r ∈ items := by
  rw [inputRows, List.mem_filterMap]
  constructor
  · rintro ⟨e | r', hmem, heq⟩
    · cases heq
    · obtain rfl : r' = r := Option.some.inj heq
      exact hmem
  · exact fun hmem => ⟨_, hmem, rfl⟩

theorem inputRows_map {ρ' : Type} (f : ρ → ρ') (items : List (Except Error ρ)) :
    inputRows (items.map (Except.map f)) = (inputRows items).map f := by
  rw [inputRows, inputRows, List.filterMap_map, List.map_filterMap]
  exact List.filterMap_congr fun entry _ => by cases entry <;> rfl

end InputRows

/-- An element of two lists in a row stands in the first one or in the second one. -/
theorem append_eq_append_cons {α : Type} {l₁ l₂ front back : List α} {x : α}
    (h : l₁ ++ l₂ = front ++ x :: back) :
    (∃ mid, l₁ = front ++ x :: mid ∧ back = mid ++ l₂) ∨
      ∃ mid, front = l₁ ++ mid ∧ l₂ = mid ++ x :: back := by
  rcases List.append_eq_append_iff.mp h with ⟨mid, hfront, hl₂⟩ | ⟨mid, hl₁, hback⟩
  · exact .inr ⟨mid, hfront, hl₂⟩
  rcases mid with _ | ⟨y, mid⟩
  · exact .inr ⟨[], by simpa using hl₁.symm, by simpa using hback.symm⟩
  · obtain ⟨rfl, rfl⟩ := List.cons.inj hback
    exact .inl ⟨mid, hl₁, rfl⟩

/-- A stream of rows determines them. -/
theorem eq_of_map_ok_eq {α ε : Type} {l l' : List α} (h : l.map (Except.ok (ε := ε)) = l'.map .ok) :
    l = l' :=
  List.map_injective_iff.mpr (fun _ _ => Except.ok.inj) h

/-- A row of a stream of rows. -/
theorem map_ok_eq_append_cons {α ε : Type} {l : List α} {front back : List (Except ε α)} {x : α}
    (h : l.map .ok = front ++ .ok x :: back) :
    ∃ front' back', l = front' ++ x :: back' ∧ front = front'.map .ok ∧ back = back'.map .ok := by
  obtain ⟨front', tail, rfl, rfl, htail⟩ := List.map_eq_append_iff.mp h
  obtain ⟨y, back', rfl, hy, rfl⟩ := List.map_eq_cons_iff.mp htail
  obtain rfl := Except.ok.inj hy
  exact ⟨front', back', rfl, rfl, rfl⟩

namespace Stage

variable {σ ρ : Type} {step : σ → ρ → Attempt (σ × List (Staged ρ))}
  {finish : σ → Attempt (List (Staged ρ))} {s s' s'' : σ} {read : List ρ} {r : ρ}
  {out more : List (Staged ρ)}

/-- The rows `read` bring the stage from the state `s` to another one, and it sends `out`. -/
inductive Runs (step : σ → ρ → Attempt (σ × List (Staged ρ))) (s : σ) :
    List ρ → List (Staged ρ) → σ → Prop where
  | start : Runs step s [] [] s
  | next {read : List ρ} {r : ρ} {out more : List (Staged ρ)} {s' s'' : σ}
      (h : Runs step s read out s') (hstep : step s' r = .ok (s'', more)) :
      Runs step s (read ++ [r]) (out ++ more) s''

/-- How the stream of a stage ends that is in the state `s` and takes in no further row. -/
inductive Ends (step : σ → ρ → Attempt (σ × List (Staged ρ)))
    (finish : σ → Attempt (List (Staged ρ))) (s : σ) :
    List (Except Error ρ) → List (Except Error (Staged ρ)) → Prop where
  | finished {last : List (Staged ρ)} (h : finish s = .ok last) :
      Ends step finish s [] (last.map .ok)
  | unfinished {f : Fault} (h : finish s = .error f) : Ends step finish s [] [.error f.caught]
  | failed (e : Error) (rest : List (Except Error ρ)) :
      Ends step finish s (.error e :: rest) [.error e]
  | stuck {r : ρ} {f : Fault} (h : step s r = .error f) (rest : List (Except Error ρ)) :
      Ends step finish s (.ok r :: rest) [.error f.caught]

theorem Ends.fold_eq {items : List (Except Error ρ)} {tail : List (Except Error (Staged ρ))}
    (h : Ends step finish s items tail) : fold step finish s items = tail := by
  cases h with
  | finished h => rw [fold, h]
  | unfinished h => rw [fold, h]
  | failed e rest => rfl
  | stuck h rest => rw [fold, h]

theorem Ends.finish_of_nil {items : List (Except Error ρ)}
    {tail : List (Except Error (Staged ρ))} (h : Ends step finish s items tail) (hnil : tail = []) :
    finish s = .ok [] := by
  cases h with
  | finished h => rw [h, List.map_eq_nil_iff.mp hnil]
  | unfinished | failed | stuck => cases hnil

/-- What is sent first does not depend on what follows. -/
theorem Runs.fold_append (h : Runs step s read out s') (finish : σ → Attempt (List (Staged ρ)))
    (rest : List (Except Error ρ)) :
    fold step finish s (read.map .ok ++ rest) = out.map .ok ++ fold step finish s' rest := by
  induction h generalizing rest with
  | start => rfl
  | @next read r out more s' s'' _ hstep ih =>
    rw [List.map_append, List.append_assoc, ih, List.map_append, List.append_assoc]
    simp [fold, hstep]

/-- One row more in front. -/
theorem Runs.cons (hstep : step s r = .ok (s', more)) (h : Runs step s' read out s'') :
    Runs step s (r :: read) (more ++ out) s'' := by
  induction h with
  | start => simpa using Runs.start.next hstep
  | next _ hnext ih => simpa using ih.next hnext

/-- **A stream is what a run sends, and an end.** -/
theorem fold_cases (step : σ → ρ → Attempt (σ × List (Staged ρ)))
    (finish : σ → Attempt (List (Staged ρ))) (s : σ) (items : List (Except Error ρ)) :
    ∃ read rest out s' tail, items = read.map .ok ++ rest ∧ Runs step s read out s' ∧
      Ends step finish s' rest tail ∧ fold step finish s items = out.map .ok ++ tail := by
  suffices h : ∃ read rest out s' tail, items = read.map .ok ++ rest ∧ Runs step s read out s' ∧
      Ends step finish s' rest tail by
    obtain ⟨read, rest, out, s', tail, rfl, hruns, hends⟩ := h
    exact ⟨read, rest, out, s', tail, rfl, hruns, hends, by rw [hruns.fold_append, hends.fold_eq]⟩
  induction items generalizing s with
  | nil =>
    rcases hfinish : finish s with f | last
    · exact ⟨[], [], [], s, _, rfl, .start, .unfinished hfinish⟩
    · exact ⟨[], [], [], s, _, rfl, .start, .finished hfinish⟩
  | cons entry items ih =>
    rcases entry with e | r
    · exact ⟨[], _, [], s, _, rfl, .start, .failed e items⟩
    rcases hstep : step s r with f | ⟨s', more⟩
    · exact ⟨[], _, [], s, _, rfl, .start, .stuck hstep items⟩
    obtain ⟨read, rest, out, s'', tail, rfl, hruns, hends⟩ := ih s'
    exact ⟨r :: read, rest, more ++ out, s'', tail, rfl, hruns.cons hstep, hends⟩

/-- **An error of a stream** is one of its input, or a step fails with it, or the end does. -/
theorem error_cases {items : List (Except Error ρ)} {err : Error}
    (h : .error err ∈ fold step finish s items) :
    .error err ∈ items ∨ ∃ read out s' f, Runs step s read out s' ∧ err = f.caught ∧
      ((∃ r rest, items = read.map .ok ++ .ok r :: rest ∧ step s' r = .error f) ∨
        finish s' = .error f) := by
  obtain ⟨read, rest, out, s', tail, rfl, hruns, hends, hfold⟩ := fold_cases step finish s items
  rw [hfold, List.mem_append] at h
  replace h := h.resolve_left (by simp)
  cases hends with
  | finished => simp at h
  | @unfinished f hfinish =>
    exact .inr ⟨read, out, s', f, hruns, by simpa using h, .inr hfinish⟩
  | failed e rest =>
    obtain rfl : err = e := by simpa using h
    exact .inl (by simp)
  | @stuck r f hstep rest =>
    exact .inr ⟨read, out, s', f, hruns, by simpa using h, .inl ⟨r, rest, rfl, hstep⟩⟩

end Stage

end Ingest
