import Ingest.Proofs.World.Execution

/-!
# Proofs/World/Calm — scenes without other loaders

In a *calm* scene sources and sinks may fail, but the store answers and no other loader is at work.
Main statement: `Line.execute_spares` — an execution leaves the sinks of other pipelines alone. Main
definition: `Calmly` — what a computation does if its scene is calm.
-/

namespace Ingest

variable {ι σ ρ : Type} [Timed ρ]

/-- The store answers, and no other loader is at work. -/
structure Turn.Calm (turn : Turn ι σ ρ) : Prop where
  strays : turn.strays = []
  refusal : turn.refusal = none

/-- All turns to come are calm. -/
def Scene.Calm (s : Scene ι σ ρ) : Prop := ∀ n, (s.script n).Calm

variable [DecidableEq ι] [DecidableEq σ] {s s' s'' : Scene ι σ ρ} {i : σ}

/-! ## Calls -/

omit [Timed ρ] [DecidableEq ι] [DecidableEq σ] in
theorem Scene.Calm.next (hs : s.Calm) (l : Ledger ι σ ρ) : (s.next l).Calm := fun n => hs (n + 1)

omit [DecidableEq σ] in
theorem Ledger.arrive_logs (l : Ledger ι σ ρ) (a : Arrival ι ρ) : (l.arrive a).logs = l.logs := by
  unfold Ledger.arrive
  dsimp only
  split <;> rfl

/-- Between two calls of a calm scene only rows arrive. -/
theorem Scene.Calm.logs_found (hs : s.Calm) : s.found.logs = s.ledger.logs := by
  have harrive : ∀ (arrivals : List (Arrival ι ρ)) (l : Ledger ι σ ρ),
      (arrivals.foldl Ledger.arrive l).logs = l.logs := by
    intro arrivals
    induction arrivals with
    | nil => exact fun l => rfl
    | cons a arrivals ih => exact fun l => (ih (l.arrive a)).trans (l.arrive_logs a)
  rw [Scene.found, Ledger.wait, Scene.turn, (hs 0).strays]
  exact harrive _ _

/-- **The log of a sink** grows by the batches it took, and no other sink changes. -/
theorem Scene.Calm.performs {name : String} {processable : ρ → Bool}
    {commits : List (Commit ρ × Attempt CommitReply)} (hs : s.Calm)
    (hp : (Scene.sink (ι := ι) name processable i).Performs s commits s') :
    s'.Calm ∧ s.ledger.Grows s'.ledger ∧
      s'.ledger.logs
        = Function.update s.ledger.logs i (s.ledger.logs i ++ committedBatches commits) := by
  induction hp with
  | nil s => exact ⟨hs, .refl _, by simp [committedBatches]⟩
  | @cons s s₁ s₂ c reply rest hcommit hrest ih =>
    obtain ⟨rfl, rfl⟩ := Prod.mk.inj ((Scene.commit_eq name processable i c s).symm.trans hcommit)
    obtain ⟨hcalm, hgrows, hlogs⟩ := ih (hs.next _)
    have hwait := Ledger.Grows.wait s.ledger s.turn
    rw [committedBatches_cons]
    refine ⟨hcalm, ?_, ?_⟩
    · refine (hwait.trans ?_).trans hgrows
      simp only [Scene.next]
      split_ifs
      · exact .commit _ _ _
      · exact .refl _
    · rw [hlogs]
      by_cases htook : took s.turn.reply
      · simp [Scene.next, htook, Ledger.commit, hs.logs_found]
      · simp [Scene.next, htook, hs.logs_found]

/-! ## Sinks that are left alone -/

/-- From `s` to `s'` the ledger only grew, and the sink `i` was left alone. -/
structure Scene.Spares (i : σ) (s s' : Scene ι σ ρ) : Prop where
  calm : s'.Calm
  grows : s.ledger.Grows s'.ledger
  logs : s'.ledger.logs i = s.ledger.logs i

namespace Scene.Spares

omit [DecidableEq ι] [DecidableEq σ] in
theorem refl (hs : s.Calm) (i : σ) : Spares i s s := ⟨hs, .refl _, rfl⟩

omit [DecidableEq ι] [DecidableEq σ] in
theorem trans (h : Spares i s s') (h' : Spares i s' s'') : Spares i s s'' :=
  ⟨h'.calm, h.grows.trans h'.grows, h'.logs.trans h.logs⟩

theorem next (h : Spares i s s') : Spares i s (s'.next s'.found) :=
  ⟨h.calm.next _, h.grows.trans (.wait _ _), (congrFun h.calm.logs_found i).trans h.logs⟩

end Scene.Spares

variable {line : Line ι σ ρ} {outlets : List (Outlet σ ρ)} {e : Execution}

/-- Loaders of other sinks leave a sink alone. -/
theorem Outlet.loadAll_spares (hs : s.Calm) (hother : ∀ o ∈ outlets, o.sink ≠ i) {sent : List ρ}
    {out : Except Panic (List (String × LoadResult × List LoadEvent))}
    (hrun : Pipeline.loadAll e sent (outlets.map (·.branch)) s = (out, s')) : s.Spares i s' := by
  induction outlets generalizing s out with
  | nil =>
    obtain ⟨-, rfl⟩ := Prod.mk.inj hrun
    exact .refl hs i
  | cons o outlets ih =>
    rcases hload : Loading.run (Scene.sink (ι := ι) o.name o.processable o.sink) e
      (o.feed.stage.transform (sent.map .ok)) s with ⟨first, s₁⟩
    obtain ⟨commits, done, rest, hperf, -⟩ :=
      Loading.run_books (Scene.sink (ι := ι) o.name o.processable o.sink) e
        (o.feed.stage.transform (sent.map .ok)) s
    rw [hload] at hperf
    obtain ⟨hcalm, hgrows, hlogs⟩ := hs.performs hperf
    have hfirst : s.Spares i s₁ :=
      ⟨hcalm, hgrows, by rw [hlogs, Function.update_of_ne (hother o List.mem_cons_self).symm]⟩
    rw [List.map_cons, loadAll_cons hload] at hrun
    rcases hresult : first.result with p | r <;> rw [hresult] at hrun
    · obtain ⟨-, rfl⟩ := Prod.mk.inj hrun
      exact hfirst
    rcases hrest : Pipeline.loadAll e sent (outlets.map (·.branch)) s₁ with ⟨others, s₂⟩
    rw [hrest] at hrun
    obtain ⟨-, rfl⟩ := Prod.mk.inj hrun
    exact hfirst.trans (ih hcalm (fun o ho => hother o (List.mem_cons_of_mem _ ho)) hrest)

/-- **One execution** leaves the sinks of other pipelines alone. -/
theorem Line.execute_spares (hs : s.Calm) (hother : ∀ o ∈ line.outlets, o.sink ≠ i)
    {out : Attempt PipelineResult} (hrun : line.pipeline.toJob.execute e s = (out, s')) :
    s.Spares i s' := by
  by_cases hempty : line.pipeline.branches = []
  · rw [execute_of_isEmpty hempty] at hrun
    obtain ⟨-, rfl⟩ := Prod.mk.inj hrun
    exact .refl hs i
  rcases hextract : line.pipeline.extraction.run (pure true) e.group e.window s with ⟨extracted, s₁⟩
  have hread : s.Spares i s₁ := by
    have hkeeps := line.pipeline.extraction.run_keeps (J := s.Spares i) (fun f s₁ h => h.next)
      e.group e.window (.refl hs i)
    rwa [hextract] at hkeeps
  by_cases hpanic : ∃ cause, extracted.result = .error (.panic cause)
  · obtain ⟨cause, hpanic⟩ := hpanic
    rw [execute_of_panic hempty hextract hpanic] at hrun
    obtain ⟨-, rfl⟩ := Prod.mk.inj hrun
    exact hread
  rcases hload : Pipeline.loadAll e extracted.sent line.pipeline.branches s₁ with ⟨loads, s₂⟩
  obtain ⟨fault, -, hexecute⟩ := execute_of_sent hempty hextract (fun c hc => hpanic ⟨c, hc⟩) hload
  rw [hexecute] at hrun
  obtain ⟨-, rfl⟩ := Prod.mk.inj hrun
  exact hread.trans (Outlet.loadAll_spares hread.calm hother hload)

/-! ## Computations in a calm scene -/

section Calmly

variable {P P' : Ledger ι σ ρ → Prop} {α β : Type} {Q Q' : α → Ledger ι σ ρ → Prop}
  {R : β → Ledger ι σ ρ → Prop} {m : StateM (Scene ι σ ρ) α} {f : α → StateM (Scene ι σ ρ) β}

/-- Started in a calm scene where `P` holds, `m` ends in one where `Q` holds. -/
def Calmly (P : Ledger ι σ ρ → Prop) (m : StateM (Scene ι σ ρ) α) (Q : α → Ledger ι σ ρ → Prop) :
    Prop :=
  ∀ s : Scene ι σ ρ, s.Calm → P s.ledger → (m s).2.Calm ∧ Q (m s).1 (m s).2.ledger

namespace Calmly

omit [Timed ρ] [DecidableEq ι] [DecidableEq σ]

theorem pure {a : α} (h : ∀ l, P l → Q a l) : Calmly P (pure a) Q :=
  fun s hs hp => ⟨hs, h s.ledger hp⟩

/-- What is calm in a first program and then in a second one is calm in both. -/
theorem bind (hm : Calmly P m Q) (hf : ∀ a, Calmly (Q a) (f a) R) : Calmly P (m >>= f) R :=
  fun s hs hp => hf (m s).1 (m s).2 (hm s hs hp).1 (hm s hs hp).2

theorem mono (hm : Calmly P m Q) (hP : ∀ l, P' l → P l) (hQ : ∀ a l, Q a l → Q' a l) :
    Calmly P' m Q' :=
  fun s hs hp => ⟨(hm s hs (hP _ hp)).1, hQ _ _ (hm s hs (hP _ hp)).2⟩

theorem assume {p : Prop} (h : p → Calmly P m Q) : Calmly (fun l => p ∧ P l) m Q :=
  fun s hs hp => h hp.1 s hs hp.2

/-- **An access to the store** of a calm scene is not refused. -/
theorem access [Timed ρ] [DecidableEq ι] [DecidableEq σ]
    (act : CheckpointTable → α × CheckpointTable)
    (hP : ∀ l l', l.Grows l' → l'.logs = l.logs → P l → P l')
    (h : ∀ l, P l → Q (act l.stored).1 { l with stored := (act l.stored).2 }) :
    Calmly P (Scene.access act) fun r l => ∃ a, r = .ok a ∧ Q a l := by
  intro s hs hp
  have hfound := h s.found (hP _ _ (.wait s.ledger s.turn) hs.logs_found hp)
  have haccess : Scene.access act s = (.ok (act s.found.stored).1,
      s.next { s.found with stored := (act s.found.stored).2 }) := by
    simp only [Scene.access, Scene.call, Scene.turn, (hs 0).refusal]
  rw [haccess]
  exact ⟨hs.next _, _, rfl, hfound⟩

end Calmly

end Calmly

end Ingest
