import Ingest.Proofs.Concurrent.Assembly

/-!
# Proofs/Concurrent/Stopping — why an extraction stops early

An extraction stops early when nobody receives any more. With a source that keeps its promise no row
ends a loader, so whoever comes to its end without a failure was told that nothing more comes, and
by then the extraction is at its own end. Main statement: `Orderly.failed_of_stopped`.
-/

namespace Ingest

namespace Assembly

variable {τ σ ρ : Type} [Timed ρ] {a : Assembly τ σ ρ} {e : Execution} {source : τ}
  {sinks : Nat → σ} {s : State τ σ ρ} {k : Nat}

/-- Loaders handle rows of the window, and go well only to the end of the rows. -/
structure Orderly (e : Execution) (s : State τ σ ρ) : Prop where
  handling : ∀ k st r, s.loaders k = .handling st r → time r ≤ e.window.upTo
  wentWell : ∀ k, (s.loaders k).WentWell → ∃ result, s.extraction = .ended result

theorem start_orderly (bufferSize : Nat) (source : τ) (sinks : Nat → σ) :
    Orderly e (start a e bufferSize source sinks) where
  handling _ _ _ h := by cases h
  wentWell _ h := h.elim

/-- A row that a loader finds is one of the window. -/
theorem Sound.found_le (h : Sound a e source sinks s)
    (hsource : Extraction.Promises a.extraction.source) {r : ρ}
    (hread : (s.traffic.hub.read k).1 = .item r) : time r ≤ e.window.upTo := by
  have hmem : r ∈ (a.alone e source).1 := by
    refine List.mem_of_mem_drop (i := (s.traffic.received k).length) ?_
    rw [h.drop_received hread]
    exact List.mem_cons_self
  exact Extraction.readPages_sent_le hsource _ _ _ _ _ r hmem

namespace Orderly

/-- One loader moves on. -/
theorem withLoader (h : Orderly e s) {s' : State τ σ ρ} {phase : Loading.Phase ρ}
    (hloaders : s'.loaders = Function.update s.loaders k phase)
    (hextraction : s'.extraction = s.extraction)
    (hhandling : ∀ st r, phase = .handling st r → time r ≤ e.window.upTo)
    (hwell : phase.WentWell → ∃ result, s.extraction = .ended result) : Orderly e s' where
  handling := by
    rw [hloaders]
    exact (Function.forall_update_iff s.loaders
      fun _ phase => ∀ st r, phase = .handling st r → time r ≤ e.window.upTo).mpr
      ⟨hhandling, fun j _ => h.handling j⟩
  wentWell := by
    rw [hloaders, hextraction]
    exact (Function.forall_update_iff s.loaders
      fun _ phase => phase.WentWell → ∃ result, s.extraction = .ended result).mpr
      ⟨hwell, fun j _ => h.wentWell j⟩

/-- What the extraction does leaves it at its end, if it is there. -/
theorem withExtraction (h : Orderly e s) {s' : State τ σ ρ} (hloaders : s'.loaders = s.loaders)
    (hended : ∀ result, s.extraction = .ended result → ∃ result, s'.extraction = .ended result) :
    Orderly e s' where
  handling := by
    rw [hloaders]
    exact h.handling
  wentWell k hk := by
    rw [hloaders] at hk
    obtain ⟨result, hresult⟩ := h.wentWell k hk
    exact hended result hresult

/-- A loader that finds something handles a row of the window, or was told that nothing more comes
by an extraction that is at its end. -/
theorem look (h : Orderly e s) (hs : Sound a e source sinks s)
    (hsource : Extraction.Promises a.extraction.source) (hreads : (s.loaders k).Reads)
    (hlive : s.traffic.hub.cursor? k ≠ none) : Orderly e { s with
      traffic := s.traffic.step (.look k)
      loaders := Function.update s.loaders k ((s.loaders k).found (s.traffic.hub.read k).1) } := by
  refine h.withLoader rfl rfl ?_ ?_
  · intro st r hfound
    exact hs.found_le hsource (hreads.item_of_handling hfound)
  · intro hwell
    have hended := hs.traffic.received_of_ended hlive (hreads.ended_of_wentWell hwell)
    exact ⟨_, (hs.ended hlive hended.1).1⟩

theorem step (h : Orderly e s) (hs : Sound a e source sinks s)
    (hsource : Extraction.Promises a.extraction.source) (m : Move) :
    Orderly e (Assembly.step a e s m) := by
  have heffect := step_effect a e s m
  generalize Assembly.step a e s m = s' at heffect ⊢
  cases heffect with
  | idle => exact h
  | stop hphase => exact h.withExtraction rfl fun result hended => by simp [hphase] at hended
  | send hphase => exact h.withExtraction rfl fun result hended => by simp [hphase] at hended
  | turn hrest hturn =>
    refine h.withExtraction rfl fun result hended => ⟨result, ?_⟩
    rw [hended] at hturn
    exact (congrArg Prod.fst hturn).symm
  | look hreads hready hlive => exact h.look hs hsource hreads hlive
  | claim => exact h.withExtraction rfl fun result hended => ⟨result, hended⟩
  | receive => exact h.withExtraction rfl fun result hended => ⟨result, hended⟩
  | append => exact h.withExtraction rfl fun result hended => ⟨result, hended⟩
  | announce => exact h.withExtraction rfl fun result hended => ⟨result, hended⟩
  | @work k sink phase world hsink hworks hwork =>
    obtain rfl : ((s.loaders k).work sink e (s.sinks k)).1 = phase := congrArg Prod.fst hwork
    refine h.withLoader rfl rfl ?_ ?_
    · intro st r hhandling
      exact absurd hhandling (Loading.Phase.work_ne_handling _ _ _ _)
    · intro hwell
      exact h.wentWell k (Loading.Phase.wentWell_of_work (h.handling k) hwell)
  | @leave k st ending hphase =>
    refine h.withLoader rfl rfl (fun st' r hhandling => by cases hhandling) fun hwell => ?_
    exact h.wentWell k (by rwa [hphase])

theorem run (h : Orderly e s) (hs : Sound a e source sinks s)
    (hsource : Extraction.Promises a.extraction.source) (moves : List Move) :
    Orderly e (Assembly.run a e s moves) := by
  induction moves generalizing s with
  | nil => exact h
  | cons m moves ih => exact ih (h.step hs hsource m) (hs.step m)

/-- **An extraction stops early** only if all loaders that came to their end failed. -/
theorem failed_of_stopped (h : Orderly e s) {p : Progress} (hp : s.extraction = .stopped p)
    {outcome : Loading.Outcome} (hk : s.loaders k = .done outcome) {result : LoadResult}
    (hresult : outcome.result = .ok result) : result.status = .failed := by
  by_contra hne
  obtain ⟨ending, hended⟩ := h.wentWell k (hk ▸ ⟨result, hresult, hne⟩)
  simp [hp] at hended

end Orderly

end Assembly

end Ingest
