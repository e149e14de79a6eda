import Ingest.Proofs.Pagination
import Ingest.Proofs.Simulation

/-!
# Proofs/Regions — programs that work on a part of a world

Sources and sinks that keep to themselves can be put together into a larger world, in which each has
a region of its own. A program that uses one of them does to the region what it does alone, and
nothing else. Main statements: `Loading.run_within` and `Extraction.run_within`.
-/

namespace Ingest

/-- A part of a world that can be read and replaced by itself. -/
structure Region (ω σ : Type) where
  /-- What is in the region. -/
  get : ω → σ
  /-- The world with something else in the region. -/
  set : σ → ω → ω
  get_set : ∀ v w, get (set v w) = v
  set_set : ∀ v v' w, set v' (set v w) = set v' w
  set_get : ∀ w, set (get w) w = w

namespace Region

variable {ω σ ρ α β : Type} (g : Region ω σ)

/-- What a program does when its world is a region of a larger one. -/
def lift (m : StateM σ α) : StateM ω α := fun w => ((m (g.get w)).1, g.set (m (g.get w)).2 w)

theorem lift_pure (x : α) : g.lift (pure x) = pure x := by
  funext w
  exact Prod.ext rfl (g.set_get w)

theorem lift_bind (m : StateM σ α) (k : α → StateM σ β) :
    g.lift (m >>= k) = g.lift m >>= fun x => g.lift (k x) := by
  funext w
  change ((k (m (g.get w)).1 (m (g.get w)).2).1, g.set (k (m (g.get w)).1 (m (g.get w)).2).2 w)
    = g.lift (k (m (g.get w)).1) (g.set (m (g.get w)).2 w)
  simp only [lift, g.get_set, g.set_set]

end Region

variable {ω σ ρ : Type} (g : Region ω σ)

/-- A sink in a region of a larger world. -/
def Sink.within (sink : Sink σ ρ) : Sink ω ρ where
  name := sink.name
  processable := sink.processable
  commit c := g.lift (sink.commit c)
  deleteAll group := g.lift (sink.deleteAll group)

/-- A source in a region of a larger world. -/
def PageSource.within (source : PageSource σ ρ) : PageSource ω ρ where
  name := source.name
  fetch f := g.lift (source.fetch f)

/-- The extraction from a source in a region of a larger world. -/
def Extraction.within (x : Extraction σ ρ) : Extraction ω ρ where
  source := x.source.within g
  pageSize := x.pageSize

/-! ## Loaders -/

/-- A sink in a region is like the sink when it is alone, in the world around it. -/
theorem Sink.like_within (sink : Sink σ ρ) (w : ω) :
    sink.Like (fun v w' => w' = g.set v w) id (sink.within g) where
  name := rfl
  processable _ := rfl
  commit c := by
    rintro v w' rfl
    rw [Commit.map_id]
    change (sink.commit c v).1 = (sink.commit c (g.get (g.set v w))).1 ∧
      g.set (sink.commit c (g.get (g.set v w))).2 (g.set v w) = g.set (sink.commit c v).2 w
    rw [g.get_set, g.set_set]
    exact ⟨rfl, rfl⟩

/-- **A loader** whose sink is in a region does there what it does when it is alone. -/
theorem Loading.run_within [Timed ρ] (sink : Sink σ ρ) (e : Execution)
    (items : List (Except Error (Staged ρ))) :
    run (sink.within g) e items = g.lift (run sink e items) := by
  funext w
  obtain ⟨houtcome, hworld⟩ :=
    run_simulates (sink.like_within g w) (fun _ => rfl) e items (g.get w) w (g.set_get w).symm
  rw [Staged.map_id_stream] at houtcome hworld
  exact Prod.ext houtcome.symm hworld

/-! ## Extractions -/

namespace Extraction

variable [Timed ρ] (x : Extraction σ ρ) (group : String) (window : Window)

omit [Timed ρ] in
theorem send_pure_true (rows : List ρ) :
    send (pure true : StateM ω Bool) rows = pure (rows, true) := by
  funext w
  exact send_open rows w

theorem readPages_within (budget : Nat) (p : Progress) :
    (x.within g).readPages (pure true) group window budget p
      = g.lift (x.readPages (pure true) group window budget p) := by
  induction budget generalizing p with
  | zero =>
    unfold readPages
    dsimp only
    split_ifs <;> exact (g.lift_pure _).symm
  | succ budget ih =>
    unfold readPages
    dsimp only
    split_ifs
    · exact (g.lift_pure _).symm
    rw [g.lift_bind]
    refine congrArg (g.lift (x.source.fetch _) >>= ·) ?_
    funext answer
    rcases answer with fault | rows
    · exact (g.lift_pure _).symm
    have hlimit : (x.within g).limit = x.limit := rfl
    dsimp only
    rw [hlimit]
    rcases safeRows x.limit (p.pages + 1) p.lastAt rows with err | safe
    · exact (g.lift_pure _).symm
    simp only [send_pure_true, pure_bind, Bool.not_true, Bool.false_eq_true, if_false]
    split_ifs
    · exact (g.lift_pure _).symm
    · rw [g.lift_bind, ih]
      refine congrArg (g.lift (x.readPages (pure true) group window budget _) >>= ·) ?_
      funext rest
      exact (g.lift_pure _).symm

/-- **An extraction** whose source is in a region does there what it does when it is alone. -/
theorem run_within :
    (x.within g).run (pure true) group window = g.lift (x.run (pure true) group window) := by
  unfold run
  rw [g.lift_bind, readPages_within]
  refine congrArg (g.lift (x.readPages (pure true) group window maxPages {}) >>= ·) ?_
  funext ⟨result, sent, events⟩
  rcases result with (err | p) | p <;> exact (g.lift_pure _).symm

end Extraction

end Ingest
