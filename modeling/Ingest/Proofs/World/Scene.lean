import Ingest.CheckpointStore
import Ingest.Extraction
import Ingest.Proofs.Loading
import Mathlib.Logic.Function.Basic

/-!
# Proofs/World/Scene — tables that grow, sinks that fail, a store of checkpoints

A `Ledger` is what is there: the tables, what the sinks hold and the checkpoints. A `Scene` is a
ledger with a script of everything that is not up to the program: the rows that arrive, the clock,
and which calls fail in which way. Every call takes one turn of the script. The scene remembers the
ledger after each call, so what holds of all of them also holds of a run that is abandoned halfway.
Main definition: `Along` — a computation keeps an invariant at every call.
-/

namespace Ingest

/-! ## Checkpoints in a table -/

namespace CheckpointTable

/-- What is found after a checkpoint was put. -/
theorem get?_put (t : CheckpointTable) (c : Checkpoint) (group name : String) :
    (t.put c).get? group name =
      if group = c.group ∧ name = c.pipeline then some c else t.get? group name := by
  unfold CheckpointTable.get? CheckpointTable.put
  simp only [OrderedMap.get?_insert, Prod.mk.injEq]

/-- What is found after a checkpoint was deleted. -/
theorem get?_delete (t : CheckpointTable) (g n group name : String) :
    (t.delete g n).get? group name =
      if group = g ∧ name = n then none else t.get? group name := by
  unfold CheckpointTable.get? CheckpointTable.delete
  simp only [OrderedMap.get?_erase, Prod.mk.injEq]

end CheckpointTable

/-! ## Ledgers -/

/-- What sources, sinks and the store of checkpoints hold. -/
structure Ledger (ι σ ρ : Type) where
  /-- The rows of each source. -/
  tables : ι → List ρ
  /-- The batches committed to each sink that are still there. -/
  logs : σ → List (List ρ)
  /-- The checkpoints. -/
  stored : CheckpointTable
  /-- The last instant of the window of each run that was started. -/
  started : List Instant

/-- A row that is about to join a table. -/
structure Arrival (ι ρ : Type) where
  /-- The source it joins. -/
  source : ι
  /-- The row. -/
  row : ρ
  /-- The number of rows that stand before it. -/
  position : Nat

/-- What happens until the next call, and how that call is answered. -/
structure Turn (ι σ ρ : Type) where
  /-- The rows that arrive. -/
  arrivals : List (Arrival ι ρ) := []
  /-- The batches that other loaders commit, those still at work from before among them. -/
  strays : List (σ × List ρ) := []
  /-- What a clock shows. -/
  now : Instant := .epoch
  /-- Why a source does not answer. -/
  fault : Option Fault := none
  /-- What a sink says to a batch. -/
  reply : Attempt CommitReply := .ok (.committed 0 0)
  /-- Why the store, or a sink that is to be emptied, refuses. -/
  refusal : Option Error := none
  /-- What is left in a sink that could not be emptied. -/
  spared : List (List ρ) := []

variable {ι σ ρ : Type}

namespace Ledger

variable [DecidableEq ι] [DecidableEq σ] [Timed ρ]

/-- A row joins its table. It keeps the order, and it is later than the window of every run so far;
a row that would not be does not arrive. -/
def arrive (l : Ledger ι σ ρ) (a : Arrival ι ρ) : Ledger ι σ ρ :=
  let rows := (l.tables a.source).insertIdx a.position a.row
  if Ascending rows ∧ ∀ t ∈ l.started, t < time a.row then
    { l with tables := Function.update l.tables a.source rows }
  else l

omit [DecidableEq ι] [Timed ρ] in
/-- A sink takes a batch. -/
def commit (l : Ledger ι σ ρ) (sink : σ) (batch : List ρ) : Ledger ι σ ρ :=
  { l with logs := Function.update l.logs sink (l.logs sink ++ [batch]) }

/-- What happens until the next call. -/
def wait (l : Ledger ι σ ρ) (turn : Turn ι σ ρ) : Ledger ι σ ρ :=
  turn.strays.foldl (fun l e => l.commit e.1 e.2) (turn.arrivals.foldl arrive l)

end Ledger

/-! ## Scenes -/

/-- A ledger, what is going to happen to it, and what it was. -/
structure Scene (ι σ ρ : Type) where
  /-- The ledger now. -/
  ledger : Ledger ι σ ρ
  /-- The turns to come. -/
  script : Nat → Turn ι σ ρ
  /-- The ledger after each call so far, the last one first. -/
  past : List (Ledger ι σ ρ) := []

namespace Scene

variable [DecidableEq ι] [DecidableEq σ] [Timed ρ]

omit [DecidableEq ι] [DecidableEq σ] [Timed ρ] in
/-- The next turn. -/
def turn (s : Scene ι σ ρ) : Turn ι σ ρ := s.script 0

/-- The ledger that the next call finds. -/
def found (s : Scene ι σ ρ) : Ledger ι σ ρ := s.ledger.wait s.turn

omit [DecidableEq ι] [DecidableEq σ] [Timed ρ] in
/-- The scene after a call that leaves the ledger `l`. -/
def next (s : Scene ι σ ρ) (l : Ledger ι σ ρ) : Scene ι σ ρ :=
  ⟨l, fun n => s.script (n + 1), l :: s.past⟩

/-- A call: the next turn is taken, and `act` says what comes of it. -/
def call {α : Type} (act : Turn ι σ ρ → Ledger ι σ ρ → α × Ledger ι σ ρ) :
    StateM (Scene ι σ ρ) α := fun s =>
  ((act s.turn s.found).1, s.next (act s.turn s.found).2)

/-- A source that answers from its table, if it answers. -/
def source (name : String) (i : ι) : PageSource (Scene ι σ ρ) ρ where
  name := name
  fetch f := call fun turn l =>
    (match turn.fault with
      | some fault => .error fault
      | none => .ok (f.page (l.tables i)), l)

/-- A sink that holds the batches it took. -/
def sink (name : String) (processable : ρ → Bool) (i : σ) : Sink (Scene ι σ ρ) ρ where
  name := name
  processable := processable
  commit c := call fun turn l =>
    (turn.reply, if took turn.reply then l.commit i c.rows else l)
  deleteAll _ := call fun turn l =>
    match turn.refusal with
    | some e => (.error e, { l with logs := Function.update l.logs i turn.spared })
    | none => (.ok (), { l with logs := Function.update l.logs i [] })

/-- What the store does, unless it refuses; then nothing changes. -/
def access {α : Type} (act : CheckpointTable → α × CheckpointTable) :
    StateM (Scene ι σ ρ) (Except Error α) :=
  call fun turn l =>
    match turn.refusal with
    | some e => (.error e, l)
    | none => (.ok (act l.stored).1, { l with stored := (act l.stored).2 })

/-- The store of the checkpoints. -/
def store : CheckpointStore (Scene ι σ ρ) where
  get group name := access fun stored => (stored.get? group name, stored)
  put c := access fun stored => ((), stored.put c)
  delete group name := access fun stored => ((), stored.delete group name)
  list group := access fun stored => (stored.list group, stored)

/-- The clock, which a run reads when it starts. -/
def clock : StateM (Scene ι σ ρ) Instant :=
  call fun turn l => (turn.now, { l with started := turn.now :: l.started })

/-- A fetch answers from the table that it finds, unless it fails. -/
theorem fetch_eq (name : String) (i : ι) (f : Fetch) (s : Scene ι σ ρ) :
    (source name i).fetch f s = (match s.turn.fault with
      | some fault => .error fault
      | none => .ok (f.page (s.found.tables i)), s.next s.found) := rfl

/-- A commit is answered as the turn says, and logged if it is taken. -/
theorem commit_eq (name : String) (processable : ρ → Bool) (i : σ) (c : Commit ρ)
    (s : Scene ι σ ρ) :
    (sink name processable i).commit c s =
      (s.turn.reply, s.next (if took s.turn.reply then s.found.commit i c.rows else s.found)) := rfl

end Scene

/-! ## What holds all along -/

section Along

variable {I P P' : Ledger ι σ ρ → Prop} {α β : Type} {Q Q' : α → Ledger ι σ ρ → Prop}
  {R : β → Ledger ι σ ρ → Prop} {m : StateM (Scene ι σ ρ) α}
  {f : α → StateM (Scene ι σ ρ) β}

/-- Started where `P` holds, `m` keeps `I` at every call and ends where `Q` holds. -/
def Along (I P : Ledger ι σ ρ → Prop) (m : StateM (Scene ι σ ρ) α)
    (Q : α → Ledger ι σ ρ → Prop) : Prop :=
  ∀ s : Scene ι σ ρ, (∀ l ∈ s.past, I l) → P s.ledger →
    (∀ l ∈ (m s).2.past, I l) ∧ Q (m s).1 (m s).2.ledger

namespace Along

theorem pure {a : α} (h : ∀ l, P l → Q a l) : Along I P (pure a) Q :=
  fun s hpast hp => ⟨hpast, h s.ledger hp⟩

/-- What holds along a first program and then along a second one. -/
theorem bind (hm : Along I P m Q) (hf : ∀ a, Along I (Q a) (f a) R) : Along I P (m >>= f) R :=
  fun s hpast hp => hf (m s).1 (m s).2 (hm s hpast hp).1 (hm s hpast hp).2

/-- Less is asked at the start, or more is known at the end. -/
theorem mono (hm : Along I P m Q) (hP : ∀ l, P' l → P l) (hQ : ∀ a l, Q a l → Q' a l) :
    Along I P' m Q' := fun s hpast hp =>
  ⟨(hm s hpast (hP _ hp)).1, hQ _ _ (hm s hpast (hP _ hp)).2⟩

/-- **One call.** The invariant is for the ledger after it. -/
theorem call [DecidableEq ι] [DecidableEq σ] [Timed ρ]
    {act : Turn ι σ ρ → Ledger ι σ ρ → α × Ledger ι σ ρ}
    (h : ∀ turn l, P l → I (act turn (l.wait turn)).2 ∧
      Q (act turn (l.wait turn)).1 (act turn (l.wait turn)).2) : Along I P (Scene.call act) Q := by
  intro s hpast hp
  obtain ⟨hinv, hpost⟩ := h s.turn s.ledger hp
  refine ⟨fun l hl => ?_, hpost⟩
  rcases List.mem_cons.mp hl with rfl | hl
  · exact hinv
  · exact hpast l hl

end Along

end Along

/-! ## Ledgers that only grow -/

section Grows

variable [Timed ρ] {l l' l'' : Ledger ι σ ρ}

/-- Rows, batches and runs were added, and no row to the window of a run that was started before. -/
structure Ledger.Grows (l l' : Ledger ι σ ρ) : Prop where
  ascending : ∀ i, Ascending (l.tables i) → Ascending (l'.tables i)
  tables : ∀ i, ∀ t ∈ l.started,
    (l'.tables i).filter (fun r => time r ≤ t) = (l.tables i).filter fun r => time r ≤ t
  logs : ∀ s, l.logs s <+: l'.logs s
  stored : l'.stored = l.stored
  started : l.started ⊆ l'.started

namespace Ledger.Grows

theorem refl (l : Ledger ι σ ρ) : l.Grows l :=
  ⟨fun _ => id, fun _ _ _ => rfl, fun _ => List.prefix_refl _, rfl, fun _ => id⟩

theorem trans (h : l.Grows l') (h' : l'.Grows l'') : l.Grows l'' where
  ascending i hi := h'.ascending i (h.ascending i hi)
  tables i t ht := (h'.tables i t (h.started ht)).trans (h.tables i t ht)
  logs s := (h.logs s).trans (h'.logs s)
  stored := h'.stored.trans h.stored
  started _ ht := h'.started (h.started ht)

/-- Up to the end of a run that was started, the rows of a table stay. -/
theorem rows (h : l.Grows l') (i : ι) {w : Window} {t : Instant} (ht : t ∈ l.started)
    (hw : w.upTo ≤ t) : w.rows (l'.tables i) = w.rows (l.tables i) := by
  have hcut : ∀ rows : List ρ, w.rows rows = w.rows (rows.filter fun r => time r ≤ t) :=
    fun rows => by
      rw [Window.rows, Window.rows, List.filter_filter]
      refine List.filter_congr fun r _ => ?_
      by_cases hr : time r ≤ w.upTo
      · simp [hr.trans hw]
      · simp [Window.contains, hr]
  rw [hcut, hcut (l.tables i), h.tables i t ht]

omit [Timed ρ] in
/-- A row that is filtered out can be put in anywhere. -/
theorem filter_insertIdx {p : ρ → Bool} {r : ρ} (hr : p r = false) (n : Nat) (rows : List ρ) :
    (rows.insertIdx n r).filter p = rows.filter p := by
  induction rows generalizing n with
  | nil => cases n <;> simp [hr]
  | cons head tail ih =>
    cases n with
    | zero => simp [hr]
    | succ n => simp only [List.insertIdx_succ_cons, List.filter_cons, ih]

/-- A ledger grows by what arrives. -/
theorem arrive [DecidableEq ι] (l : Ledger ι σ ρ) (a : Arrival ι ρ) : l.Grows (l.arrive a) := by
  by_cases h : Ascending ((l.tables a.source).insertIdx a.position a.row) ∧
      ∀ t ∈ l.started, t < time a.row
  swap
  · rw [Ledger.arrive, if_neg h]
    exact refl l
  rw [Ledger.arrive, if_pos h]
  obtain ⟨hasc, hlate⟩ := h
  refine ⟨fun i hi => ?_, fun i t ht => ?_, fun _ => List.prefix_refl _, rfl, fun _ => id⟩
  · by_cases hia : i = a.source
    · simpa [hia] using hasc
    · simpa [hia] using hi
  · by_cases hia : i = a.source
    · subst hia
      simpa using filter_insertIdx (by simpa using hlate t ht) a.position (l.tables a.source)
    · simp [hia]

/-- A ledger grows by a reading of the clock. -/
theorem start (l : Ledger ι σ ρ) (now : Instant) :
    l.Grows { l with started := now :: l.started } :=
  ⟨fun _ => id, fun _ _ _ => rfl, fun _ => List.prefix_refl _, rfl,
    fun _ => List.mem_cons_of_mem _⟩

omit [Timed ρ] in
theorem prefix_commit [DecidableEq σ] (l : Ledger ι σ ρ) (s i : σ) (batch : List ρ) :
    l.logs i <+: (l.commit s batch).logs i := by
  by_cases his : i = s
  · subst his
    simp [Ledger.commit]
  · simp [Ledger.commit, his]

/-- A ledger grows by a batch that is committed. -/
theorem commit [DecidableEq σ] (l : Ledger ι σ ρ) (s : σ) (batch : List ρ) :
    l.Grows (l.commit s batch) :=
  ⟨fun _ => id, fun _ _ _ => rfl, fun i => prefix_commit l s i batch, rfl, fun _ => id⟩

/-- **Whatever happens between two calls, the ledger only grows.** -/
theorem wait [DecidableEq ι] [DecidableEq σ] (l : Ledger ι σ ρ) (turn : Turn ι σ ρ) :
    l.Grows (l.wait turn) := by
  have harrive : ∀ arrivals : List (Arrival ι ρ), l.Grows (arrivals.foldl Ledger.arrive l) :=
    fun arrivals => List.foldlRecOn arrivals _ (refl l) fun _ h a _ => h.trans (arrive _ a)
  exact List.foldlRecOn turn.strays _ (harrive _) fun _ h e _ => h.trans (commit _ e.1 e.2)

end Ledger.Grows

end Grows

end Ingest
