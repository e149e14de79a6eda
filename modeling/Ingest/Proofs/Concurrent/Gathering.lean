import Ingest.Proofs.Concurrent.Loading
import Ingest.Proofs.Concurrent.Supplying

/-!
# Proofs/Concurrent/Gathering — what a loader brought to its sink, at each of its steps

Others work on the same ledger while a loader without a stage reads rows of a closed window, so the
ledger widens (`Ledger.Widens`): rows, batches and runs are added, and checkpoints may change. At
each phase of the loader its books are in order, and once it stopped what it says is true
(`Outlet.Follows`). Main statement: `Outlet.Follows.work`.
-/

namespace Ingest

variable {ι σ ρ : Type} [Timed ρ]

/-! ## Ledgers that others work on -/

/-- The ledger only grew, but for its checkpoints. -/
def Ledger.Widens (l l' : Ledger ι σ ρ) : Prop := l.Grows { l' with stored := l.stored }

namespace Ledger.Widens

variable {l l' l'' : Ledger ι σ ρ} {initial t : Instant}

/-- A ledger that grows widens. -/
theorem of_grows (h : l.Grows l') : l.Widens l' := by
  unfold Widens
  rw [← h.stored]
  exact h

theorem refl (l : Ledger ι σ ρ) : l.Widens l := Grows.refl l

theorem trans (h : l.Widens l') (h' : l'.Widens l'') : l.Widens l'' :=
  Grows.trans h ⟨h'.ascending, h'.tables, h'.logs, rfl, h'.started⟩

/-- Checkpoints change. -/
theorem store (l : Ledger ι σ ρ) (stored : CheckpointTable) :
    l.Widens { l with stored := stored } := Grows.refl l

/-- What is closed stays closed when the ledger widens. -/
theorem closed (hw : l.Widens l') (h : l.Closed initial t) : l'.Closed initial t := by
  have hclosed := Closed.mono h hw
  exact hclosed

/-- Up to a closed instant a table stays as it is. -/
theorem rows (hw : l.Widens l') (h : l.Closed initial t) (source : ι) :
    Window.rows ⟨initial, t⟩ (l'.tables source) = Window.rows ⟨initial, t⟩ (l.tables source) := by
  have hrows := Closed.rows h hw source
  exact hrows

end Ledger.Widens

/-! ## What a loader may say -/

/-- Up to `t`, which is not before `since`, a sink has got everything. -/
structure Outlet.Attained (o : Outlet σ ρ) (source : ι) (initial since : Instant)
    (l : Ledger ι σ ρ) (t : Instant) : Prop where
  since_le : since ≤ t
  closed : l.Closed initial t
  loaded : o.Loaded source l ⟨initial, t⟩

/-- An execution is under way: its window was closed when it started. -/
structure Execution.Underway (e : Execution) (source : ι) (initial : Instant) (l : Ledger ι σ ρ) :
    Prop where
  ascending : Ascending (l.tables source)
  started : e.window.upTo ∈ l.started
  initial_le : initial ≤ e.window.since
  closed : l.Closed initial e.window.since

/-- When an execution started, `base` was in a sink and covered everything up to there. After that,
the sink took `batches`. -/
structure Outlet.Banks (o : Outlet σ ρ) (source : ι) (w : Window) (l : Ledger ι σ ρ)
    (base batches : List (List ρ)) : Prop where
  covers : o.feed.Covers o.processable (w.rows (l.tables source)) base.flatten
  sublist : (base ++ batches).Sublist (l.logs o.sink)

section Widens

variable {o : Outlet σ ρ} {source : ι} {initial since t : Instant} {e : Execution}
  {l l' : Ledger ι σ ρ} {base batches : List (List ρ)}

/-- What is attained stays attained when the ledger widens. -/
theorem Outlet.Attained.mono (h : o.Attained source initial since l t) (hw : l.Widens l') :
    o.Attained source initial since l' t where
  since_le := h.since_le
  closed := hw.closed h.closed
  loaded := by
    have hloaded := h.loaded.mono h.closed hw
    exact hloaded

namespace Execution.Underway

theorem mono (h : e.Underway source initial l) (hw : l.Widens l') :
    e.Underway source initial l' where
  ascending := hw.ascending source h.ascending
  started := hw.started h.started
  initial_le := h.initial_le
  closed := hw.closed h.closed

/-- The window stays as it is. -/
theorem rows (h : e.Underway source initial l) (hw : l.Widens l') {w : Window}
    (hupTo : w.upTo ≤ e.window.upTo) : w.rows (l'.tables source) = w.rows (l.tables source) :=
  Ledger.Grows.rows hw source h.started hupTo

end Execution.Underway

namespace Outlet.Banks

theorem mono (h : o.Banks source ⟨initial, since⟩ l base batches) (hclosed : l.Closed initial since)
    (hw : l.Widens l') : o.Banks source ⟨initial, since⟩ l' base batches where
  covers := by
    rw [hw.rows hclosed]
    exact h.covers
  sublist := h.sublist.trans (hw.logs o.sink).sublist

/-- **What was committed is what is true.** -/
theorem attained (h : o.Banks source ⟨initial, e.window.since⟩ l base batches)
    (hu : e.Underway source initial l) (hplain : o.feed = .direct) {ω : Type} {sink : Sink ω ρ}
    (hsink : sink.processable = o.processable) {rows : List ρ}
    (hsent : Sent (l.tables source) e.window rows) {done : List (Staged ρ)}
    {rest : List (Except Error (Staged ρ))} {upTo : Instant}
    (hb : Loading.Books sink e (rows.map Loading.direct) done rest batches upTo) :
    o.Attained source initial e.window.since l upTo := by
  have hitems : rows.map Loading.direct = o.feed.stage.transform (rows.map .ok) := by
    rw [hplain, Feed.stage, Loading.direct_transform]
  rw [hitems] at hb
  obtain ⟨hcovers, hupTo⟩ := hb.covers_window hsent (hplain ▸ trivial)
  rw [hsink] at hcovers
  refine ⟨hb.since_le, hu.closed.advance hu.started hupTo, ?_⟩
  rw [Outlet.Loaded, ← Window.rows_append hu.ascending hu.initial_le hb.since_le]
  refine (h.covers.append hcovers).mono (.refl _) ?_
  rw [← List.flatten_append]
  exact h.sublist.flatten.subperm

end Outlet.Banks

end Widens

/-! ## Phases -/

section Scenes

variable [DecidableEq ι] [DecidableEq σ]

/-- The books of a loader that has read the rows `received` and may go on. If nothing is open, the
result has not moved. -/
def Outlet.Gathers (o : Outlet σ ρ) (source : ι) (initial : Instant) (e : Execution)
    (l : Ledger ι σ ρ) (received : List ρ) (st : Loading.State ρ) : Prop :=
  ∃ base batches done opened, o.Banks source ⟨initial, e.window.since⟩ l base batches ∧
    Loading.Books (o.branch (ι := ι)).sink e (received.map Loading.direct) done (opened.map .ok)
      batches st.total.upTo ∧
    Loading.Reading (o.branch (ι := ι)).sink e done opened st ∧
    (opened = [] → st.total.upTo ≤ e.window.since)

/-- What holds of a loader that stopped reading after the rows `received`. If all went well, these
are a cut of the window. -/
def Outlet.Halts (o : Outlet σ ρ) (source : ι) (initial : Instant) (e : Execution)
    (l : Ledger ι σ ρ) (received : List ρ) (st : Loading.State ρ) : Loading.Ending → Prop
  | .finished => o.Gathers source initial e l received st ∧
      ∃ t, e.window.Cut (l.tables source) received t
  | .failed _ => o.Attained source initial e.window.since l st.total.upTo
  | .panicked _ => True

/-- What holds of a loader that received the rows `received`, at each of its phases. -/
def Outlet.Follows (o : Outlet σ ρ) (source : ι) (initial : Instant) (e : Execution)
    (l : Ledger ι σ ρ) (received : List ρ) : Loading.Phase ρ → Prop
  | .reading st => o.Gathers source initial e l received st
  | .handling st r => ∃ before, received = before ++ [r] ∧ o.Gathers source initial e l before st
  | .leaving st ending => o.Halts source initial e l received st ending
  | .closing st ending => o.Halts source initial e l received st ending
  | .done outcome => ∀ r, outcome.result = .ok r →
      o.Attained source initial e.window.since l r.upTo

variable {o : Outlet σ ρ} {source : ι} {initial : Instant} {e : Execution} {l l' : Ledger ι σ ρ}
  {received : List ρ} {st : Loading.State ρ} {ending : Loading.Ending}
  {phase next : Loading.Phase ρ} {s s' : Scene ι σ ρ}

/-- At first nothing was received, and everything up to the start of the window was there before. -/
theorem Outlet.follows_start (h : o.Loaded source l ⟨initial, e.window.since⟩) :
    o.Follows source initial e l [] (.reading { total := .started e.window.since }) :=
  ⟨l.logs o.sink, [], [], [], ⟨h, by simp⟩,
    ⟨rfl, rfl, le_rfl, by simp, fun hlt => absurd hlt (lt_irrefl _)⟩, ⟨rfl, rfl, rfl, by simp⟩,
    fun _ => le_rfl⟩

theorem Outlet.Gathers.mono (h : o.Gathers source initial e l received st)
    (hu : e.Underway source initial l) (hw : l.Widens l') :
    o.Gathers source initial e l' received st := by
  obtain ⟨base, batches, done, opened, hbanks, hrest⟩ := h
  exact ⟨base, batches, done, opened, hbanks.mono hu.closed hw, hrest⟩

theorem Outlet.Halts.mono (h : o.Halts source initial e l received st ending)
    (hu : e.Underway source initial l) (hw : l.Widens l') :
    o.Halts source initial e l' received st ending := by
  cases ending with
  | finished =>
    obtain ⟨hgathers, t, hcut⟩ := h
    exact ⟨hgathers.mono hu hw, t, hcut.congr fun u hupTo => hu.rows hw hupTo⟩
  | failed m => exact Outlet.Attained.mono h hw
  | panicked p => trivial

theorem Outlet.Follows.mono (h : o.Follows source initial e l received phase)
    (hu : e.Underway source initial l) (hw : l.Widens l') :
    o.Follows source initial e l' received phase := by
  cases phase with
  | reading st => exact Outlet.Gathers.mono h hu hw
  | handling st r =>
    obtain ⟨before, hbefore, hgathers⟩ := h
    exact ⟨before, hbefore, hgathers.mono hu hw⟩
  | leaving st ending => exact Outlet.Halts.mono h hu hw
  | closing st ending => exact Outlet.Halts.mono h hu hw
  | done outcome => exact fun r hr => (h r hr).mono hw

/-! ## Work -/

/-- **What a loader commits** comes after everything that was there before. -/
theorem Outlet.Banks.performs {base batches : List (List ρ)}
    {commits : List (Commit ρ × Attempt CommitReply)}
    (h : o.Banks source ⟨initial, e.window.since⟩ s.ledger base batches)
    (hclosed : s.ledger.Closed initial e.window.since)
    (hperf : (o.branch (ι := ι)).sink.Performs s commits s') :
    s.ledger.Grows s'.ledger ∧ o.Banks source ⟨initial, e.window.since⟩ s'.ledger base
      (batches ++ committedBatches commits) := by
  obtain ⟨⟨-, hgrows⟩, more, hmore, hsub⟩ := During.performs (I := fun _ => True)
    (fun _ _ => trivial) hperf ⟨fun _ _ => trivial, .refl s.ledger⟩
  refine ⟨hgrows, hclosed.rows hgrows source ▸ h.covers, ?_⟩
  rw [hmore, ← List.append_assoc]
  exact h.sublist.append hsub

/-- **A loader handles a row** of the window. -/
theorem Outlet.Gathers.handle {r : ρ} (h : o.Gathers source initial e s.ledger received st)
    (hu : e.Underway source initial s.ledger) (hplain : o.feed = .direct)
    {rows : List ρ} {t : Instant} (hcut : e.window.Cut (s.ledger.tables source) rows t)
    (hfront : received ++ [r] <+: rows) :
    let out := Loading.step (o.branch (ι := ι)).sink e st (Loading.direct r) s
    s.ledger.Grows out.2.ledger ∧
      o.Follows source initial e out.2.ledger (received ++ [r]) (Loading.Phase.goOn out.1) := by
  obtain ⟨base, batches, done, opened, hbanks, hbooks, hreading, hopen⟩ := h
  have hnext : Loading.Books (o.branch (ι := ι)).sink e ((received ++ [r]).map Loading.direct) done
      (opened.map .ok ++ Loading.direct r :: []) batches st.total.upTo := by
    rw [List.map_append]
    exact hbooks.extend (fun hnil => hopen (List.map_eq_nil_iff.mp hnil)) _
  have hgoes : (Loading.step (o.branch (ι := ι)).sink e st (Loading.direct r) s).1.2
      ≠ some .finished := by
    refine Loading.step_ne_finished st ?_ s
    obtain ⟨-, hle, hupTo⟩ := hcut.mem (hfront.subset (by simp : r ∈ received ++ [r]))
    exact hle.trans hupTo
  obtain ⟨commits, hperf, hcase⟩ := Loading.step_books (w := s) hnext hreading
  rcases hstep : Loading.step (o.branch (ι := ι)).sink e st (Loading.direct r) s
    with ⟨⟨st', ending⟩, s'⟩
  rw [hstep] at hperf hcase hgoes
  obtain ⟨hgrows, hbanks'⟩ := hbanks.performs hu.closed hperf
  refine ⟨hgrows, ?_⟩
  rcases hcase with ⟨done', front, it, -, rfl, hbooks', hreading'⟩ | ⟨ending, rfl, hstop⟩
  · exact ⟨base, _, done', front ++ [it], hbanks', by simpa using hbooks', hreading', by simp⟩
  cases ending with
  | finished => exact absurd rfl hgoes
  | failed m =>
    obtain ⟨later, rfl⟩ := hfront
    have hbooks' := hstop.books (by simp)
    have hall := hbooks'.extend (by simp) (later.map Loading.direct)
    rw [← List.map_append] at hall
    have hu' := hu.mono (.of_grows hgrows)
    have hcut' := hcut.congr fun u hupTo => hu.rows (.of_grows hgrows) hupTo
    exact hbanks'.attained hu' hplain rfl (hcut'.sent hu'.ascending) hall
  | panicked p => trivial

/-- **A loader comes to its end** after it read a cut of the window. -/
theorem Outlet.Halts.settle (h : o.Halts source initial e s.ledger received st ending)
    (hu : e.Underway source initial s.ledger) (hplain : o.feed = .direct) :
    let out := Loading.settle (o.branch (ι := ι)).sink e st ending s
    s.ledger.Grows out.2.ledger ∧
      o.Follows source initial e out.2.ledger received (.done out.1) := by
  cases ending with
  | failed m =>
    refine ⟨.refl _, fun r hr => ?_⟩
    rw [Loading.upTo_of_conclude (s := st) hr]
    exact h
  | panicked p => exact ⟨.refl _, fun r hr => by cases hr⟩
  | finished =>
    obtain ⟨⟨base, batches, done, opened, hbanks, hbooks, hreading, -⟩, t, hcut⟩ := h
    rw [← List.append_nil (opened.map _)] at hbooks
    obtain ⟨commits, done', rest', hperf, -, hbooks'⟩ :=
      Loading.finish_books hbooks hreading (fun it _ => it.nextLater_nil) s
    obtain ⟨hgrows, hbanks'⟩ := hbanks.performs hu.closed hperf
    have hu' := hu.mono (.of_grows hgrows)
    have hcut' := hcut.congr fun u hupTo => hu.rows (.of_grows hgrows) hupTo
    refine ⟨hgrows, fun r hr => ?_⟩
    rw [Loading.upTo_of_conclude hr]
    exact hbanks'.attained hu' hplain rfl (hcut'.sent hu'.ascending)
      (hbooks' (Loading.ne_panicked_of_conclude hr))

/-- **What a loader does by itself** keeps its books in order, whatever the sink says. -/
theorem Outlet.Follows.work (h : o.Follows source initial e s.ledger received phase)
    (hu : e.Underway source initial s.ledger) (hplain : o.feed = .direct)
    {rows : List ρ} {t : Instant} (hcut : e.window.Cut (s.ledger.tables source) rows t)
    (hfront : received <+: rows) :
    let out := phase.work (o.branch (ι := ι)).sink e s
    s.ledger.Grows out.2.ledger ∧ o.Follows source initial e out.2.ledger received out.1 := by
  cases phase with
  | reading st => exact ⟨.refl _, h⟩
  | handling st r =>
    obtain ⟨before, rfl, hgathers⟩ := h
    exact hgathers.handle hu hplain hcut hfront
  | leaving st ending => exact ⟨.refl _, h⟩
  | closing st ending => exact Outlet.Halts.settle h hu hplain
  | done outcome => exact ⟨.refl _, h⟩

/-- A row that a loader finds is the next one that it receives. -/
theorem Outlet.Follows.found_item (h : o.Follows source initial e l received phase)
    (hreads : phase.Reads) (r : ρ) :
    o.Follows source initial e l (received ++ [r]) (phase.found (.item r)) := by
  obtain ⟨st, rfl⟩ := hreads
  exact ⟨received, rfl, h⟩

/-- A loader that finds the end has received a cut of the window. -/
theorem Outlet.Follows.found_ended (h : o.Follows source initial e l received phase)
    (hreads : phase.Reads) {t : Instant} (hcut : e.window.Cut (l.tables source) received t) :
    o.Follows source initial e l received (phase.found .ended) := by
  obtain ⟨st, rfl⟩ := hreads
  exact ⟨h, t, hcut⟩

end Scenes

end Ingest
