import Ingest.Proofs.Concurrent.Extracting
import Ingest.Proofs.World.Execution

/-!
# Proofs/Concurrent/Supplying — what an extraction has sent, at each of its steps

The rows of a window up to an instant are a *cut* of it. At each phase of an extraction the rows
that were sent, together with those that are left of the page at hand, are a cut (`Phase.Supplies`),
as long as the source answers from a table whose rows up to the end of the window stay. Main
statement: `Phase.Supplies.turn`.
-/

namespace Ingest

variable {τ ρ : Type} [Timed ρ]

/-! ## Cuts -/

/-- All rows from the start of a window to `t`, which lies in the window unless it is its start. -/
structure Window.Cut (w : Window) (table rows : List ρ) (t : Instant) : Prop where
  since_le : w.since ≤ t
  le_upTo : w.since < t → t ≤ w.upTo
  rows_eq : rows = Window.rows ⟨w.since, t⟩ table

namespace Window.Cut

variable {w : Window} {table table' rows : List ρ} {t u : Instant}

theorem start (w : Window) (table : List ρ) : w.Cut table [] w.since where
  since_le := le_rfl
  le_upTo h := absurd h (lt_irrefl _)
  rows_eq := (Window.rows_eq_nil (lt_irrefl _)).symm

/-- **More rows.** The cut moves on to `u`. -/
theorem append (h : w.Cut table rows t) (asc : Ascending table) (htu : t ≤ u) (hu : u ≤ w.upTo) :
    w.Cut table (rows ++ Window.rows ⟨t, u⟩ table) u where
  since_le := h.since_le.trans htu
  le_upTo _ := hu
  rows_eq := by
    rw [h.rows_eq]
    exact Window.rows_append (w := ⟨w.since, u⟩) asc h.since_le htu

/-- A cut stays one while the window stays as it is. -/
theorem congr (h : w.Cut table rows t)
    (hrows : ∀ u ≤ w.upTo, Window.rows ⟨w.since, u⟩ table' = Window.rows ⟨w.since, u⟩ table) :
    w.Cut table' rows t where
  since_le := h.since_le
  le_upTo := h.le_upTo
  rows_eq := by
    rcases h.since_le.eq_or_lt with heq | hlt
    · rw [h.rows_eq, ← heq, Window.rows_eq_nil (lt_irrefl _), Window.rows_eq_nil (lt_irrefl _)]
    · rw [h.rows_eq, hrows t (h.le_upTo hlt)]

theorem mem (h : w.Cut table rows t) {r : ρ} (hr : r ∈ rows) :
    w.since < time r ∧ time r ≤ t ∧ t ≤ w.upTo := by
  obtain ⟨-, hlt, hle⟩ := Window.mem_rows.mp (h.rows_eq ▸ hr)
  exact ⟨hlt, hle, h.le_upTo (hlt.trans_le hle)⟩

theorem sent (h : w.Cut table rows t) (asc : Ascending table) : Sent table w rows where
  ascending := h.rows_eq ▸ asc.filter _
  mem r hr := by
    obtain ⟨hlt, hle, hu⟩ := h.mem hr
    exact ⟨hlt, hle.trans hu⟩
  complete r hr u hu := by
    rw [h.rows_eq, Window.rows_filter_le (hu.trans (h.mem hr).2.1)]

end Window.Cut

/-! ## Phases -/

namespace Extraction.Phase

variable {x : Extraction τ ρ} {group : String} {window : Window} {table table' accepted : List ρ}
  {phase next : Phase ρ} {w w' : τ}

/-- What was sent and what is left of the page at hand are a cut of the window. Before a page is
fetched, and after a full one, the cursor is where the cut is. -/
def Supplies (x : Extraction τ ρ) (window : Window) (table accepted : List ρ) : Phase ρ → Prop
  | fetching _ p => window.Cut table accepted (p.cursor window.since)
  | sending _ p fetched sent rest => ∃ t, window.Cut table (accepted ++ rest) t ∧
      (x.limit ≤ fetched → (p.extend (sent ++ rest)).cursor window.since = t)
  | ended _ => ∃ t, window.Cut table accepted t
  | stopped _ => ∃ rows t, window.Cut table rows t ∧ accepted <+: rows

namespace Supplies

theorem start (x : Extraction τ ρ) (window : Window) (table : List ρ) (budget : Nat) :
    (fetching budget {} : Phase ρ).Supplies x window table [] := Window.Cut.start window table

/-- What was sent is the first part of a cut. -/
theorem exists_cut (h : phase.Supplies x window table accepted) :
    ∃ rows t, window.Cut table rows t ∧ accepted <+: rows := by
  cases phase with
  | fetching budget p => exact ⟨_, _, h, List.prefix_refl _⟩
  | sending budget p fetched sent rest =>
    obtain ⟨t, hcut, -⟩ := h
    exact ⟨_, t, hcut, List.prefix_append _ _⟩
  | ended result =>
    obtain ⟨t, hcut⟩ := h
    exact ⟨_, t, hcut, List.prefix_refl _⟩
  | stopped p => exact h

theorem congr (h : phase.Supplies x window table accepted)
    (hrows : ∀ u ≤ window.upTo,
      Window.rows ⟨window.since, u⟩ table' = Window.rows ⟨window.since, u⟩ table) :
    phase.Supplies x window table' accepted := by
  cases phase with
  | fetching budget p => exact Window.Cut.congr h hrows
  | sending budget p fetched sent rest =>
    obtain ⟨t, hcut, hcursor⟩ := h
    exact ⟨t, hcut.congr hrows, hcursor⟩
  | ended result =>
    obtain ⟨t, hcut⟩ := h
    exact ⟨t, hcut.congr hrows⟩
  | stopped p =>
    obtain ⟨rows, t, hcut, hfront⟩ := h
    exact ⟨rows, t, hcut.congr hrows, hfront⟩

/-- A page of the table moves the cut on. -/
theorem page {budget : Nat} {p : Progress} {safe : List ρ} (asc : Ascending table)
    (h : (fetching budget p).Supplies x window table accepted)
    (hlt : p.cursor window.since < window.upTo)
    (hsafe : safeRows x.limit (p.pages + 1) p.lastAt ((x.nextFetch group window p).page table)
      = .ok safe) (less : Nat) :
    (sending less p ((x.nextFetch group window p).page table).length [] safe).Supplies
      x window table accepted := by
  have hcut : window.Cut table accepted (p.cursor window.since) := h
  have hlast : ∀ t ∈ p.lastAt, ∀ r ∈ Window.rows ⟨p.cursor window.since, window.upTo⟩ table,
      t ≤ time r := fun t ht r hr => by
    have hcursor : p.cursor window.since = t := by rw [Progress.cursor, ht, Option.getD_some]
    exact hcursor ▸ (Window.mem_rows.mp hr).2.1.le
  have hrows : Ascending (Window.rows ⟨p.cursor window.since, window.upTo⟩ table) := asc.filter _
  rcases safeRows_cases (p.pages + 1) x.limit_pos hrows hlast with
    ⟨hshort, hall⟩ | ⟨r, -, -, -, hcrowd⟩ | ⟨safe', last, hl, hall, -, -, hok⟩
  · -- a short page is the rest of the window
    obtain rfl := Except.ok.inj (hall.symm.trans hsafe)
    have hpage : ((x.nextFetch group window p).page table).length < x.limit :=
      (List.length_take_le' _ _).trans_lt hshort
    exact ⟨_, hcut.append asc hlt.le le_rfl, fun hle => absurd hpage hle.not_gt⟩
  · cases hcrowd.symm.trans hsafe
  · -- of a full page the groups before the last one are sent
    obtain rfl := Except.ok.inj (hok.symm.trans hsafe)
    have hmem : last ∈ Window.rows ⟨p.cursor window.since, window.upTo⟩ table :=
      List.mem_of_mem_filter (hall ▸ List.mem_of_getLast? hl)
    obtain ⟨-, hafter, hupTo⟩ := Window.mem_rows.mp hmem
    refine ⟨time last, ?_, fun _ => by simp [Progress.cursor, Progress.extend, hl]⟩
    rw [hall, Window.rows_filter_le hupTo]
    exact hcut.append asc hafter.le hupTo

/-- **An extraction that goes on without sending a row** keeps to a cut. -/
theorem turn (h : phase.Supplies x window table accepted) (asc : Ascending table)
    (hrest : phase.rest = [])
    (hanswer : ∀ f rows w', x.source.fetch f w = (.ok rows, w') → f.window.upTo = window.upTo →
      rows = f.page table)
    (hturn : phase.turn x group window w = (next, w')) :
    next.Supplies x window table accepted := by
  cases phase with
  | fetching budget p =>
    rcases turn_fetching_cases x group window budget p w with
      ⟨result, _, heq, -⟩ | ⟨less, rows, safe, _, rfl, hlt, hfetch, hsafe, heq⟩
    · obtain ⟨rfl, -⟩ := Prod.mk.inj (heq.symm.trans hturn)
      exact ⟨_, h⟩
    · obtain ⟨rfl, -⟩ := Prod.mk.inj (heq.symm.trans hturn)
      obtain rfl := hanswer _ _ _ hfetch rfl
      exact h.page asc hlt hsafe less
  | sending budget p fetched sent rest =>
    obtain rfl : rest = [] := hrest
    obtain ⟨t, hcut, hcursor⟩ := h
    rw [List.append_nil] at hcut hcursor
    obtain ⟨rfl, -⟩ := Prod.mk.inj (turn_sending_nil.symm.trans hturn)
    split_ifs with hshort
    · exact ⟨t, hcut⟩
    · rw [← hcursor (not_lt.mp hshort)] at hcut
      exact hcut
  | ended result =>
    obtain ⟨rfl, -⟩ := Prod.mk.inj hturn
    exact h
  | stopped p =>
    obtain ⟨rfl, -⟩ := Prod.mk.inj hturn
    exact h

variable {budget fetched : Nat} {p : Progress} {sent rest : List ρ} {r : ρ}

/-- A row that is sent is one of the page at hand. -/
theorem send (h : (sending budget p fetched sent (r :: rest)).Supplies x window table accepted) :
    (sending budget p fetched (sent ++ [r]) rest).Supplies x window table (accepted ++ [r]) := by
  obtain ⟨t, hcut, hcursor⟩ := h
  rw [List.append_cons] at hcut hcursor
  exact ⟨t, hcut, hcursor⟩

theorem stop (h : phase.Supplies x window table accepted) (p : Progress) :
    (stopped p).Supplies x window table accepted := h.exists_cut

end Supplies

end Extraction.Phase

end Ingest
