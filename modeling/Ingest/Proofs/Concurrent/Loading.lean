import Ingest.FanOut
import Ingest.Proofs.Loading

/-!
# Proofs/Concurrent/Loading — a loader, one step at a time

A loader that is fed row by row waits for the next row, handles one, goes away when there is no more
or it failed, and commits what is left. What `remains` to be done at a phase, once the rows that it
has not received are known, is a program. Main statements: `Phase.remains_start`, by which this
program is the whole loader at first, and `Phase.remains_work` and `Phase.remains_found`, by which
no step changes it.
-/

namespace Ingest

namespace Loading

variable {σ ρ : Type}

/-- What a loader does next. -/
inductive Phase (ρ : Type) where
  /-- It waits for the next row. -/
  | reading (s : State ρ)
  /-- It has received a row. -/
  | handling (s : State ρ) (r : ρ)
  /-- It goes away, and reads no more. -/
  | leaving (s : State ρ) (ending : Ending)
  /-- It has gone away, and commits what is left if all went well. -/
  | closing (s : State ρ) (ending : Ending)
  /-- It is at its end. -/
  | done (outcome : Outcome)

namespace Phase

/-- Whether a loader has not gone away yet. -/
def Present : Phase ρ → Prop
  | reading _ => True
  | handling _ _ => True
  | leaving _ _ => True
  | closing _ _ => False
  | done _ => False

/-- Whether a loader waits for a row. -/
def Reads (phase : Phase ρ) : Prop := ∃ s, phase = reading s

/-- What has become of a loader that is at its end. -/
def outcome? : Phase ρ → Option Outcome
  | done outcome => some outcome
  | _ => none

/-- What broke a loader off. -/
def panic? : Phase ρ → Option Panic
  | leaving _ (.panicked p) => some p
  | closing _ (.panicked p) => some p
  | done ⟨.error p, _⟩ => some p
  | _ => none

theorem outcome?_eq_some_iff {phase : Phase ρ} {outcome : Outcome} :
    phase.outcome? = some outcome ↔ phase = done outcome := by
  cases phase <;> simp [outcome?]

/-- What a loader that waits for a row does with what it finds. -/
def found : Glance ρ → Phase ρ → Phase ρ
  | .item r, reading s => handling s r
  | .ended, reading s => leaving s .finished
  | _, phase => phase

/-- A loader that waits for a row is still there after it found something. -/
theorem Reads.present_found {phase : Phase ρ} (h : phase.Reads) (glance : Glance ρ) :
    (phase.found glance).Present := by
  obtain ⟨s, rfl⟩ := h
  cases glance <;> trivial

/-- A loader goes on waiting if it finds neither a row nor the end. -/
theorem Reads.found_of_ne {phase : Phase ρ} (h : phase.Reads) {glance : Glance ρ}
    (hitem : ∀ r, glance ≠ .item r) (hended : glance ≠ .ended) : phase.found glance = phase := by
  obtain ⟨s, rfl⟩ := h
  cases glance with
  | item r => exact absurd rfl (hitem r)
  | ended => exact absurd rfl hended
  | suspended => rfl
  | caughtUp => rfl

/-- A loader that goes on to handle a row found it. -/
theorem Reads.item_of_handling {phase : Phase ρ} (h : phase.Reads) {glance : Glance ρ} {s : State ρ}
    {r : ρ} (hfound : phase.found glance = handling s r) : glance = .item r := by
  obtain ⟨s', rfl⟩ := h
  cases glance with
  | item r' => rw [(handling.inj hfound).2]
  | ended => cases hfound
  | suspended => cases hfound
  | caughtUp => cases hfound

/-- What a loader does after it handled a row. -/
def goOn : State ρ × Option Ending → Phase ρ
  | (s, none) => reading s
  | (s, some ending) => leaving s ending

/-- A loader goes away. -/
def leave : Phase ρ → Phase ρ
  | leaving s ending => closing s ending
  | phase => phase

end Phase

/-- A row as it comes from the extraction. -/
def direct (r : ρ) : Except Error (Staged ρ) := .ok ⟨r, none⟩

theorem direct_transform (rows : List ρ) :
    (Stage.direct ρ).transform (rows.map .ok) = rows.map direct := by
  rw [Stage.direct_transform, List.map_map]
  rfl

/-- What a loader does after it stopped reading. -/
def settle (sink : Sink σ ρ) (e : Execution) (s : State ρ) : Ending → StateM σ Outcome
  | .finished => do
    let (s, ending) ← finish sink e s
    return conclude s ending
  | ending => return conclude s ending

variable [Timed ρ]

namespace Phase

/-- What a loader does by itself: it handles a row that it has received, or comes to its end. -/
def work (sink : Sink σ ρ) (e : Execution) : Phase ρ → StateM σ (Phase ρ)
  | handling s r => return goOn (← step sink e s (direct r))
  | closing s ending => return done (← settle sink e s ending)
  | phase => return phase

/-- What a loader still does if `unread` are the rows that it has not received. -/
def remains (sink : Sink σ ρ) (e : Execution) (unread : List ρ) : Phase ρ → StateM σ Outcome
  | reading s => do
    let (s, ending) ← consume sink e (unread.map direct) s
    settle sink e s ending
  | handling s r => do
    let (s, ending) ← consume sink e ((r :: unread).map direct) s
    settle sink e s ending
  | leaving s ending => settle sink e s ending
  | closing s ending => settle sink e s ending
  | done outcome => return outcome

variable {sink : Sink σ ρ} {e : Execution} {unread : List ρ} {r : ρ}

/-! ## What is left to do -/

/-- **At first everything is left**: the whole run of the loader on the rows. -/
theorem remains_start (sink : Sink σ ρ) (e : Execution) (rows : List ρ) :
    (reading { total := .started e.window.since }).remains sink e rows
      = run sink e (rows.map direct) := by
  rw [remains, run]
  congr

/-- **A loader that works by itself** does what it has to do. -/
theorem remains_work (sink : Sink σ ρ) (e : Execution) (unread : List ρ) (phase : Phase ρ) :
    (do remains sink e unread (← phase.work sink e)) = phase.remains sink e unread := by
  cases phase with
  | handling s r =>
    simp only [work, remains, List.map_cons, consume, bind_assoc, pure_bind]
    congr
    funext out
    rcases out with ⟨s, _ | ending⟩ <;> simp [goOn]
  | closing s ending => simp [work, remains]
  | reading s => simp [work]
  | leaving s ending => simp [work]
  | done outcome => simp [work]

/-- **A row that a loader finds** is the next one that it has to handle. -/
theorem remains_found_item {phase : Phase ρ} (h : phase.Reads) :
    (phase.found (.item r)).remains sink e unread = phase.remains sink e (r :: unread) := by
  obtain ⟨s, rfl⟩ := h
  rfl

/-- At the end of the rows nothing is left to read. -/
theorem remains_found_ended (phase : Phase ρ) :
    (phase.found .ended).remains sink e [] = phase.remains sink e [] := by
  cases phase with
  | reading s => rfl
  | handling s r => rfl
  | leaving s ending => rfl
  | closing s ending => rfl
  | done outcome => rfl

/-- A loader that broke off has no result. -/
theorem remains_panic {phase : Phase ρ} {p : Panic} (h : phase.panic? = some p) (unread : List ρ)
    (w : σ) : (phase.remains sink e unread w).1.result = .error p := by
  unfold panic? at h
  split at h
  · obtain rfl := Option.some.inj h
    rfl
  · obtain rfl := Option.some.inj h
    rfl
  · obtain rfl := Option.some.inj h
    rfl
  · cases h

/-- A loader that works by itself does not go away by that. -/
theorem work_present_iff (phase : Phase ρ) (w : σ) :
    (phase.work sink e w).1.Present ↔ phase.Present := by
  cases phase with
  | handling s r =>
    change (goOn (step sink e s (direct r) w).1).Present ↔ True
    rcases (step sink e s (direct r) w).1 with ⟨s', _ | ending⟩ <;> exact Iff.rfl
  | closing s ending => exact Iff.rfl
  | reading s => exact Iff.rfl
  | leaving s ending => exact Iff.rfl
  | done outcome => exact Iff.rfl

theorem Reads.work {phase : Phase ρ} (h : phase.Reads) (w : σ) :
    (phase.work sink e w).1.Reads := by
  obtain ⟨s, rfl⟩ := h
  exact ⟨s, rfl⟩

/-- A loader that works by itself receives no row by that. -/
theorem work_ne_handling (phase : Phase ρ) (w : σ) (s : State ρ) (r : ρ) :
    (phase.work sink e w).1 ≠ handling s r := by
  cases phase with
  | handling s' r' =>
    change goOn (step sink e s' (direct r') w).1 ≠ _
    rcases (step sink e s' (direct r') w).1 with ⟨s'', _ | ending⟩ <;> intro h <;> cases h
  | closing s ending => intro h; cases h
  | reading s => intro h; cases h
  | leaving s ending => intro h; cases h
  | done outcome => intro h; cases h

/-! ## The number of steps -/

/-- Whether a loader can work by itself. -/
def Works : Phase ρ → Prop
  | handling _ _ => True
  | closing _ _ => True
  | _ => False

omit [Timed ρ] in
/-- A loader waits for a row, can work by itself, may go away, or is at its end. -/
theorem cases_of_phase (phase : Phase ρ) : phase.Reads ∨ phase.Works ∨
    (∃ s ending, phase = leaving s ending) ∨ ∃ outcome, phase = done outcome := by
  cases phase with
  | reading s => exact .inl ⟨s, rfl⟩
  | handling s r => exact .inr (.inl trivial)
  | leaving s ending => exact .inr (.inr (.inl ⟨s, ending, rfl⟩))
  | closing s ending => exact .inr (.inl trivial)
  | done outcome => exact .inr (.inr (.inr ⟨outcome, rfl⟩))

/-- A loader that has nothing to do stays as it is. -/
theorem work_of_not_works {phase : Phase ρ} (h : ¬phase.Works) (w : σ) :
    phase.work sink e w = (phase, w) := by
  cases phase with
  | reading s => rfl
  | handling s r => exact absurd trivial h
  | leaving s ending => rfl
  | closing s ending => exact absurd trivial h
  | done outcome => rfl

/-- The steps that a loader has left, if `unread` rows are kept for it. -/
def tasks (unread : Nat) : Phase ρ → Nat
  | reading _ => 3 * unread + 3
  | handling _ _ => 3 * unread + 4
  | leaving _ _ => 2
  | closing _ _ => 1
  | done _ => 0

/-- A loader that works has less to do. -/
theorem tasks_work_lt {phase : Phase ρ} (h : phase.Works) (unread : Nat) (w : σ) :
    (phase.work sink e w).1.tasks unread < phase.tasks unread := by
  cases phase with
  | handling s r =>
    change (goOn (step sink e s (direct r) w).1).tasks unread < 3 * unread + 4
    rcases (step sink e s (direct r) w).1 with ⟨s', _ | ending⟩ <;>
      simp only [goOn, tasks] <;> omega
  | closing s ending => exact Nat.zero_lt_one
  | reading s => cases h
  | leaving s ending => cases h
  | done outcome => cases h

omit [Timed ρ] in
theorem tasks_found_item_lt {phase : Phase ρ} (h : phase.Reads) (unread : Nat) :
    (phase.found (.item r)).tasks unread < phase.tasks (unread + 1) := by
  obtain ⟨s, rfl⟩ := h
  simp only [found, tasks]
  omega

omit [Timed ρ] in
theorem tasks_found_ended_lt {phase : Phase ρ} (h : phase.Reads) (unread : Nat) :
    (phase.found .ended).tasks unread < phase.tasks unread := by
  obtain ⟨s, rfl⟩ := h
  simp only [found, tasks]
  omega

/-! ## Loaders that fail -/

/-- Whether a loader has come to the end of its rows and did not fail. -/
def WentWell : Phase ρ → Prop
  | leaving _ ending => ending = .finished
  | closing _ ending => ending = .finished
  | done outcome => ∃ result, outcome.result = .ok result ∧ result.status ≠ .failed
  | _ => False

omit [Timed ρ] in
/-- A loader that goes well as soon as it looked was told that nothing more comes. -/
theorem Reads.ended_of_wentWell {phase : Phase ρ} (h : phase.Reads) {glance : Glance ρ}
    (hwell : (phase.found glance).WentWell) : glance = .ended := by
  obtain ⟨s, rfl⟩ := h
  cases glance with
  | item r => exact hwell.elim
  | ended => rfl
  | suspended => exact hwell.elim
  | caughtUp => exact hwell.elim

/-- **A loader that goes well** has met no failure, as long as it handles rows of the window. -/
theorem wentWell_of_work {phase : Phase ρ} {w : σ}
    (hin : ∀ s r, phase = handling s r → time r ≤ e.window.upTo)
    (h : (phase.work sink e w).1.WentWell) : phase.WentWell := by
  cases phase with
  | handling s r =>
    have hne : (step sink e s (direct r) w).1.2 ≠ some .finished :=
      step_ne_finished s (hin s r rfl) w
    change (goOn (step sink e s (direct r) w).1).WentWell at h
    generalize (step sink e s (direct r) w).1 = out at h hne
    rcases out with ⟨s', _ | ending⟩
    · exact h
    · exact absurd (congrArg some h) hne
  | closing s ending =>
    obtain ⟨result, hresult, hstatus⟩ := h
    cases ending with
    | finished => rfl
    | failed m =>
      obtain rfl := Except.ok.inj hresult
      exact absurd (status_add_failed s.total s.total.upTo m) hstatus
    | panicked p => cases hresult
  | reading s => exact h
  | leaving s ending => exact h
  | done outcome => exact h

end Phase

end Loading

end Ingest
