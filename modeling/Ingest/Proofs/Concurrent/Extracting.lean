import Ingest.Proofs.Pagination
import Mathlib.Data.Prod.Lex

/-!
# Proofs/Concurrent/Extracting — an extraction, one step at a time

Between two steps an extraction is at a phase: it is about to fetch a page, or it is sending one.
The `outlook` of a phase is what it will still send, and how it will end, as long as somebody
receives. Main statements: `Phase.outlook_turn` and `Phase.outlook_sending` — a step does not change
the outlook, apart from the row that it sends — and `Phase.rank_lt_of_turn`, by which there are only
so many steps.
-/

namespace Ingest

namespace Extraction

variable {τ ρ : Type}

/-- What an extraction does next. -/
inductive Phase (ρ : Type) where
  /-- It asks for the next page, if the window is not read yet. -/
  | fetching (budget : Nat) (p : Progress)
  /-- It sends what may be sent of a page of `fetched` rows: `sent` is sent, `rest` is left. -/
  | sending (budget : Nat) (p : Progress) (fetched : Nat) (sent rest : List ρ)
  /-- It is at its end. -/
  | ended (result : Attempt Progress)
  /-- It stopped because nobody receives any more. -/
  | stopped (p : Progress)

namespace Phase

/-- How an extraction ended, if it did. -/
def result? : Phase ρ → Option (Attempt Progress)
  | ended result => some result
  | stopped p => some (.ok { p with receiversClosed := true })
  | _ => none

/-- The panic that an extraction ended with. -/
def panic? : Phase ρ → Option Panic
  | ended (.error (.panic p)) => some p
  | _ => none

theorem eq_ended_of_panic {phase : Phase ρ} {p : Panic} (h : phase.panic? = some p) :
    phase = ended (.error (.panic p)) := by
  unfold panic? at h
  split at h
  · rw [Option.some.inj h]
  · cases h

/-- The rows of the page at hand that are left to send. -/
def rest : Phase ρ → List ρ
  | sending _ _ _ _ rest => rest
  | _ => []

variable [Timed ρ]

/-- The next step of an extraction that is not to send a row. -/
def turn (x : Extraction τ ρ) (group : String) (window : Window) : Phase ρ → StateM τ (Phase ρ)
  | fetching budget p =>
    if p.cursor window.since < window.upTo then
      match budget with
      | 0 => return ended (.error (.panic (.text "attempt to add with overflow")))
      | budget + 1 => do
        match ← x.source.fetch (x.nextFetch group window p) with
        | .error fault => return ended (.error fault)
        | .ok rows =>
          match safeRows x.limit (p.pages + 1) p.lastAt rows with
          | .error e => return ended (.error (.error e))
          | .ok safe => return sending budget p rows.length [] safe
    else return ended (.ok p)
  | sending budget p fetched sent [] =>
    return if fetched < x.limit then ended (.ok (p.extend sent))
      else fetching budget (p.extend sent)
  | phase => return phase

/-- What an extraction will still send, and how it will end, as long as somebody receives. -/
def outlook (x : Extraction τ ρ) (group : String) (window : Window) :
    Phase ρ → τ → List ρ × Attempt Progress
  | fetching budget p, w =>
    let out := (x.readPages (pure true) group window budget p w).1
    (out.sent, out.result)
  | sending budget p fetched sent rest, w =>
    let p := p.extend (sent ++ rest)
    if fetched < x.limit then (rest, .ok p)
    else
      let out := (x.readPages (pure true) group window budget p w).1
      (rest ++ out.sent, out.result)
  | ended result, _ => ([], result)
  | stopped p, _ => ([], .ok { p with receiversClosed := true })

variable {x : Extraction τ ρ} {group : String} {window : Window} {w : τ} {budget fetched : Nat}
  {p : Progress} {phase : Phase ρ} {sent rest : List ρ} {r : ρ}

/-! ## One turn -/

/-- The ways in which an extraction goes on from `fetching`. -/
theorem turn_fetching_cases (x : Extraction τ ρ) (group : String) (window : Window)
    (budget : Nat) (p : Progress) (w : τ) :
    (∃ result w', (fetching budget p).turn x group window w = (ended result, w') ∧
        (x.readPages (pure true) group window budget p w).1 = ⟨result, [], []⟩) ∨
      ∃ less rows safe w', budget = less + 1 ∧ p.cursor window.since < window.upTo ∧
        x.source.fetch (x.nextFetch group window p) w = (.ok rows, w') ∧
        safeRows x.limit (p.pages + 1) p.lastAt rows = .ok safe ∧
        (fetching budget p).turn x group window w = (sending less p rows.length [] safe, w') := by
  by_cases hlt : p.cursor window.since < window.upTo
  swap
  · refine .inl ⟨.ok p, w, ?_, by rw [readPages_of_not_lt hlt]⟩
    simp only [turn, if_neg hlt]
    rfl
  rcases budget with _ | budget
  · exact .inl ⟨_, w, by rw [turn, if_pos hlt]; rfl, by rw [readPages_zero hlt]⟩
  rcases hfetch : x.source.fetch (x.nextFetch group window p) w with ⟨fault | rows, w'⟩
  · refine .inl ⟨.error fault, w', ?_, by rw [readPages_of_fault hlt hfetch]⟩
    simp only [turn, if_pos hlt, bind, StateT.bind, hfetch]
    rfl
  rcases hsafe : safeRows x.limit (p.pages + 1) p.lastAt rows with e | safe
  · refine .inl ⟨.error (.error e), w', ?_, by rw [readPages_of_safeRows_error hlt hfetch hsafe]⟩
    simp only [turn, if_pos hlt, bind, StateT.bind, hfetch, hsafe]
    rfl
  · refine .inr ⟨budget, rows, safe, w', rfl, hlt, rfl, hsafe, ?_⟩
    simp only [turn, if_pos hlt, bind, StateT.bind, hfetch, hsafe]
    rfl

theorem turn_sending_nil : (sending budget p fetched sent []).turn x group window w
    = (if fetched < x.limit then ended (.ok (p.extend sent))
        else fetching budget (p.extend sent), w) := rfl

/-- A turn does nothing to the world beside fetching. -/
theorem turn_keeps {J : τ → Prop} (hfetch : ∀ f w, J w → J (x.source.fetch f w).2)
    (phase : Phase ρ) (hw : J w) : J (phase.turn x group window w).2 := by
  cases phase with
  | fetching budget p =>
    by_cases hlt : p.cursor window.since < window.upTo
    swap
    · simp only [turn, if_neg hlt]
      exact hw
    rcases budget with _ | budget
    · simp only [turn, if_pos hlt]
      exact hw
    have hnext := hfetch (x.nextFetch group window p) w hw
    rcases hf : x.source.fetch (x.nextFetch group window p) w with ⟨fault | rows, w'⟩ <;>
      rw [hf] at hnext
    · simp only [turn, if_pos hlt, bind, StateT.bind, hf]
      exact hnext
    · simp only [turn, if_pos hlt, bind, StateT.bind, hf]
      cases safeRows x.limit (p.pages + 1) p.lastAt rows <;> exact hnext
  | sending budget p fetched sent rest =>
    cases rest with
    | nil => exact hw
    | cons r rest => exact hw
  | ended result => exact hw
  | stopped p => exact hw

theorem turn_of_result? (h : phase.result? ≠ none) : phase.turn x group window w = (phase, w) := by
  cases phase with
  | fetching budget p => exact absurd rfl h
  | sending budget p fetched sent rest => exact absurd rfl h
  | ended result => rfl
  | stopped p => rfl

/-- A turn does not make an extraction stop. -/
theorem eq_stopped_of_turn {q : Progress}
    (h : (phase.turn x group window w).1 = stopped q) : phase = stopped q := by
  cases phase with
  | fetching budget p =>
    rcases turn_fetching_cases x group window budget p w with
      ⟨result, w', hturn, -⟩ | ⟨less, rows, safe, w', -, -, -, -, hturn⟩ <;>
      rw [hturn] at h <;> cases h
  | sending budget p fetched sent rest =>
    cases rest with
    | nil =>
      rw [turn_sending_nil] at h
      split_ifs at h
    | cons r rest => exact h
  | ended result => exact h
  | stopped p => exact h

/-- **A turn keeps the outlook.** -/
theorem outlook_turn (phase : Phase ρ) (w : τ) :
    (phase.turn x group window w).1.outlook x group window (phase.turn x group window w).2
      = phase.outlook x group window w := by
  cases phase with
  | fetching budget p =>
    rcases turn_fetching_cases x group window budget p w with
      ⟨result, w', hturn, hread⟩ | ⟨less, rows, safe, w', rfl, hlt, hfetch, hsafe, hturn⟩
    · rw [hturn]
      simp only [outlook, hread]
    · rw [hturn]
      simp only [outlook, readPages_of_page hlt hfetch hsafe (send_open _ _), List.nil_append]
      split_ifs <;> rfl
  | sending budget p fetched sent rest =>
    cases rest with
    | nil =>
      rw [turn_sending_nil]
      simp only [outlook, List.append_nil, List.nil_append]
      split_ifs <;> rfl
    | cons r rest => rfl
  | ended result => rfl
  | stopped p => rfl

/-- **A row that is sent** is the first of the outlook. -/
theorem outlook_sending :
    (sending budget p fetched sent (r :: rest)).outlook x group window w
      = (r :: ((sending budget p fetched (sent ++ [r]) rest).outlook x group window w).1,
        ((sending budget p fetched (sent ++ [r]) rest).outlook x group window w).2) := by
  simp only [outlook, List.append_assoc, List.singleton_append]
  split_ifs <;> rfl

/-! ## The number of turns -/

/-- The pages that are left and the rows at hand. -/
def rank : Phase ρ → Nat ×ₗ Nat
  | fetching budget _ => toLex (2 * budget + 1, 0)
  | sending budget _ _ _ rest => toLex (2 * budget + 2, rest.length)
  | ended _ => toLex (0, 0)
  | stopped _ => toLex (0, 0)

/-- **A turn brings the end nearer.** -/
theorem rank_lt_of_turn {next : Phase ρ} {w' : τ} (hend : phase.result? = none)
    (hrest : phase.rest = []) (hturn : phase.turn x group window w = (next, w')) :
    next.rank < phase.rank := by
  cases phase with
  | fetching budget p =>
    rcases turn_fetching_cases x group window budget p w with
      ⟨result, _, heq, -⟩ | ⟨less, rows, safe, _, rfl, -, -, -, heq⟩
    · obtain ⟨rfl, -⟩ := Prod.mk.inj (heq.symm.trans hturn)
      exact Prod.Lex.toLex_lt_toLex.mpr (.inl (Nat.succ_pos _))
    · obtain ⟨rfl, -⟩ := Prod.mk.inj (heq.symm.trans hturn)
      refine Prod.Lex.toLex_lt_toLex.mpr (.inl ?_)
      change 2 * less + 2 < 2 * (less + 1) + 1
      omega
  | sending budget p fetched sent rest =>
    obtain rfl : rest = [] := hrest
    obtain ⟨rfl, -⟩ := Prod.mk.inj (turn_sending_nil.symm.trans hturn)
    split_ifs
    · exact Prod.Lex.toLex_lt_toLex.mpr (.inl (Nat.succ_pos _))
    · exact Prod.Lex.toLex_lt_toLex.mpr (.inl (Nat.lt_succ_self _))
  | ended result => cases hend
  | stopped p => cases hend

end Phase

/-! ## A source that keeps its promise -/

variable [Timed ρ]

/-- A page holds no more rows than were asked for, in order of time and all of the window. -/
def Promises (source : PageSource τ ρ) : Prop :=
  ∀ f w rows w', source.fetch f w = (.ok rows, w') →
    rows.length ≤ f.limit ∧ Ascending rows ∧ ∀ r ∈ rows, f.window.contains (time r)

/-- A source that answers from an ascending table keeps its promise. -/
theorem promises_ofTable (name : String) {table : List ρ} (asc : Ascending table)
    (fails : List Fetch → Option Fault) : Promises (.ofTable name table fails) := by
  intro f made rows made' h
  obtain ⟨hanswer, -⟩ := Prod.mk.inj h
  split at hanswer
  · cases hanswer
  obtain rfl := Except.ok.inj hanswer
  refine ⟨List.length_take_le _ _, (asc.filter _).sublist (List.take_sublist _ _), ?_⟩
  intro r hr
  exact (List.mem_filter.mp (List.mem_of_mem_take hr)).2

/-- What may be sent of a page is a part of it. -/
theorem safeRows_sublist {limit page : Nat} {lastAt : Option Instant} {rows safe : List ρ}
    (h : safeRows limit page lastAt rows = .ok safe) : safe.Sublist rows := by
  have hbefore : (beforeLast rows).Sublist rows := by
    rw [beforeLast]
    split
    · exact List.nil_sublist _
    · exact List.takeWhile_sublist _
  rw [safeRows] at h
  split at h
  · cases h
  split at h
  · rw [← Except.ok.inj h]
  · split at h
    · cases h
    · rw [← Except.ok.inj h]
      exact hbefore

/-- Nothing is sent that is later than the window. -/
theorem readPages_sent_le {x : Extraction τ ρ} (hx : Promises x.source) (group : String)
    (window : Window) (budget : Nat) (p : Progress) (w : τ) :
    ∀ r ∈ (x.readPages (pure true) group window budget p w).1.sent, time r ≤ window.upTo := by
  induction budget generalizing p w with
  | zero =>
    rcases Phase.turn_fetching_cases x group window 0 p w with
      ⟨result, w', -, hread⟩ | ⟨less, rows, safe, w', hless, -⟩
    · rw [hread]
      exact fun r hr => absurd hr List.not_mem_nil
    · cases hless
  | succ budget ih =>
    rcases Phase.turn_fetching_cases x group window (budget + 1) p w with
      ⟨result, w', -, hread⟩ | ⟨less, rows, safe, w', -, hlt, hfetch, hsafe, -⟩
    · rw [hread]
      exact fun r hr => absurd hr List.not_mem_nil
    have hin : ∀ r ∈ safe, time r ≤ window.upTo := by
      intro r hr
      have hmem := (hx _ _ _ _ hfetch).2.2 r ((safeRows_sublist hsafe).subset hr)
      simp only [Window.contains, Bool.and_eq_true, decide_eq_true_eq] at hmem
      exact hmem.2
    rw [readPages_of_page hlt hfetch hsafe (send_open _ _)]
    dsimp only
    split_ifs
    · exact hin
    · intro r hr
      rcases List.mem_append.mp hr with hr | hr
      · exact hin r hr
      · exact ih _ _ r hr

end Extraction

end Ingest
