import Ingest.Proofs.Concurrent.Assembly
import Ingest.Proofs.FanOut.Bounds
import Ingest.Proofs.FanOut.Flow
import Mathlib.Algebra.Order.BigOperators.Group.Finset

/-!
# Proofs/Concurrent/Progress — an assembly comes to its end

A move changes nothing, or it leaves less to do (`rank`): pages and rows of the extraction, what is
on its way to the loaders, what these have to do with it, calls that are owed, and turns at the
channel. As long as not everything is done and no part panicked, some move changes something. Main
statement: `Fair.finishes` — a schedule that neglects nobody for ever comes to the end.
-/

namespace Ingest

namespace Assembly

open Finset

variable {τ σ ρ : Type} [Timed ρ] {a : Assembly τ σ ρ} {e : Execution} {source : τ}
  {sinks : Nat → σ} {s s' : State τ σ ρ} {k : Nat}

/-! ## What is left to do -/

/-- The steps that the loaders have left, if they read nothing but what is kept. -/
def tasks (a : Assembly τ σ ρ) (s : State τ σ ρ) : Nat :=
  ∑ k ∈ range a.sinks.length, (s.loaders k).tasks (s.traffic.hub.unread k)

/-- How often the consumers can still turn to the channel and away from it. -/
def patience (a : Assembly τ σ ρ) (s : State τ σ ρ) : Nat :=
  ∑ k ∈ range a.sinks.length, s.traffic.patience k

/-- What is left to do. -/
def rank (a : Assembly τ σ ρ) (s : State τ σ ρ) : (Nat ×ₗ Nat) ×ₗ Nat ×ₗ Nat ×ₗ Nat ×ₗ Nat :=
  toLex (s.extraction.rank, toLex (s.traffic.hub.flow,
    toLex (tasks a s, toLex (s.traffic.due, patience a s))))

omit [Timed ρ] in
/-- What the extraction has to do counts before everything else. -/
theorem rank_lt_of_extraction (h : s'.extraction.rank < s.extraction.rank) :
    rank a s' < rank a s :=
  Prod.Lex.toLex_lt_toLex.mpr (.inl h)

section Rank

variable (hextraction : s'.extraction = s.extraction)

include hextraction

omit [Timed ρ] in
/-- What is on its way to the loaders counts before what they have to do. -/
theorem rank_lt_of_flow (h : s'.traffic.hub.flow < s.traffic.hub.flow) : rank a s' < rank a s := by
  simp only [rank, Prod.Lex.toLex_lt_toLex, hextraction]
  exact .inr ⟨trivial, .inl h⟩

variable (hflow : s'.traffic.hub.flow = s.traffic.hub.flow)

include hflow

omit [Timed ρ] in
/-- What the loaders have to do counts before the calls that are owed. -/
theorem rank_lt_of_tasks (h : tasks a s' < tasks a s) : rank a s' < rank a s := by
  simp only [rank, Prod.Lex.toLex_lt_toLex, hextraction, hflow]
  exact .inr ⟨trivial, .inr ⟨trivial, .inl h⟩⟩

variable (htasks : tasks a s' = tasks a s)

include htasks

omit [Timed ρ] in
/-- The calls that are owed count before the turns at the channel. -/
theorem rank_lt_of_due (h : s'.traffic.due < s.traffic.due) : rank a s' < rank a s := by
  simp only [rank, Prod.Lex.toLex_lt_toLex, hextraction, hflow, htasks]
  exact .inr ⟨trivial, .inr ⟨trivial, .inr ⟨trivial, .inl h⟩⟩⟩

omit [Timed ρ] in
/-- The turns at the channel count last. -/
theorem rank_lt_of_patience (hdue : s'.traffic.due = s.traffic.due)
    (h : patience a s' < patience a s) : rank a s' < rank a s := by
  simp only [rank, Prod.Lex.toLex_lt_toLex, hextraction, hflow, htasks, hdue]
  exact .inr ⟨trivial, .inr ⟨trivial, .inr ⟨trivial, .inr ⟨trivial, h⟩⟩⟩⟩

end Rank

/-- One term gets less, and the others stay the same. -/
theorem sum_range_lt {n : Nat} {f g : Nat → Nat} (hk : k < n) (hlt : f k < g k)
    (hsame : ∀ j ≠ k, f j = g j) : ∑ j ∈ range n, f j < ∑ j ∈ range n, g j := by
  refine sum_lt_sum (fun j _ => ?_) ⟨k, mem_range.mpr hk, hlt⟩
  by_cases hjk : j = k
  · exact hjk ▸ hlt.le
  · exact (hsame j hjk).le

/-! ## Moves leave less to do -/

namespace Sound

variable (h : Sound a e source sinks s)

include h

theorem look_rank_lt (hreads : (s.loaders k).Reads) (hready : s.traffic.stance k = .ready)
    (hlive : s.traffic.hub.cursor? k ≠ none) : rank a { s with
      traffic := s.traffic.step (.look k)
      loaders := Function.update s.loaders k ((s.loaders k).found (s.traffic.hub.read k).1) }
        < rank a s := by
  have hk := h.lt_of_live hlive
  by_cases hitem : ∃ r, (s.traffic.hub.read k).1 = .item r
  · obtain ⟨r, hread⟩ := hitem
    have hhub := FanOut.Traffic.step_look_hub hready hlive
    obtain ⟨hself, hothers⟩ := h.traffic.keeps.read_unread hread hlive
    refine rank_lt_of_tasks rfl (by rw [hhub, FanOut.read_flow]) (sum_range_lt hk ?_ ?_)
    · simp only [Function.update_self, hhub, hread, hself]
      exact Loading.Phase.tasks_found_item_lt hreads _
    · intro j hjk
      simp only [Function.update_of_ne hjk, hhub, hothers j hjk]
  rw [not_exists] at hitem
  rw [h.traffic.step_look_of_not_item hready hlive hitem]
  by_cases hended : (s.traffic.hub.read k).1 = .ended
  · rw [hended]
    refine rank_lt_of_tasks rfl rfl (sum_range_lt hk ?_ ?_)
    · simp only [Function.update_self]
      exact Loading.Phase.tasks_found_ended_lt hreads _
    · intro j hjk
      simp only [Function.update_of_ne hjk]
      rfl
  · rw [hreads.found_of_ne hitem hended, Function.update_eq_self]
    refine rank_lt_of_patience rfl (by rw [FanOut.Traffic.found_hub]) ?_ ?_ (sum_range_lt hk ?_ ?_)
    · simp only [tasks, FanOut.Traffic.found_hub]
    · exact FanOut.Traffic.found_due _ _ _
    · exact h.traffic.found_patience_lt hready hitem hended
    · exact fun j hjk => FanOut.Traffic.found_patience hitem hjk

theorem claim_rank_lt (hpulling : s.traffic.stance k = .pulling)
    (hfree : s.traffic.hub.holder = none) :
    rank a { s with traffic := s.traffic.step (.claim k) } < rank a s := by
  have hk := h.lt_of_pulling hpulling
  have hhub := FanOut.Traffic.step_claim_hub s.traffic k
  refine rank_lt_of_patience rfl ?_ ?_ (FanOut.Traffic.step_claim_due _ _) (sum_range_lt hk ?_ ?_)
  · change (s.traffic.step (.claim k)).hub.flow = _
    rcases hhub with heq | heq <;> rw [heq]
    exact FanOut.claim_flow _ _
  · simp only [tasks]
    rcases hhub with heq | heq <;> rw [heq]
    simp only [FanOut.claim_unread]
  · exact FanOut.Traffic.claim_patience_lt hpulling hfree
  · exact fun j hjk => FanOut.Traffic.claim_patience hpulling hfree hjk

theorem append_rank_lt (harrived : s.traffic.hub.arrived ≠ none) :
    rank a { s with traffic := s.traffic.step .append } < rank a s := by
  obtain ⟨given, hgiven⟩ := Option.ne_none_iff_exists'.mp harrived
  obtain ⟨i, hi⟩ := h.traffic.keeps.exists_holder hgiven
  refine rank_lt_of_flow rfl ?_
  simp only [FanOut.Traffic.step, hi, if_neg harrived]
  exact h.traffic.keeps.append_flow_lt harrived

theorem leave_rank_lt {st : Loading.State ρ} {ending : Loading.Ending}
    (hphase : s.loaders k = .leaving st ending) : rank a { s with
      traffic := s.traffic.step (.drop k)
      loaders := Function.update s.loaders k (.closing st ending) } < rank a s := by
  have hnot : ¬(s.loaders k).Reads := by simp [hphase, Loading.Phase.Reads]
  have hk := h.lt_of_not_reads hnot
  have hlive : s.traffic.hub.cursor? k ≠ none := (h.present k).mpr ⟨hk, hphase ▸ trivial⟩
  have hbusy := h.traffic.not_busy (h.ready_of_not_reads hnot)
  have hdrop : (s.traffic.step (.drop k)).hub = s.traffic.hub.drop k := by
    simp only [FanOut.Traffic.step, if_neg (not_or.mpr ⟨hlive, hbusy⟩)]
  refine rank_lt_of_tasks rfl (by rw [hdrop, FanOut.drop_flow]) (sum_range_lt hk ?_ ?_)
  · simp only [Function.update_self, hphase]
    exact Nat.one_lt_two
  · intro j hjk
    simp only [Function.update_of_ne hjk, hdrop, FanOut.drop_unread hjk]

/-- An extraction at its end goes no further. -/
theorem turn_eq {phase : Extraction.Phase ρ} {world : τ} (hend : s.extraction.result? ≠ none)
    (hturn : s.extraction.turn a.extraction e.group e.window s.source = (phase, world)) :
    { s with
      traffic := if phase.result?.isSome then s.traffic.step .close else s.traffic
      extraction := phase
      source := world } = s := by
  rw [Extraction.Phase.turn_of_result? hend] at hturn
  obtain ⟨rfl, rfl⟩ := Prod.mk.inj hturn
  have hclosed : s.traffic.step .close = s.traffic := by
    have hhub : s.traffic.hub.close = s.traffic.hub := by
      rw [FanOut.close, ← h.closed.mpr hend]
    simp only [FanOut.Traffic.step, hhub]
  simp only [hclosed, ite_self]

end Sound

omit [Timed ρ] in
theorem announce_rank_lt (hdue : s.traffic.due ≠ 0) :
    rank a { s with traffic := s.traffic.step .announce } < rank a s := by
  simp only [FanOut.Traffic.step, if_neg hdue]
  exact rank_lt_of_due rfl rfl rfl (by simp only; omega)

theorem work_rank_lt {sink : Sink σ ρ} (hsink : a.sinks[k]? = some sink)
    (hworks : (s.loaders k).Works) {phase : Loading.Phase ρ} {world : σ}
    (hwork : (s.loaders k).work sink e (s.sinks k) = (phase, world)) : rank a { s with
      loaders := Function.update s.loaders k phase
      sinks := Function.update s.sinks k world } < rank a s := by
  obtain rfl : ((s.loaders k).work sink e (s.sinks k)).1 = phase := congrArg Prod.fst hwork
  refine rank_lt_of_tasks rfl rfl (sum_range_lt (List.getElem?_eq_some_iff.mp hsink).1 ?_ ?_)
  · simp only [Function.update_self]
    exact Loading.Phase.tasks_work_lt hworks _ _
  · intro j hjk
    simp only [Function.update_of_ne hjk]

/-- **A move that can be made leaves less to do**, unless a part panicked, and any other leads
nowhere. -/
theorem Sound.step_cases (h : Sound a e source sinks s) (m : Move) :
    (panic? a s = none → ¬Able a s m) ∧ Assembly.step a e s m = s ∨
      rank a (Assembly.step a e s m) < rank a s := by
  have heffect := step_effect a e s m
  generalize Assembly.step a e s m = s' at heffect ⊢
  cases heffect with
  | idle hnot => exact .inl ⟨hnot, rfl⟩
  | stop hphase =>
    refine .inr (rank_lt_of_extraction ?_)
    rw [hphase]
    exact Prod.Lex.toLex_lt_toLex.mpr (.inl (Nat.succ_pos _))
  | send hphase =>
    refine .inr (rank_lt_of_extraction ?_)
    rw [hphase]
    exact Prod.Lex.toLex_lt_toLex.mpr (.inr ⟨rfl, Nat.lt_succ_self _⟩)
  | turn hrest hturn =>
    by_cases hend : s.extraction.result? = none
    · exact .inr (rank_lt_of_extraction (Extraction.Phase.rank_lt_of_turn hend hrest hturn))
    · exact .inl ⟨fun _ hable => hend hable.1, h.turn_eq hend hturn⟩
  | look hreads hready hlive => exact .inr (h.look_rank_lt hreads hready hlive)
  | claim hpulling hfree => exact .inr (h.claim_rank_lt hpulling hfree)
  | receive hholder harrived hsome =>
    exact .inr (rank_lt_of_flow rfl (h.traffic.keeps.receive_flow_lt hholder harrived hsome))
  | append harrived => exact .inr (h.append_rank_lt harrived)
  | announce hdue => exact .inr (announce_rank_lt hdue)
  | work hsink hworks hwork => exact .inr (work_rank_lt hsink hworks hwork)
  | leave hphase => exact .inr (h.leave_rank_lt hphase)

/-! ## Something is possible until everything is done -/

/-- A move leads somewhere. -/
def Possible (a : Assembly τ σ ρ) (e : Execution) (s : State τ σ ρ) (m : Move) : Prop :=
  step a e s m ≠ s

/-- The extraction and all loaders are at their end. -/
def AtEnd (a : Assembly τ σ ρ) (s : State τ σ ρ) : Prop :=
  s.extraction.result? ≠ none ∧ ∀ k < a.sinks.length, ∃ outcome, s.loaders k = .done outcome

/-- All parts are at their end, unless one of them panicked. -/
def Finished (a : Assembly τ σ ρ) (s : State τ σ ρ) : Prop := panic? a s = none → AtEnd a s

namespace Sound

/-- A move that can be made is possible, unless a part panicked. -/
theorem possible_of_able (h : Sound a e source sinks s) (hpanic : panic? a s = none) {m : Move}
    (hable : Able a s m) : Possible a e s m := by
  intro heq
  rcases h.step_cases m with ⟨hnot, -⟩ | hlt
  · exact hnot hpanic hable
  · exact hlt.ne (congrArg (rank a) heq)

omit [Timed ρ] in
/-- A loader that is not at its end can go on, unless it waits for a row. -/
theorem reads_or_done (hnone : ∀ m, ¬Able a s m) (hk : k < a.sinks.length) :
    (s.loaders k).Reads ∨ ∃ outcome, s.loaders k = .done outcome := by
  rcases (s.loaders k).cases_of_phase with hreads | hworks | hleaving | hdone
  · exact .inl hreads
  · exact absurd ⟨hk, hworks⟩ (hnone (.work k))
  · exact absurd hleaving (hnone (.leave k))
  · exact .inr hdone

/-- A loader that has a consumer is not the last to do something. -/
theorem exists_able_of_live (h : Sound a e source sinks s)
    (hcapacity : 0 < s.traffic.hub.capacity) (hretention : 0 < s.traffic.hub.retention)
    (hlive : s.traffic.hub.cursor? k ≠ none) : ∃ m, Able a s m := by
  by_contra hnone
  rw [not_exists] at hnone
  have hdue : s.traffic.due = 0 := not_not.mp (hnone .announce)
  have harrived : s.traffic.hub.arrived = none := not_not.mp (hnone .append)
  -- the slowest loader is not suspended, so it wants the channel, and somebody holds that
  obtain ⟨j, hj, hawake⟩ := h.traffic.exists_not_suspended hretention hlive
  have hreads : (s.loaders j).Reads := by
    rcases reads_or_done hnone (h.lt_of_live hj) with hreads | ⟨outcome, hdone⟩
    · exact hreads
    · exact absurd ((h.present j).mp hj).2 (by rw [hdone]; exact id)
  have hholder : ∃ i, s.traffic.hub.holder = some i := by
    rw [← Option.ne_none_iff_exists']
    intro hfree
    cases hstance : s.traffic.stance j with
    | ready => exact hnone (.look j) ⟨hreads, hstance, hj⟩
    | parked => exact hawake ⟨hj, .inr ⟨hstance, hdue⟩⟩
    | pulling => exact hnone (.claim j) ⟨hstance, hfree⟩
  -- nothing comes through the channel, so the extraction can go on
  have hwait : s.traffic.hub.channel = [] ∧ s.traffic.hub.closed ≠ true := by
    rw [← not_ne_iff, ← not_or]
    exact fun hsome => hnone .receive ⟨hholder, harrived, hsome⟩
  have hend : s.extraction.result? = none := not_not.mp (hwait.2 ∘ h.closed.mpr)
  refine hnone .extract ⟨hend, fun r _ hfull => ?_⟩
  have hlength := (FanOut.send_eq_full hfull).2
  rw [hwait.1, List.length_nil] at hlength
  omega

/-- **As long as not everything is done some move leads somewhere.** -/
theorem exists_possible (h : Sound a e source sinks s)
    (hcapacity : 0 < s.traffic.hub.capacity) (hretention : 0 < s.traffic.hub.retention)
    (hgo : ¬Finished a s) : ∃ m, Possible a e s m := by
  obtain ⟨hpanic, hgo⟩ := Classical.not_imp.mp hgo
  by_cases hlive : ∃ k, s.traffic.hub.cursor? k ≠ none
  · obtain ⟨k, hk⟩ := hlive
    obtain ⟨m, hm⟩ := h.exists_able_of_live hcapacity hretention hk
    exact ⟨m, h.possible_of_able hpanic hm⟩
  simp only [not_exists, not_not] at hlive
  by_contra hnone
  rw [not_exists] at hnone
  replace hnone : ∀ m, ¬Able a s m := fun m hm => hnone m (h.possible_of_able hpanic hm)
  refine hgo ⟨fun hend => hnone .extract ⟨hend, fun r _ hfull => ?_⟩, fun k hk => ?_⟩
  · exact (FanOut.send_eq_full hfull).1 (FanOut.slowest?_eq_none_iff.mpr hlive)
  · refine (reads_or_done hnone hk).resolve_left fun ⟨st, hphase⟩ => ?_
    exact (h.present k).mpr ⟨hk, hphase ▸ trivial⟩ (hlive k)

end Sound

/-! ## Schedules -/

/-- What a move does to the channel is nothing, or what one of its users does. -/
theorem step_traffic (s : State τ σ ρ) (m : Move) : (step a e s m).traffic = s.traffic ∨
    ∃ action, (step a e s m).traffic = s.traffic.step action := by
  have heffect := step_effect a e s m
  generalize step a e s m = s' at heffect ⊢
  cases heffect with
  | idle => exact .inl rfl
  | stop => exact .inr ⟨.close, rfl⟩
  | send => exact .inr ⟨.send _, rfl⟩
  | turn =>
    dsimp only
    split_ifs
    · exact .inr ⟨.close, rfl⟩
    · exact .inl rfl
  | look => exact .inr ⟨.look _, rfl⟩
  | claim => exact .inr ⟨.claim _, rfl⟩
  | receive => exact .inr ⟨.receive, rfl⟩
  | append => exact .inr ⟨.append, rfl⟩
  | announce => exact .inr ⟨.announce, rfl⟩
  | work => exact .inl rfl
  | leave => exact .inr ⟨.drop _, rfl⟩

/-- No move changes the sizes of the channel. -/
theorem run_sizes (s : State τ σ ρ) (moves : List Move) :
    (run a e s moves).traffic.hub.sizes = s.traffic.hub.sizes := by
  induction moves generalizing s with
  | nil => rfl
  | cons m moves ih =>
    refine (ih (step a e s m)).trans ?_
    rcases step_traffic s m with heq | ⟨action, heq⟩ <;> rw [heq]
    exact FanOut.Traffic.step_sizes _ _

/-- What the first moves of a schedule lead to. -/
def after (a : Assembly τ σ ρ) (e : Execution) (s : State τ σ ρ) (schedule : Nat → Move) (i : Nat) :
    State τ σ ρ :=
  run a e s ((List.range i).map schedule)

theorem after_succ (schedule : Nat → Move) (i : Nat) :
    after a e s schedule (i + 1) = step a e (after a e s schedule i) (schedule i) := by
  simp only [after, run, List.range_succ, List.map_append, List.foldl_append, List.map_singleton,
    List.foldl_cons, List.foldl_nil]

/-- A schedule is fair if it does not neglect a move for ever that would always lead somewhere. -/
def Fair (a : Assembly τ σ ρ) (e : Execution) (s : State τ σ ρ) (schedule : Nat → Move) : Prop :=
  ∀ m i, (∀ j ≥ i, Possible a e (after a e s schedule j) m) → ∃ j ≥ i, schedule j = m

namespace Fair

variable {schedule : Nat → Move} {i : Nat}

/-- **A fair schedule leaves less and less to do** as long as something is possible. -/
theorem exists_rank_lt (h : Fair a e s schedule) (hs : Sound a e source sinks s)
    (hgo : ∃ m, Possible a e (after a e s schedule i) m) :
    ∃ j, rank a (after a e s schedule j) < rank a (after a e s schedule i) := by
  obtain ⟨m, hm⟩ := hgo
  by_contra hno
  rw [not_exists] at hno
  -- otherwise nothing changes any more, and the move that is possible stays so
  have hstill : ∀ j ≥ i, after a e s schedule j = after a e s schedule i := by
    intro j hj
    induction j, hj using Nat.le_induction with
    | base => rfl
    | succ j hj ih =>
      rcases (hs.run ((List.range j).map schedule)).step_cases (schedule j) with ⟨-, heq⟩ | hlt
      · rw [after_succ]
        exact heq.trans ih
      · refine absurd ?_ (hno (j + 1))
        rw [after_succ, ← ih]
        exact hlt
  obtain ⟨j, hj, rfl⟩ := h m i fun j hj => (hstill j hj).symm ▸ hm
  have hnext := hstill (j + 1) (by omega)
  rw [after_succ, hstill j hj] at hnext
  exact hm hnext

/-- **A fair schedule comes to the end.** -/
theorem finishes (h : Fair a e s schedule) (hs : Sound a e source sinks s)
    (hcapacity : 0 < s.traffic.hub.capacity) (hretention : 0 < s.traffic.hub.retention) :
    ∃ i, Finished a (after a e s schedule i) := by
  by_contra hnever
  rw [not_exists] at hnever
  let left (i : Nat) := rank a (after a e s schedule i)
  have hless : ∀ i, ∃ j, left j < left i := by
    intro i
    have hsizes := run_sizes (a := a) (e := e) s ((List.range i).map schedule)
    obtain ⟨hsame, hsame'⟩ := Prod.mk.inj hsizes
    refine h.exists_rank_lt hs ((hs.run _).exists_possible ?_ ?_ (hnever i))
    · rwa [hsame]
    · rwa [hsame']
  obtain ⟨j, hj⟩ := hless (Function.argmin left)
  exact Function.not_lt_argmin left j hj

end Fair

/-! ## Taking turns -/

/-- The moves of an assembly of `n` loaders. -/
def allMoves (n : Nat) : List Move :=
  [.extract, .receive, .append, .announce] ++
    (List.range n).flatMap fun k => [.look k, .claim k, .work k, .leave k]

/-- Everybody takes turns. -/
def turns (n i : Nat) : Move := (allMoves n).getD (i % (allMoves n).length) .extract

theorem mem_allMoves {n : Nat} (hk : k < n) {m : Move}
    (hm : m ∈ [Move.look k, .claim k, .work k, .leave k]) : m ∈ allMoves n :=
  List.mem_append_right _ (List.mem_flatMap.mpr ⟨k, List.mem_range.mpr hk, hm⟩)

/-- Nobody else can do anything. -/
theorem Sound.mem_allMoves_of_possible (h : Sound a e source sinks s) {m : Move}
    (hm : Possible a e s m) : m ∈ allMoves a.sinks.length := by
  have heffect := step_effect a e s m
  rw [Possible] at hm
  generalize Assembly.step a e s m = s' at heffect hm
  cases heffect with
  | idle => exact absurd rfl hm
  | look hreads hready hlive => exact mem_allMoves (h.lt_of_live hlive) (by simp)
  | claim hpulling => exact mem_allMoves (h.lt_of_pulling hpulling) (by simp)
  | work hsink => exact mem_allMoves (List.getElem?_eq_some_iff.mp hsink).1 (by simp)
  | @leave k st ending hphase =>
    have hnot : ¬(s.loaders k).Reads := by simp [hphase, Loading.Phase.Reads]
    exact mem_allMoves (h.lt_of_not_reads hnot) (by simp)
  | stop => simp [allMoves]
  | send => simp [allMoves]
  | turn => simp [allMoves]
  | receive => simp [allMoves]
  | append => simp [allMoves]
  | announce => simp [allMoves]

/-- **To take turns is fair.** -/
theorem Sound.fair_turns (h : Sound a e source sinks s) : Fair a e s (turns a.sinks.length) := by
  intro m i hm
  obtain ⟨q, hq, hget⟩ := List.getElem_of_mem ((h.run _).mem_allMoves_of_possible (hm i le_rfl))
  have hpos : 0 < (allMoves a.sinks.length).length := by omega
  refine ⟨i * (allMoves a.sinks.length).length + q, ?_, ?_⟩
  · exact (Nat.le_mul_of_pos_right i hpos).trans (Nat.le_add_right _ _)
  · rw [turns, Nat.mul_add_mod_of_lt hq, List.getD_eq_getElem?_getD, List.getElem?_eq_getElem hq,
      Option.getD_some, hget]

end Assembly

end Ingest
