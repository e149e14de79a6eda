import Ingest.Proofs.Concurrent.Extracting
import Ingest.Proofs.Concurrent.Loading
import Ingest.Proofs.FanOut.Delivery
import Ingest.Proofs.FanOut.Quiet

/-!
# Proofs/Concurrent/Assembly — a pipeline whose parts take turns

An extraction feeds a fan-out, and each of its consumers is read by a loader. The extraction, the
loaders and whoever owes the others a call act in any order (`Assembly.Move`), each in a world of
its own. They are polled together, so a part that panics takes the others with it: these are dropped
where they are, and no move leads anywhere any more (`Assembly.panic?`).

What holds all the time (`Assembly.Sound`): the rows that the channel took and those that the
extraction will still send are the rows of an extraction that nothing stops, and what a loader still
does with the rows that it has not received is what is left of a loader that is alone with them.
Main statement: `Assembly.run_sound`.
-/

namespace Ingest

/-- A pipeline at work: an extraction and loaders that are fed by it directly. -/
structure Assembly (τ σ ρ : Type) where
  /-- How the source is read. -/
  extraction : Extraction τ ρ
  /-- The sinks of the loaders. -/
  sinks : List (Sink σ ρ)

namespace Assembly

variable {τ σ ρ : Type}

/-- What an assembly is at between two moves. -/
structure State (τ σ ρ : Type) where
  /-- The channel and the consumers. -/
  traffic : FanOut.Traffic ρ
  /-- What the extraction does next. -/
  extraction : Extraction.Phase ρ
  /-- The world of the source. -/
  source : τ
  /-- What each loader does next. -/
  loaders : Nat → Loading.Phase ρ
  /-- The world of each sink. -/
  sinks : Nat → σ

/-- What some part of an assembly does. -/
inductive Move where
  /-- The extraction fetches a page, sends a row or ends. -/
  | extract
  /-- A loader looks for the next row. -/
  | look (k : Nat)
  /-- A loader takes hold of the channel, if it is still its turn. -/
  | claim (k : Nat)
  /-- The holder of the channel is given a row, or the end. -/
  | receive
  /-- The holder of the channel passes on what it was given. -/
  | append
  /-- A call that is owed is made. -/
  | announce
  /-- A loader handles a row that it received, or comes to its end. -/
  | work (k : Nat)
  /-- A loader reads no more and drops its consumer. -/
  | leave (k : Nat)
deriving DecidableEq

variable [Timed ρ]

/-- Nothing has happened yet. -/
def start (a : Assembly τ σ ρ) (e : Execution) (bufferSize : Nat) (source : τ) (sinks : Nat → σ) :
    State τ σ ρ where
  traffic := .start (max bufferSize 1) a.sinks.length bufferSize
  extraction := .fetching Extraction.maxPages {}
  source := source
  loaders _ := .reading { total := .started e.window.since }
  sinks := sinks

section Moves

variable (a : Assembly τ σ ρ) (e : Execution) (s : State τ σ ρ)

/-- The extraction goes on. It waits while the channel is full, stops if nobody receives, and closes
the channel at its end. -/
def extract : State τ σ ρ :=
  match s.extraction with
  | .sending budget p fetched sent (r :: rest) =>
    match (s.traffic.hub.send r).1 with
    | .sent =>
      { s with
        traffic := s.traffic.step (.send r)
        extraction := .sending budget p fetched (sent ++ [r]) rest }
    | .full => s
    | _ => { s with traffic := s.traffic.step .close, extraction := .stopped (p.extend sent) }
  | phase =>
    let (phase, source) := phase.turn a.extraction e.group e.window s.source
    { s with
      traffic := if phase.result?.isSome then s.traffic.step .close else s.traffic
      extraction := phase
      source := source }

/-- A loader looks for the next row, if it waits for one and may look. -/
def look (k : Nat) : State τ σ ρ :=
  match s.loaders k with
  | .reading _ =>
    if s.traffic.stance k = .ready ∧ s.traffic.hub.cursor? k ≠ none then
      { s with
        traffic := s.traffic.step (.look k)
        loaders := Function.update s.loaders k ((s.loaders k).found (s.traffic.hub.read k).1) }
    else s
  | _ => s

/-- A loader works by itself. -/
def work (k : Nat) : State τ σ ρ :=
  match a.sinks[k]? with
  | some sink =>
    let (phase, world) := (s.loaders k).work sink e (s.sinks k)
    { s with
      loaders := Function.update s.loaders k phase
      sinks := Function.update s.sinks k world }
  | none => s

/-- A loader that reads no more goes away. -/
def leave (k : Nat) : State τ σ ρ :=
  match s.loaders k with
  | .leaving _ _ =>
    { s with
      traffic := s.traffic.step (.drop k)
      loaders := Function.update s.loaders k (s.loaders k).leave }
  | _ => s

/-- What a move does, as long as no part panicked. A move that nobody can make does nothing. -/
def perform : Move → State τ σ ρ
  | .extract => extract a e s
  | .look k => look s k
  | .claim k => { s with traffic := s.traffic.step (.claim k) }
  | .receive => { s with traffic := s.traffic.step .receive }
  | .append => { s with traffic := s.traffic.step .append }
  | .announce => { s with traffic := s.traffic.step .announce }
  | .work k => work a e s k
  | .leave k => leave s k

omit [Timed ρ] in
/-- The panic of a part, the extraction first. -/
def panic? : Option Panic :=
  s.extraction.panic?.or ((List.range a.sinks.length).findSome? fun k => (s.loaders k).panic?)

/-- What a move leads to. Once a part panicked it leads nowhere. -/
def step (m : Move) : State τ σ ρ := if (panic? a s).isSome then s else perform a e s m

/-- What some moves lead to, one after the other. -/
def run (moves : List Move) : State τ σ ρ := moves.foldl (step a e) s

end Moves

/-! ## What a move leads to -/

omit [Timed ρ] in
/-- If the assembly panicked, its extraction did, or one of its loaders. -/
theorem panic?_eq_some {a : Assembly τ σ ρ} {s : State τ σ ρ} {p : Panic}
    (h : panic? a s = some p) : s.extraction = .ended (.error (.panic p)) ∨
      ∃ k < a.sinks.length, (s.loaders k).panic? = some p := by
  rcases Option.or_eq_some_iff.mp h with h | ⟨-, h⟩
  · exact .inl (Extraction.Phase.eq_ended_of_panic h)
  · obtain ⟨k, hk, hp⟩ := List.exists_of_findSome?_eq_some h
    exact .inr ⟨k, List.mem_range.mp hk, hp⟩

/-- Whether a move can be made, as long as no part panicked. -/
def Able (a : Assembly τ σ ρ) (s : State τ σ ρ) : Move → Prop
  | .extract => s.extraction.result? = none ∧
      ∀ r ∈ s.extraction.rest.head?, (s.traffic.hub.send r).1 ≠ .full
  | .look k => (s.loaders k).Reads ∧ s.traffic.stance k = .ready ∧ s.traffic.hub.cursor? k ≠ none
  | .claim k => s.traffic.stance k = .pulling ∧ s.traffic.hub.holder = none
  | .receive => (∃ k, s.traffic.hub.holder = some k) ∧ s.traffic.hub.arrived = none ∧
      (s.traffic.hub.channel ≠ [] ∨ s.traffic.hub.closed = true)
  | .append => s.traffic.hub.arrived ≠ none
  | .announce => s.traffic.due ≠ 0
  | .work k => k < a.sinks.length ∧ (s.loaders k).Works
  | .leave k => ∃ st ending, s.loaders k = .leaving st ending

/-- What a move leads to, and when. -/
inductive Effect (a : Assembly τ σ ρ) (e : Execution) (s : State τ σ ρ) :
    Move → State τ σ ρ → Prop where
  /-- The move cannot be made, or some part panicked. -/
  | idle {m : Move} (hnot : panic? a s = none → ¬Able a s m) : Effect a e s m s
  /-- The extraction stops, as nobody receives. -/
  | stop {budget p fetched sent r rest}
      (hphase : s.extraction = .sending budget p fetched sent (r :: rest))
      (hgone : s.traffic.hub.closed = true ∨ ∀ k, s.traffic.hub.cursor? k = none) :
      Effect a e s .extract { s with
        traffic := s.traffic.step .close
        extraction := .stopped (p.extend sent) }
  /-- The extraction sends a row. -/
  | send {budget p fetched sent r rest}
      (hphase : s.extraction = .sending budget p fetched sent (r :: rest))
      (hsend : s.traffic.hub.send r
        = (.sent, { s.traffic.hub with channel := s.traffic.hub.channel ++ [r] })) :
      Effect a e s .extract { s with
        traffic := s.traffic.step (.send r)
        extraction := .sending budget p fetched (sent ++ [r]) rest }
  /-- The extraction goes on without sending a row. -/
  | turn {phase : Extraction.Phase ρ} {world : τ} (hrest : s.extraction.rest = [])
      (hturn : s.extraction.turn a.extraction e.group e.window s.source = (phase, world)) :
      Effect a e s .extract { s with
        traffic := if phase.result?.isSome then s.traffic.step .close else s.traffic
        extraction := phase
        source := world }
  /-- A loader looks for the next row. -/
  | look {k : Nat} (hreads : (s.loaders k).Reads) (hready : s.traffic.stance k = .ready)
      (hlive : s.traffic.hub.cursor? k ≠ none) : Effect a e s (.look k) { s with
        traffic := s.traffic.step (.look k)
        loaders := Function.update s.loaders k ((s.loaders k).found (s.traffic.hub.read k).1) }
  /-- A loader claims the channel, which is free. -/
  | claim {k : Nat} (hpulling : s.traffic.stance k = .pulling)
      (hfree : s.traffic.hub.holder = none) :
      Effect a e s (.claim k) { s with traffic := s.traffic.step (.claim k) }
  /-- The holder of the channel is given something. -/
  | receive {k : Nat} (hholder : s.traffic.hub.holder = some k)
      (harrived : s.traffic.hub.arrived = none)
      (hsome : s.traffic.hub.channel ≠ [] ∨ s.traffic.hub.closed = true) :
      Effect a e s .receive { s with traffic := s.traffic.step .receive }
  /-- The holder of the channel passes on what it was given. -/
  | append (harrived : s.traffic.hub.arrived ≠ none) :
      Effect a e s .append { s with traffic := s.traffic.step .append }
  /-- A call that is owed is made. -/
  | announce (hdue : s.traffic.due ≠ 0) :
      Effect a e s .announce { s with traffic := s.traffic.step .announce }
  /-- A loader works by itself. -/
  | work {k : Nat} {sink : Sink σ ρ} {phase : Loading.Phase ρ} {world : σ}
      (hsink : a.sinks[k]? = some sink) (hworks : (s.loaders k).Works)
      (hwork : (s.loaders k).work sink e (s.sinks k) = (phase, world)) :
      Effect a e s (.work k) { s with
        loaders := Function.update s.loaders k phase
        sinks := Function.update s.sinks k world }
  /-- A loader goes away. -/
  | leave {k : Nat} {st : Loading.State ρ} {ending : Loading.Ending}
      (hphase : s.loaders k = .leaving st ending) : Effect a e s (.leave k) { s with
        traffic := s.traffic.step (.drop k)
        loaders := Function.update s.loaders k (.closing st ending) }

section Effect

variable (a : Assembly τ σ ρ) (e : Execution) (s : State τ σ ρ)

theorem extract_effect : Effect a e s .extract (extract a e s) := by
  simp only [extract]
  split
  · next budget p fetched sent r rest hphase =>
    rcases FanOut.Keeps.send_cases s.traffic.hub r with
      ⟨hclosed, heq⟩ | ⟨-, hnone, heq⟩ | ⟨-, -, -, heq⟩ | ⟨-, -, -, heq⟩ <;> simp only [heq]
    · exact .stop hphase (.inl hclosed)
    · exact .stop hphase (.inr (FanOut.slowest?_eq_none_iff.mp hnone))
    · refine .idle fun _ hable => hable.2 r ?_ (congrArg Prod.fst heq)
      rw [hphase]
      rfl
    · exact .send hphase heq
  · next hnot =>
    refine .turn ?_ rfl
    cases hphase : s.extraction with
    | sending budget p fetched sent rest =>
      cases rest with
      | nil => rfl
      | cons r rest => exact absurd hphase (hnot budget p fetched sent r rest)
    | fetching budget p => rfl
    | ended result => rfl
    | stopped p => rfl

theorem look_effect (k : Nat) : Effect a e s (.look k) (look s k) := by
  simp only [look]
  split
  · next st hphase =>
    split_ifs with hcan
    · exact .look ⟨st, hphase⟩ hcan.1 hcan.2
    · exact .idle fun _ hable => hcan hable.2
  · next hnot =>
    refine .idle fun _ hable => ?_
    obtain ⟨st, hphase⟩ := hable.1
    exact hnot st hphase

theorem receive_effect : Effect a e s .receive { s with traffic := s.traffic.step .receive } := by
  rcases FanOut.Keeps.receive_cases s.traffic.hub with
    heq | ⟨⟨i, hi⟩, harrived, ⟨x, rest, hchannel, -⟩ | ⟨-, hclosed, -⟩⟩
  · by_cases hable : Able a s .receive
    · obtain ⟨⟨i, hi⟩, harrived, hsome⟩ := hable
      exact .receive hi harrived hsome
    · simp only [FanOut.Traffic.step, heq]
      exact .idle fun _ => hable
  · exact .receive hi harrived (.inl (by simp [hchannel]))
  · exact .receive hi harrived (.inr hclosed)

theorem append_effect : Effect a e s .append { s with traffic := s.traffic.step .append } := by
  by_cases harrived : s.traffic.hub.arrived = none
  · have hsame : s.traffic.step .append = s.traffic := by
      simp only [FanOut.Traffic.step, harrived, if_true]
      split <;> rfl
    rw [hsame]
    exact .idle fun _ hable => hable harrived
  · exact .append harrived

theorem work_effect (k : Nat) : Effect a e s (.work k) (work a e s k) := by
  simp only [work]
  split
  · next sink hsink =>
    by_cases hworks : (s.loaders k).Works
    · exact .work hsink hworks rfl
    · rw [Loading.Phase.work_of_not_works hworks]
      simp only [Function.update_eq_self]
      exact .idle fun _ hable => hworks hable.2
  · next hnone =>
    exact .idle fun _ hable => absurd hable.1 (List.getElem?_eq_none_iff.mp hnone).not_gt

theorem leave_effect (k : Nat) : Effect a e s (.leave k) (leave s k) := by
  simp only [leave]
  split
  · next st ending hphase =>
    rw [hphase]
    exact .leave hphase
  · next hnot => exact .idle fun _ ⟨st, ending, hphase⟩ => hnot st ending hphase

/-- **Every move has one of these effects.** -/
theorem perform_effect (m : Move) : Effect a e s m (perform a e s m) := by
  cases m with
  | extract => exact extract_effect a e s
  | look k => exact look_effect a e s k
  | claim k =>
    by_cases hable : s.traffic.stance k = .pulling ∧ s.traffic.hub.holder = none
    · exact .claim hable.1 hable.2
    · simp only [perform, FanOut.Traffic.step, if_neg hable]
      exact .idle fun _ => hable
  | receive => exact receive_effect a e s
  | append => exact append_effect a e s
  | announce =>
    by_cases hdue : s.traffic.due = 0
    · simp only [perform, FanOut.Traffic.step, if_pos hdue]
      exact .idle fun _ hable => hable hdue
    · exact .announce hdue
  | work k => exact work_effect a e s k
  | leave k => exact leave_effect a e s k

/-- **What each move leads to.** -/
theorem step_effect (m : Move) : Effect a e s m (step a e s m) := by
  rw [step]
  split_ifs with hpanic
  · exact .idle fun hnone => absurd hpanic (by simp [hnone])
  · exact perform_effect a e s m

end Effect

/-! ## What holds all the time -/

variable (a : Assembly τ σ ρ) (e : Execution)

/-- The rows that an extraction sends that nothing stops, and how it ends. -/
def alone (source : τ) : List ρ × Attempt Progress :=
  let out := (a.extraction.readPages (pure true) e.group e.window Extraction.maxPages {} source).1
  (out.sent, out.result)

/-- The assembly does what its parts do when each is alone: the extraction with a channel that takes
everything, and each loader with all rows of that extraction. -/
structure Sound (source : τ) (sinks : Nat → σ) (s : State τ σ ρ) : Prop where
  traffic : s.traffic.Sound
  outlook : (∃ p, s.extraction = .stopped p) ∨
    s.traffic.accepted ++ (s.extraction.outlook a.extraction e.group e.window s.source).1
        = (a.alone e source).1 ∧
      (s.extraction.outlook a.extraction e.group e.window s.source).2 = (a.alone e source).2
  accepted : s.traffic.accepted <+: (a.alone e source).1
  stopped : ∀ p, s.extraction = .stopped p → ∀ k, s.traffic.hub.cursor? k = none
  closed : s.traffic.hub.closed = true ↔ s.extraction.result? ≠ none
  loaders : ∀ k sink, a.sinks[k]? = some sink →
    (s.loaders k).remains sink e ((a.alone e source).1.drop (s.traffic.received k).length)
        (s.sinks k)
      = Loading.run sink e ((a.alone e source).1.map Loading.direct) (sinks k)
  present : ∀ k, s.traffic.hub.cursor? k ≠ none ↔ k < a.sinks.length ∧ (s.loaders k).Present
  calm : ∀ k, s.traffic.stance k ≠ .ready → (s.loaders k).Reads
  absent : ∀ k, a.sinks.length ≤ k → (s.loaders k).Reads ∧ s.traffic.stance k = .ready

variable {a e} {source : τ} {sinks : Nat → σ} {s : State τ σ ρ} {k : Nat} {sink : Sink σ ρ}

/-- An assembly that did nothing yet is sound. -/
theorem start_sound (bufferSize : Nat) (source : τ) (sinks : Nat → σ) :
    Sound a e source sinks (start a e bufferSize source sinks) where
  traffic := FanOut.Traffic.start_sound _ _ _
  outlook := .inr ⟨rfl, rfl⟩
  accepted := List.nil_prefix
  stopped _ h := by cases h
  closed := by simp [start, FanOut.Traffic.start, FanOut.start, Extraction.Phase.result?]
  loaders k sink _ := congrFun (Loading.Phase.remains_start sink e _) _
  present k := (FanOut.start_cursor?_ne_none_iff _ _ _ k).trans (and_true _).symm.to_iff
  calm _ h := absurd rfl h
  absent _ _ := ⟨⟨_, rfl⟩, rfl⟩

namespace Sound

/-! ### Moves of the channel -/

/-- What is not noticed changes nothing that matters. -/
theorem quiet (h : Sound a e source sinks s) {t : FanOut.Traffic ρ}
    (hquiet : FanOut.Traffic.Quiet s.traffic t) (ht : t.Sound) :
    Sound a e source sinks { s with traffic := t } where
  traffic := ht
  outlook := by
    simp only [hquiet.accepted]
    exact h.outlook
  accepted := by
    simp only [hquiet.accepted]
    exact h.accepted
  stopped p hp k := (hquiet.live k).mpr (h.stopped p hp k)
  closed := by
    simp only [hquiet.closed]
    exact h.closed
  loaders k sink hk := by
    simp only [hquiet.received]
    exact h.loaders k sink hk
  present k := (hquiet.live k).not.trans (h.present k)
  calm k hk := h.calm k (hquiet.stance k hk)
  absent k hk := by
    obtain ⟨hreads, hready⟩ := h.absent k hk
    exact ⟨hreads, by_contra fun hne => hquiet.stance k hne hready⟩

/-! ### Moves of a loader -/

/-- A loader that waits for rows has a consumer, so the extraction has not stopped. -/
theorem not_stopped (h : Sound a e source sinks s) (hlive : s.traffic.hub.cursor? k ≠ none)
    (p : Progress) : s.extraction ≠ .stopped p :=
  fun hp => hlive (h.stopped p hp k)

/-- An extraction that is at its end with its channel closed has sent everything. -/
theorem ended (h : Sound a e source sinks s) (hlive : s.traffic.hub.cursor? k ≠ none)
    (hclosed : s.traffic.hub.closed = true) :
    s.extraction = .ended (a.alone e source).2 ∧ s.traffic.accepted = (a.alone e source).1 := by
  have hend := h.closed.mp hclosed
  rcases h.outlook with ⟨p, hp⟩ | ⟨haccepted, hresult⟩
  · exact absurd hp (h.not_stopped hlive p)
  rcases hphase : s.extraction with _ | _ | result | p
  · simp [hphase, Extraction.Phase.result?] at hend
  · simp [hphase, Extraction.Phase.result?] at hend
  · rw [hphase] at haccepted hresult
    exact ⟨congrArg _ hresult, by rw [← haccepted]; exact (List.append_nil _).symm⟩
  · exact absurd hphase (h.not_stopped hlive p)

/-- A loader that is told that nothing more comes has received everything. -/
theorem received_of_ended (h : Sound a e source sinks s)
    (hlive : s.traffic.hub.cursor? k ≠ none) (hread : (s.traffic.hub.read k).1 = .ended) :
    s.traffic.received k = (a.alone e source).1 := by
  obtain ⟨hclosed, hreceived⟩ := h.traffic.received_of_ended hlive hread
  rw [hreceived, (h.ended hlive hclosed).2]

/-- The rows that a loader has not received, if it finds one now. -/
theorem drop_received (h : Sound a e source sinks s) {r : ρ}
    (hread : (s.traffic.hub.read k).1 = .item r) :
    (a.alone e source).1.drop (s.traffic.received k).length
      = r :: (a.alone e source).1.drop ((s.traffic.received k).length + 1) := by
  obtain ⟨later, hlater⟩ := (h.traffic.append_prefix hread).trans h.accepted
  have hrest : (s.traffic.received k ++ [r] ++ later).drop ((s.traffic.received k).length + 1)
      = later := List.drop_left' (by simp)
  rw [← hlater, hrest, List.append_assoc, List.drop_left]
  rfl

/-- A loader that has a consumer is one of the assembly. -/
theorem lt_of_live (h : Sound a e source sinks s) (hlive : s.traffic.hub.cursor? k ≠ none) :
    k < a.sinks.length := ((h.present k).mp hlive).1

/-- What one loader does is noticed by nobody else. -/
theorem withLoader (h : Sound a e source sinks s) {t : FanOut.Traffic ρ} {phase : Loading.Phase ρ}
    {world : σ} (hk : k < a.sinks.length) (ht : t.Sound)
    (haccepted : t.accepted = s.traffic.accepted) (hclosed : t.hub.closed = s.traffic.hub.closed)
    (hreceived : ∀ j ≠ k, t.received j = s.traffic.received j)
    (hlive : ∀ j ≠ k, t.hub.cursor? j = none ↔ s.traffic.hub.cursor? j = none)
    (hstance : ∀ j ≠ k, t.stance j ≠ .ready → s.traffic.stance j ≠ .ready)
    (hremains : ∀ sink, a.sinks[k]? = some sink →
      phase.remains sink e ((a.alone e source).1.drop (t.received k).length) world
        = (s.loaders k).remains sink e
            ((a.alone e source).1.drop (s.traffic.received k).length) (s.sinks k))
    (hgone : s.traffic.hub.cursor? k = none → t.hub.cursor? k = none)
    (hpresent : t.hub.cursor? k ≠ none ↔ phase.Present)
    (hcalm : t.stance k ≠ .ready → phase.Reads) :
    Sound a e source sinks { s with
      traffic := t
      loaders := Function.update s.loaders k phase
      sinks := Function.update s.sinks k world } where
  traffic := ht
  outlook := by
    simp only [haccepted]
    exact h.outlook
  accepted := by
    simp only [haccepted]
    exact h.accepted
  stopped p hp j := by
    by_cases hjk : j = k
    · exact hjk ▸ hgone (h.stopped p hp k)
    · exact (hlive j hjk).mpr (h.stopped p hp j)
  closed := by
    simp only [hclosed]
    exact h.closed
  loaders j sink hj := by
    by_cases hjk : j = k
    · subst hjk
      simp only [Function.update_self, hremains sink hj]
      exact h.loaders j sink hj
    · simp only [Function.update_of_ne hjk, hreceived j hjk]
      exact h.loaders j sink hj
  present j := by
    by_cases hjk : j = k
    · subst hjk
      simp only [Function.update_self, hpresent, hk, true_and]
    · simp only [Function.update_of_ne hjk]
      exact (hlive j hjk).not.trans (h.present j)
  calm j hj := by
    by_cases hjk : j = k
    · subst hjk
      simpa only [Function.update_self] using hcalm hj
    · simp only [Function.update_of_ne hjk]
      exact h.calm j (hstance j hjk hj)
  absent j hj := by
    have hjk : j ≠ k := by omega
    obtain ⟨hreads, hready⟩ := h.absent j hj
    simp only [Function.update_of_ne hjk]
    exact ⟨hreads, by_contra fun hne => hstance j hjk hne hready⟩

section Looking

variable (h : Sound a e source sinks s) (hreads : (s.loaders k).Reads)
  (hready : s.traffic.stance k = .ready) (hlive : s.traffic.hub.cursor? k ≠ none)

include h hreads hready hlive

/-- A loader that finds a row receives the next one of those that it has not received. -/
theorem look_item {r : ρ} (hread : (s.traffic.hub.read k).1 = .item r) :
    Sound a e source sinks { s with
      traffic := s.traffic.step (.look k)
      loaders := Function.update s.loaders k ((s.loaders k).found (.item r)) } := by
  have htraffic := h.traffic.step (.look k)
  obtain ⟨t, hquiet, heq⟩ := FanOut.Traffic.Sound.step_look_item hready hlive hread
  rw [heq] at htraffic ⊢
  rw [← Function.update_eq_self k s.sinks]
  refine h.withLoader (h.lt_of_live hlive) htraffic hquiet.accepted hquiet.closed ?_
    (fun j _ => hquiet.live j) (fun j _ => hquiet.stance j) ?_ (hquiet.live k).mpr ?_ ?_
  · intro j hjk
    exact Function.update_of_ne hjk _ _
  · intro sink _
    simp only [Function.update_self, List.length_append, List.length_singleton]
    rw [Loading.Phase.remains_found_item hreads, ← h.drop_received hread]
  · exact ⟨fun _ => hreads.present_found _, fun _ => (hquiet.live k).not.mpr hlive⟩
  · exact fun hstance => absurd hready (hquiet.stance k hstance)

/-- A loader that finds no row receives nothing, and goes on waiting unless it found the end. -/
theorem look_nothing (hitem : ∀ r, (s.traffic.hub.read k).1 ≠ .item r) :
    Sound a e source sinks { s with
      traffic := s.traffic.found k (s.traffic.hub.read k).1
      loaders := Function.update s.loaders k ((s.loaders k).found (s.traffic.hub.read k).1) } := by
  have htraffic := h.traffic.step (.look k)
  have hreceived := FanOut.Traffic.found_received_of_not_item s.traffic k hitem
  rw [h.traffic.step_look_of_not_item hready hlive hitem] at htraffic
  rw [← Function.update_eq_self k s.sinks]
  have hends : (s.traffic.hub.read k).1 = .ended ∨
      (s.loaders k).found (s.traffic.hub.read k).1 = s.loaders k :=
    or_iff_not_imp_left.mpr (hreads.found_of_ne hitem)
  refine h.withLoader (h.lt_of_live hlive) htraffic (FanOut.Traffic.found_accepted _ _ _)
    ?_ ?_ ?_ ?_ ?_ ?_ ?_ ?_
  · rw [FanOut.Traffic.found_hub]
  · intro j _
    rw [hreceived]
  · intro j _
    rw [FanOut.Traffic.found_hub]
  · intro j hjk
    rw [FanOut.Traffic.found_stance_of_ne _ _ hjk]
    exact id
  · intro sink _
    rw [hreceived]
    rcases hends with hended | hsame
    · rw [hended, h.received_of_ended hlive hended, List.drop_length]
      exact congrFun (Loading.Phase.remains_found_ended _) _
    · rw [hsame]
  · rw [FanOut.Traffic.found_hub]
    exact id
  · rw [FanOut.Traffic.found_hub]
    exact ⟨fun _ => hreads.present_found _, fun _ => hlive⟩
  · intro hstance
    rcases hends with hended | hsame
    · rw [hended] at hstance
      exact absurd hready hstance
    · rwa [hsame]

/-- **A look** gives the loader the next row of those that it has not received, or tells it that
there is none. -/
theorem look : Sound a e source sinks { s with
    traffic := s.traffic.step (.look k)
    loaders := Function.update s.loaders k ((s.loaders k).found (s.traffic.hub.read k).1) } := by
  by_cases hitem : ∃ r, (s.traffic.hub.read k).1 = .item r
  · obtain ⟨r, hread⟩ := hitem
    rw [hread]
    exact h.look_item hreads hready hlive hread
  · rw [not_exists] at hitem
    rw [h.traffic.step_look_of_not_item hready hlive hitem]
    exact h.look_nothing hreads hready hlive hitem

end Looking

/-- **A loader that works by itself** does what is left for it to do. -/
theorem work (h : Sound a e source sinks s) {phase : Loading.Phase ρ} {world : σ}
    (hsink : a.sinks[k]? = some sink)
    (hwork : (s.loaders k).work sink e (s.sinks k) = (phase, world)) :
    Sound a e source sinks { s with
      loaders := Function.update s.loaders k phase
      sinks := Function.update s.sinks k world } := by
  have hlt : k < a.sinks.length := (List.getElem?_eq_some_iff.mp hsink).1
  obtain rfl : ((s.loaders k).work sink e (s.sinks k)).1 = phase := congrArg Prod.fst hwork
  obtain rfl : ((s.loaders k).work sink e (s.sinks k)).2 = world := congrArg Prod.snd hwork
  refine h.withLoader (t := s.traffic) hlt h.traffic rfl rfl (fun _ _ => rfl) (fun _ _ => Iff.rfl)
    (fun _ _ => id) ?_ id ?_ ?_
  · intro sink' hsink'
    obtain rfl : sink = sink' := Option.some.inj (hsink.symm.trans hsink')
    exact congrFun (Loading.Phase.remains_work sink e _ _) _
  · rw [h.present, Loading.Phase.work_present_iff]
    exact and_iff_right hlt
  · intro hstance
    exact (h.calm k hstance).work _

/-- A loader that does not wait for a row may go away. -/
theorem ready_of_not_reads (h : Sound a e source sinks s) (hphase : ¬(s.loaders k).Reads) :
    s.traffic.stance k = .ready := by
  by_contra hne
  exact hphase (h.calm k hne)

/-- A loader that does not wait for a row is one of the assembly. -/
theorem lt_of_not_reads (h : Sound a e source sinks s) (hphase : ¬(s.loaders k).Reads) :
    k < a.sinks.length := by
  by_contra hle
  exact hphase (h.absent k (not_lt.mp hle)).1

/-- A loader that wants the channel is one of the assembly. -/
theorem lt_of_pulling (h : Sound a e source sinks s) (hpulling : s.traffic.stance k = .pulling) :
    k < a.sinks.length := by
  by_contra hle
  simp [(h.absent k (not_lt.mp hle)).2] at hpulling

/-- **A loader that reads no more** goes away without being missed. -/
theorem leave (h : Sound a e source sinks s) {st : Loading.State ρ} {ending : Loading.Ending}
    (hphase : s.loaders k = .leaving st ending) :
    Sound a e source sinks { s with
      traffic := s.traffic.step (.drop k)
      loaders := Function.update s.loaders k (.closing st ending) } := by
  have hnot : ¬(s.loaders k).Reads := by simp [hphase, Loading.Phase.Reads]
  have hready := h.ready_of_not_reads hnot
  rw [← Function.update_eq_self k s.sinks]
  obtain ⟨haccepted, hreceived, hclosed, hcursor, hstance⟩ := h.traffic.step_drop hready
  refine h.withLoader (h.lt_of_not_reads hnot) (h.traffic.step (.drop k)) haccepted hclosed
    ?_ ?_ ?_ ?_ ?_ ?_ ?_
  · intro j _
    rw [hreceived]
  · intro j hjk
    rw [hcursor, if_neg hjk]
  · intro j _
    rw [hstance]
    exact id
  · intro sink _
    rw [hreceived, hphase]
    rfl
  · intro _
    rw [hcursor, if_pos rfl]
  · rw [hcursor, if_pos rfl]
    simp [Loading.Phase.Present]
  · intro hne
    rw [hstance] at hne
    exact absurd hready hne

/-! ### Moves of the extraction -/

/-- What the extraction does is noticed by no loader before it finds a row or the end. -/
theorem withExtraction (h : Sound a e source sinks s) {t : FanOut.Traffic ρ}
    {phase : Extraction.Phase ρ} {world : τ} (ht : t.Sound)
    (hreceived : t.received = s.traffic.received) (hcursors : t.hub.cursors = s.traffic.hub.cursors)
    (hstance : t.stance = s.traffic.stance)
    (houtlook : (∃ p, phase = .stopped p) ∨
      t.accepted ++ (phase.outlook a.extraction e.group e.window world).1 = (a.alone e source).1 ∧
        (phase.outlook a.extraction e.group e.window world).2 = (a.alone e source).2)
    (haccepted : t.accepted <+: (a.alone e source).1)
    (hstopped : ∀ p, phase = .stopped p → ∀ k, s.traffic.hub.cursor? k = none)
    (hclosed : t.hub.closed = true ↔ phase.result? ≠ none) :
    Sound a e source sinks { s with traffic := t, extraction := phase, source := world } := by
  have hcursor : ∀ k, t.hub.cursor? k = s.traffic.hub.cursor? k := by
    intro k
    rw [FanOut.cursor?, hcursors, ← FanOut.cursor?]
  exact {
    traffic := ht
    outlook := houtlook
    accepted := haccepted
    stopped := fun p hp k => (hcursor k).trans (hstopped p hp k)
    closed := hclosed
    loaders := fun k sink hk => by
      simp only [hreceived]
      exact h.loaders k sink hk
    present := fun k => by
      simp only [hcursor]
      exact h.present k
    calm := fun k hk => h.calm k (by simpa only [hstance] using hk)
    absent := fun k hk => by
      simp only [hstance]
      exact h.absent k hk }

/-- The extraction goes on without sending a row, and closes the channel at its end. -/
theorem turn (h : Sound a e source sinks s) {phase : Extraction.Phase ρ} {world : τ}
    (hturn : s.extraction.turn a.extraction e.group e.window s.source = (phase, world)) :
    Sound a e source sinks { s with
      traffic := if phase.result?.isSome then s.traffic.step .close else s.traffic
      extraction := phase
      source := world } := by
  have hphase : (s.extraction.turn a.extraction e.group e.window s.source).1 = phase :=
    congrArg Prod.fst hturn
  have hsame : phase.outlook a.extraction e.group e.window world
      = s.extraction.outlook a.extraction e.group e.window s.source := by
    rw [← Extraction.Phase.outlook_turn s.extraction, hturn]
  have houtlook : (∃ p, phase = .stopped p) ∨
      s.traffic.accepted ++ (phase.outlook a.extraction e.group e.window world).1
          = (a.alone e source).1 ∧
        (phase.outlook a.extraction e.group e.window world).2 = (a.alone e source).2 := by
    rcases h.outlook with ⟨p, hp⟩ | hout
    · rw [hp] at hphase
      exact .inl ⟨p, hphase.symm⟩
    · rw [hsame]
      exact .inr hout
  have hstopped : ∀ p, phase = .stopped p → ∀ k, s.traffic.hub.cursor? k = none :=
    fun p hp => h.stopped p (Extraction.Phase.eq_stopped_of_turn (hphase.trans hp))
  by_cases hend : phase.result? = none
  · have hopen : s.traffic.hub.closed = true ↔ phase.result? ≠ none := by
      rw [h.closed]
      refine ⟨fun hne => ?_, fun hne => absurd hend hne⟩
      rwa [← hphase, Extraction.Phase.turn_of_result? hne]
    rw [if_neg (by simp [hend])]
    exact h.withExtraction h.traffic rfl rfl rfl houtlook h.accepted hstopped hopen
  · rw [if_pos (Option.isSome_iff_ne_none.mpr hend)]
    exact h.withExtraction h.traffic.close rfl rfl rfl houtlook h.accepted hstopped
      ⟨fun _ => hend, fun _ => rfl⟩

section Sending

variable {budget fetched : Nat} {p : Progress} {sent rest : List ρ} {r : ρ}
  (h : Sound a e source sinks s)
  (hphase : s.extraction = .sending budget p fetched sent (r :: rest))

include h hphase

/-- As long as the extraction sends rows it keeps the channel open. -/
theorem open_of_sending : s.traffic.hub.closed = false := by
  rw [← Bool.not_eq_true, h.closed, hphase]
  exact not_not.mpr rfl

/-- **The extraction sends a row** of its outlook. -/
theorem send (hsend : s.traffic.hub.send r
      = (.sent, { s.traffic.hub with channel := s.traffic.hub.channel ++ [r] })) :
    Sound a e source sinks { s with
      traffic := s.traffic.step (.send r)
      extraction := .sending budget p fetched (sent ++ [r]) rest } := by
  have htraffic := h.traffic.send r
  have hstep : s.traffic.step (.send r) = { s.traffic with
      hub := { s.traffic.hub with channel := s.traffic.hub.channel ++ [r] }
      accepted := s.traffic.accepted ++ [r] } := by
    simp only [FanOut.Traffic.step, hsend]
  have hout := h.outlook
  rw [hphase, Extraction.Phase.outlook_sending] at hout
  obtain ⟨hwhole, hend⟩ := hout.resolve_left (by rintro ⟨q, hq⟩; cases hq)
  rw [List.append_cons] at hwhole
  rw [hstep] at htraffic ⊢
  exact h.withExtraction htraffic rfl rfl rfl (.inr ⟨hwhole, hend⟩) ⟨_, hwhole⟩
    (fun _ hq => by cases hq)
    ⟨fun hclosed => absurd hclosed (by simp [h.open_of_sending hphase]), fun hne => absurd rfl hne⟩

/-- **The extraction stops** if nobody receives. -/
theorem stop (hgone : s.traffic.hub.closed = true ∨ ∀ k, s.traffic.hub.cursor? k = none) :
    Sound a e source sinks { s with
      traffic := s.traffic.step .close
      extraction := .stopped (p.extend sent) } := by
  have hnobody := hgone.resolve_left (by simp [h.open_of_sending hphase])
  exact h.withExtraction h.traffic.close rfl rfl rfl (.inl ⟨_, rfl⟩) h.accepted
    (fun _ _ => hnobody) ⟨fun _ => nofun, fun _ => rfl⟩

end Sending

/-- **Every move** keeps what each part does when it is alone. -/
theorem step (h : Sound a e source sinks s) (m : Move) :
    Sound a e source sinks (Assembly.step a e s m) := by
  have heffect := step_effect a e s m
  generalize Assembly.step a e s m = s' at heffect ⊢
  cases heffect with
  | idle => exact h
  | stop hphase hgone => exact h.stop hphase hgone
  | send hphase hsend => exact h.send hphase hsend
  | turn hrest hturn => exact h.turn hturn
  | look hreads hready hlive => exact h.look hreads hready hlive
  | claim => exact h.quiet (.claim _ _) (h.traffic.claim _)
  | receive => exact h.quiet (.receive _) h.traffic.receive
  | append => exact h.quiet (.append _) h.traffic.append
  | announce => exact h.quiet (.announce _) h.traffic.announce
  | work hsink hworks hwork => exact h.work hsink hwork
  | leave hphase => exact h.leave hphase

/-- **Whatever moves are made**, an assembly stays sound. -/
theorem run (h : Sound a e source sinks s) (moves : List Move) :
    Sound a e source sinks (Assembly.run a e s moves) := by
  induction moves generalizing s with
  | nil => exact h
  | cons m moves ih => exact ih (h.step m)

end Sound

/-- **In whatever order the parts act**, each does what it does when it is alone. -/
theorem run_sound (bufferSize : Nat) (source : τ) (sinks : Nat → σ) (moves : List Move) :
    Sound a e source sinks (run a e (start a e bufferSize source sinks) moves) :=
  (start_sound bufferSize source sinks).run moves

end Assembly

end Ingest
