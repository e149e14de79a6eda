import Ingest.Proofs.FanOut.Traffic

/-!
# Proofs/FanOut/Delivery — every consumer receives the stream

What a consumer receives is decided by the items that the channel took and by nothing else: neither
by the order in which the users act, nor by the other consumers, nor by the sizes of the channel and
of what is kept. Main statements: `Traffic.delivered_in_order`, and `Traffic.run_poll`, by which a
consumer that is asked once, without waiting, takes a few actions.
-/

namespace Ingest

namespace FanOut

variable {α : Type} {f : FanOut α} {i j c : Nat} {accepted : List α} {x : α}

/-! ## Asking without waiting -/

/-- What a consumer that does not wait is told. -/
def answer : Glance α → Poll α
  | .item x => .item x
  | .ended => .ended
  | .suspended => .pending
  | .caughtUp => .pending

/-- The fan-out after a consumer that has read everything kept tried to take one item more. -/
def pulled (f : FanOut α) (i : Nat) : FanOut α :=
  match (f.read i).1 with
  | .caughtUp => (f.claim i).receive.append.release
  | _ => f

/-- A consumer reads what is kept at its position. -/
theorem read_of_lt (hc : f.cursor? i = some c) (hlt : c < f.stop)
    (hget : f.buffer[c - f.base]? = some x) :
    f.read i = (.item x, trim { f with cursors := f.cursors.set i (some (c + 1)) }) := by
  simp [read, hc, hlt, hget]

/-- A consumer at the end is told so. -/
theorem read_of_finished (hc : f.cursor? i = some c) (hle : f.stop ≤ c)
    (hfinished : f.finished = true) : f.read i = (.ended, f) := by
  simp [read, hc, not_lt.mpr hle, hfinished]

/-- Taking an item out of the channel moves nobody. -/
theorem pulled_cursor? (f : FanOut α) (i j : Nat) : (f.pulled i).cursor? j = f.cursor? j := by
  simp only [pulled]
  split
  · rw [(Frame.release _).cursor?, (Frame.append _).cursor?, (Frame.receive _).cursor?,
      (Frame.claim f i).cursor?]
  · rfl

namespace Keeps

/-- To ask once is to take an item out of the channel if it has to be, and to read. -/
theorem poll_eq (h : f.Keeps accepted) (hc : f.cursor? i = some c) :
    f.poll i = (answer ((f.pulled i).read i).1, ((f.pulled i).read i).2) := by
  have hlive : (f.cursor? i).isNone = false := by simp [hc]
  rcases h.read_cases hc with ⟨x, -, -, -, heq⟩ | ⟨-, ⟨-, heq⟩ | ⟨-, -, heq⟩ | ⟨-, -, heq⟩⟩
  · simp [poll, pulled, answer, hlive, heq]
  · simp [poll, pulled, answer, hlive, heq]
  · simp [poll, pulled, answer, hlive, heq]
  · simp only [poll, pulled, hlive, heq]
    rcases (f.claim i).receive.append.release.read i with ⟨glance, after⟩
    cases glance <;> rfl

/-- A consumer that has read everything kept can claim a channel that nobody holds. -/
theorem claim_eq (h : f.Keeps accepted) (hc : f.cursor? i = some c)
    (hread : (f.read i).1 = .caughtUp) (hfree : f.holder = none) :
    f.claim i = { f with holder := some i } := by
  rcases h.read_cases hc with ⟨x, -, -, -, heq⟩ | ⟨rfl, ⟨-, heq⟩ | ⟨-, -, heq⟩ | ⟨hf, hl, heq⟩⟩
  · simp [heq] at hread
  · simp [heq] at hread
  · simp [heq] at hread
  · simp [FanOut.claim, hfree, hf, hl, hc]

/-- What taking an item out of the channel leads to. -/
theorem pulled_cases (h : f.Keeps accepted) (hc : f.cursor? i = some c)
    (hread : (f.read i).1 = .caughtUp) (hfree : f.holder = none) :
    (∃ x rest, f.channel = x :: rest ∧
        f.pulled i = { f with channel := rest, buffer := f.buffer ++ [x] }) ∨
      f.channel = [] ∧ (f.closed = true ∧ f.pulled i = { f with finished := true } ∨
        f.closed = false ∧ f.pulled i = f) := by
  have hnone := h.arrived hfree
  simp only [FanOut.pulled, hread, h.claim_eq hc hread hfree]
  rcases hchannel : f.channel with _ | ⟨x, rest⟩
  · rcases hclosed : f.closed with _ | _
    · refine .inr ⟨rfl, .inr ⟨rfl, ?_⟩⟩
      cases f
      simp_all [FanOut.receive, FanOut.append, FanOut.release]
    · simp [FanOut.receive, FanOut.append, FanOut.release, hnone, ← hfree]
  · simp [FanOut.receive, FanOut.append, FanOut.release, hnone, ← hfree]

/-- The first item that was accepted after those kept is the first in the channel. -/
theorem getElem?_stop (h : f.Keeps accepted) (hfree : f.holder = none) :
    accepted[f.stop]? = f.channel.head? := by
  have hrest := h.drop_stop
  rw [handed, h.arrived hfree] at hrest
  rw [← List.head?_drop, hrest]
  rfl

/-- **What a consumer is told that does not wait**: the accepted item at its position, the end if
there is none and the channel is closed, and otherwise to come back. -/
theorem poll_of_not_ahead (h : f.Keeps accepted) (hc : f.cursor? i = some c)
    (hfree : f.holder = none) (hahead : ¬f.Ahead i) :
    (f.poll i).1 = match accepted[c]? with
      | some x => .item x
      | none => if f.closed then .ended else .pending := by
  rw [h.poll_eq hc]
  rcases h.read_cases hc with ⟨x, -, hx, -, heq⟩ | ⟨rfl, ⟨hf, heq⟩ | ⟨hf, hl, heq⟩ | ⟨hf, hl, heq⟩⟩
  · simp [FanOut.pulled, answer, heq, hx]
  · obtain ⟨hclosed, hchannel⟩ := h.ending (.inr hf)
    simp [FanOut.pulled, answer, heq, h.getElem?_stop hfree, hchannel, hclosed]
  · exact absurd (h.read_eq_suspended_iff.mp (by rw [heq])) hahead
  · rw [h.getElem?_stop hfree]
    rcases h.pulled_cases hc (by rw [heq]) hfree with
      ⟨x, rest, hchannel, hpulled⟩ | ⟨hchannel, ⟨hclosed, hpulled⟩ | ⟨hclosed, hpulled⟩⟩ <;>
      rw [hchannel, hpulled]
    · have hlt : f.stop < stop { f with channel := rest, buffer := f.buffer ++ [x] } := by
        simp [stop]
      have hget : (f.buffer ++ [x])[f.stop - f.base]? = some x := by simp [stop]
      rw [read_of_lt (f := { f with channel := rest, buffer := f.buffer ++ [x] }) hc hlt hget]
      rfl
    · rw [read_of_finished (f := { f with finished := true }) hc le_rfl rfl]
      simp [answer, hclosed]
    · simp [heq, answer, hclosed]

end Keeps

namespace Traffic

variable {t t' : Traffic α}

/-! ## What a consumer is told -/

namespace Sound

/-- **An item that is found** is the next of the accepted ones. -/
theorem append_prefix (h : t.Sound) (hread : (t.hub.read i).1 = .item x) :
    t.received i ++ [x] <+: t.accepted := by
  rcases hc : t.hub.cursor? i with _ | c
  · simp [FanOut.read, hc] at hread
  rcases h.keeps.read_cases hc with
    ⟨y, -, hy, -, heq⟩ | ⟨-, ⟨-, heq⟩ | ⟨-, -, heq⟩ | ⟨-, -, heq⟩⟩ <;>
    rw [heq] at hread <;> cases hread
  rw [h.received i c hc, ← Option.toList_some x, ← hy, ← List.take_add_one]
  exact List.take_prefix _ _

/-- At the end of the items kept a consumer has received everything, if the end was met. -/
theorem received_of_finished (h : t.Sound) (hc : t.hub.cursor? i = some t.hub.stop)
    (hfinished : t.hub.finished = true) : t.hub.closed = true ∧ t.received i = t.accepted := by
  obtain ⟨hclosed, hchannel⟩ := h.keeps.ending (.inr hfinished)
  have hfree : t.hub.holder = none := by
    by_contra hne
    obtain ⟨j, hj⟩ := Option.ne_none_iff_exists'.mp hne
    simp [(h.keeps.holding j hj).2.1] at hfinished
  have hrest := h.keeps.drop_stop
  rw [handed, h.keeps.arrived hfree, hchannel] at hrest
  refine ⟨hclosed, ?_⟩
  rw [h.received i _ hc]
  exact List.take_of_length_le (List.drop_eq_nil_iff.mp hrest)

/-- **Nothing more comes** is said to a live consumer that has received everything. -/
theorem received_of_ended (h : t.Sound) (hlive : t.hub.cursor? i ≠ none)
    (hread : (t.hub.read i).1 = .ended) : t.hub.closed = true ∧ t.received i = t.accepted := by
  obtain ⟨c, hc⟩ := Option.ne_none_iff_exists'.mp hlive
  rcases h.keeps.read_cases hc with ⟨y, -, hy, -, heq⟩ | ⟨rfl, ⟨hf, -⟩ | ⟨-, -, heq⟩ | ⟨-, -, heq⟩⟩
  · rw [heq] at hread
    cases hread
  · exact h.received_of_finished hc hf
  all_goals
    rw [heq] at hread
    cases hread

end Sound

/-! ## Asking once -/

/-- The item of an answer. -/
def items : Poll α → List α
  | .item x => [x]
  | _ => []

/-- What actions of a consumer lead to that give it nothing: only the fan-out changed, nobody holds
the channel, and the consumer may look. -/
structure Rests (i : Nat) (t t' : Traffic α) : Prop where
  holder : t'.hub.holder = none
  ready : t'.stance i = .ready
  accepted : t'.accepted = t.accepted
  received : t'.received = t.received

theorem step_abandon (hidle : ¬t.Busy i) : t.step (.abandon i) =
    { t.stand i .ready with hub := if t.hub.holder = some i then t.hub.release else t.hub } :=
  if_neg hidle

/-- The holder passes on what it was given, or lets go. -/
theorem run_append_abandon (hholder : t.hub.holder = some i) :
    (t.run [.append, .abandon i]).hub = t.hub.append.release ∧
      Rests i t (t.run [.append, .abandon i]) := by
  rcases ha : t.hub.arrived with _ | given
  · have happend : t.step .append = t := by simp [step, hholder, ha]
    have hidle : ¬t.Busy i := by simp [Busy, ha]
    have hsame : t.hub.append = t.hub := by simp [FanOut.append, ha]
    rw [run_cons, run_cons, run_nil, happend, step_abandon hidle, if_pos hholder, hsame]
    exact ⟨rfl, by simp [release, ha], stand_self _, rfl, rfl⟩
  · have hfree : t.hub.append.holder = none ∧ t.hub.append.release = t.hub.append := by
      rcases given with _ | x <;> simp [FanOut.append, release, ha]
    have happend :
        t.step .append = { t.stand i .ready with hub := t.hub.append, due := t.due + 1 } := by
      simp [step, hholder, ha]
    have hidle : ¬(t.step .append).Busy i := by simp [happend, Busy, hfree.1]
    rw [run_cons, run_cons, run_nil, step_abandon hidle, happend, hfree.2]
    simp only [hfree.1, reduceCtorEq, if_false]
    exact ⟨trivial, hfree.1, stand_self _, rfl, rfl⟩

/-- **Taking an item out of the channel** without waiting is a matter of a few actions. -/
theorem run_pull (h : t.Sound) (hc : t.hub.cursor? i = some c) (hready : t.stance i = .ready)
    (hfree : t.hub.holder = none) :
    ∃ actions, (t.run actions).hub = t.hub.pulled i ∧ Rests i t (t.run actions) := by
  by_cases hread : (t.hub.read i).1 = .caughtUp
  swap
  · refine ⟨[], ?_, hfree, hready, rfl, rfl⟩
    rcases hglance : (t.hub.read i).1 with x | _ | _ | _ <;> simp_all [FanOut.pulled]
  have hclaim := h.keeps.claim_eq hc hread hfree
  have hlook : t.step (.look i) = t.stand i .pulling := by
    rcases h.keeps.read_cases hc with ⟨x, -, -, -, heq⟩ | ⟨-, ⟨-, heq⟩ | ⟨-, -, heq⟩ | ⟨-, -, heq⟩⟩
    · simp [heq] at hread
    · simp [heq] at hread
    · simp [heq] at hread
    · simp [step, hready, hc, heq, moved, found]
  let held : Traffic α := { t.stand i .pulling with hub := (t.hub.claim i).receive }
  have hheld : t.run [.look i, .claim i, .receive] = held := by
    have hclaimed : (t.stand i .pulling).step (.claim i)
        = { t.stand i .pulling with hub := t.hub.claim i } := by
      simp [step, hfree, hclaim]
    rw [run_cons, run_cons, run_cons, run_nil, hlook, hclaimed]
    rfl
  have hholder : held.hub.holder = some i := by
    rw [show held.hub = (t.hub.claim i).receive from rfl, receive_holder, hclaim]
  obtain ⟨hhub, hrest⟩ := run_append_abandon hholder
  refine ⟨[.look i, .claim i, .receive] ++ [.append, .abandon i], ?_⟩
  rw [run_append, hheld, hhub, FanOut.pulled, hread]
  exact ⟨rfl, hrest.holder, hrest.ready, hrest.accepted, hrest.received⟩

theorem found_received (t : Traffic α) (i : Nat) (glance : Glance α) : (t.found i glance).received
    = Function.update t.received i (t.received i ++ items (answer glance)) := by
  cases glance <;> simp [found, items, answer]

/-- A consumer that looks and does not wait receives what it finds. -/
theorem run_look_abandon (hlive : t.hub.cursor? i ≠ none) (hready : t.stance i = .ready)
    (hfree : t.hub.holder = none) :
    (t.run [.look i, .abandon i]).hub = (t.hub.read i).2 ∧
      (t.run [.look i, .abandon i]).accepted = t.accepted ∧
      (t.run [.look i, .abandon i]).received
        = Function.update t.received i (t.received i ++ items (answer (t.hub.read i).1)) := by
  have hlook : t.step (.look i) = (t.moved (t.hub.read i).2).found i (t.hub.read i).1 :=
    if_pos ⟨hready, hlive⟩
  have hfree' : (t.step (.look i)).hub.holder = none := by simp [hlook, read_holder, hfree]
  have hidle : ¬(t.step (.look i)).Busy i := by simp [Busy, hfree']
  rw [run_cons, run_cons, run_nil, step_abandon hidle, hfree', hlook]
  simp [found_received]

/-- **A consumer that asks once**, without waiting, takes a few actions: they lead to the same
fan-out, and it receives what it is told. -/
theorem run_poll (h : t.Sound) (hlive : t.hub.cursor? i ≠ none) (hready : t.stance i = .ready)
    (hfree : t.hub.holder = none) :
    ∃ actions, (t.run actions).hub = (t.hub.poll i).2 ∧ (t.run actions).accepted = t.accepted ∧
      (t.run actions).received
        = Function.update t.received i (t.received i ++ items (t.hub.poll i).1) := by
  obtain ⟨c, hc⟩ := Option.ne_none_iff_exists'.mp hlive
  obtain ⟨actions, hhub, hrest⟩ := run_pull h hc hready hfree
  have hlive' : (t.run actions).hub.cursor? i ≠ none := by
    rw [hhub, pulled_cursor?, hc]
    exact Option.some_ne_none c
  obtain ⟨hhub', haccepted, hreceived⟩ := run_look_abandon hlive' hrest.ready hrest.holder
  refine ⟨actions ++ [.look i, .abandon i], ?_⟩
  rw [run_append, h.keeps.poll_eq hc, ← hhub, ← hrest.accepted, ← hrest.received]
  exact ⟨hhub', haccepted, hreceived⟩

/-! ## Consumers that go away -/

/-- What the others leave to a consumer when they go away: what it received, its position, and all
that it has not read. -/
structure Spares (i : Nat) (t t' : Traffic α) : Prop where
  accepted : t'.accepted = t.accepted
  received : t'.received = t.received
  cursor : t'.hub.cursor? i = t.hub.cursor? i
  stop : t'.hub.stop = t.hub.stop
  finished : t'.hub.finished = t.hub.finished
  channel : t'.hub.channel = t.hub.channel
  capacity : t'.hub.capacity = t.hub.capacity
  closed : t'.hub.closed = t.hub.closed
  retention : t'.hub.retention = t.hub.retention
  buffer : t'.hub.buffer.length ≤ t.hub.buffer.length
  holder : t.hub.holder = none → t'.hub.holder = none

namespace Spares

theorem refl (i : Nat) (t : Traffic α) : Spares i t t :=
  ⟨rfl, rfl, rfl, rfl, rfl, rfl, rfl, rfl, rfl, le_rfl, id⟩

/-- What is spared twice is spared. -/
theorem trans {t'' : Traffic α} (h : Spares i t t') (h' : Spares i t' t'') : Spares i t t'' where
  accepted := h'.accepted.trans h.accepted
  received := h'.received.trans h.received
  cursor := h'.cursor.trans h.cursor
  stop := h'.stop.trans h.stop
  finished := h'.finished.trans h.finished
  channel := h'.channel.trans h.channel
  capacity := h'.capacity.trans h.capacity
  closed := h'.closed.trans h.closed
  retention := h'.retention.trans h.retention
  buffer := h'.buffer.trans h.buffer
  holder := h'.holder ∘ h.holder

theorem step_drop (t : Traffic α) (hij : i ≠ j) : Spares i t (t.step (.drop j)) := by
  simp only [step]
  split_ifs with hcannot
  · exact refl i t
  have hcursor : (t.hub.drop j).cursor? i = t.hub.cursor? i :=
    (cursor?_set_none { t.hub with holder := t.hub.holder.filter (· ≠ j) } j i).trans (if_neg hij)
  have hbuffer : (t.hub.drop j).buffer.length ≤ t.hub.buffer.length := by
    rw [FanOut.drop, trim_buffer, List.length_drop]
    exact Nat.sub_le _ _
  have hholder : t.hub.holder = none → (t.hub.drop j).holder = none := by
    intro hfree
    rw [FanOut.drop, trim_holder, hfree]
    rfl
  exact ⟨rfl, rfl, hcursor, trim_stop _, rfl, rfl, rfl, rfl, rfl, hbuffer, hholder⟩

/-- Others that go away take nothing from a consumer. -/
theorem run_drop (t : Traffic α) {others : List Nat} (hi : i ∉ others) :
    Spares i t (t.run (others.map .drop)) := by
  induction others generalizing t with
  | nil => exact refl i t
  | cons j others ih =>
    obtain ⟨hij, hothers⟩ := not_or.mp (List.mem_cons.not.mp hi)
    exact (step_drop t hij).trans (ih _ hothers)

/-- **What a consumer finds stays the same** when others go away, unless it had to wait. -/
theorem read_eq (h : Spares i t t') (ht : t.Sound) (ht' : t'.Sound)
    (hsettled : (∃ x, (t.hub.read i).1 = .item x) ∨ (t.hub.read i).1 = .ended) :
    (t'.hub.read i).1 = (t.hub.read i).1 := by
  rcases hc : t.hub.cursor? i with _ | c
  · have hc' : t'.hub.cursor? i = none := h.cursor.trans hc
    simp [FanOut.read, hc, hc']
  have hc' : t'.hub.cursor? i = some c := h.cursor.trans hc
  rcases ht.keeps.read_cases hc with ⟨x, hlt, hx, -, heq⟩ | ⟨hstop, hcase⟩
  · rcases ht'.keeps.read_cases hc' with ⟨y, -, hy, -, heq'⟩ | ⟨hstop', -⟩
    · rw [h.accepted, hx] at hy
      rw [heq, heq', Option.some.inj hy]
    · rw [h.stop] at hstop'
      exact absurd hstop' hlt.ne
  rcases hcase with ⟨hf, heq⟩ | ⟨-, -, heq⟩ | ⟨-, -, heq⟩ <;> rw [heq] at hsettled ⊢
  · rw [read_of_finished hc' (by rw [h.stop, hstop]) (h.finished.trans hf)]
  all_goals simp at hsettled

/-- A consumer is no further ahead when others go away. -/
theorem not_ahead (h : Spares i t t') (hahead : ¬t.hub.Ahead i) : ¬t'.hub.Ahead i := by
  rintro ⟨hcursor, hfinished, hfull⟩
  refine hahead ⟨?_, ?_, ?_⟩
  · rw [← h.cursor, hcursor, h.stop]
  · rw [← h.finished, hfinished]
  · rw [← h.retention]
    exact hfull.trans h.buffer

/-- **What a consumer is told that asks once stays the same** when others go away, unless it had to
wait. -/
theorem poll_eq (h : Spares i t t') (ht : t.Sound) (ht' : t'.Sound)
    (hlive : t.hub.cursor? i ≠ none) (hfree : t.hub.holder = none)
    (hsettled : (t.hub.poll i).1 ≠ .pending) : (t'.hub.poll i).1 = (t.hub.poll i).1 := by
  obtain ⟨c, hc⟩ := Option.ne_none_iff_exists'.mp hlive
  have hahead : ¬t.hub.Ahead i := by
    intro hahead
    have hread := ht.keeps.read_eq_suspended_iff.mpr hahead
    exact hsettled (by simp [ht.keeps.poll_eq hc, pulled, hread, answer])
  rw [ht.keeps.poll_of_not_ahead hc hfree hahead,
    ht'.keeps.poll_of_not_ahead (h.cursor.trans hc) (h.holder hfree) (h.not_ahead hahead),
    h.accepted, h.closed]

/-- **What the sender hears stays the same** as long as somebody is left. -/
theorem send_eq (h : Spares i t t') (hlive : t.hub.cursor? i ≠ none) (x : α) :
    (t'.hub.send x).1 = (t.hub.send x).1 := by
  obtain ⟨c, hc⟩ := Option.ne_none_iff_exists'.mp hlive
  obtain ⟨m, hm⟩ := exists_slowest hc
  obtain ⟨m', hm'⟩ := exists_slowest (h.cursor.trans hc)
  simp only [send, hm, hm', h.closed, h.capacity, h.channel, Option.isNone_some, Bool.false_eq_true,
    if_false]
  split_ifs <;> rfl

end Spares

/-! ## Delivery -/

/-- What a consumer may rely on, whatever the others do. -/
structure Delivered (t : Traffic α) (i : Nat) : Prop where
  /-- It has received a first part of the items that the channel took, in their order. -/
  in_order : t.received i <+: t.accepted
  /-- An item that it finds is the next of them. -/
  next : ∀ x, (t.hub.read i).1 = .item x → t.received i ++ [x] <+: t.accepted
  /-- It finds that nothing more comes only if the channel is closed and it has received all. -/
  ended : t.hub.cursor? i ≠ none → (t.hub.read i).1 = .ended →
    t.hub.closed = true ∧ t.received i = t.accepted
  /-- If it asks once and is not too far ahead, it is told the item at its position, the end if
  there is none and the channel is closed, and otherwise to come back. -/
  asked : t.hub.cursor? i ≠ none → t.hub.holder = none → ¬t.hub.Ahead i →
    (t.hub.poll i).1 = match t.accepted[(t.received i).length]? with
      | some x => .item x
      | none => if t.hub.closed then .ended else .pending
  /-- Others that go away leave it what it received and all that it has not read. It is told the
  same as before unless it had to wait, and so is the sender. -/
  spared : ∀ others : List Nat, i ∉ others →
    let after := t.run (others.map .drop)
    Spares i t after ∧
      ((∃ x, (t.hub.read i).1 = .item x) ∨ (t.hub.read i).1 = .ended →
        (after.hub.read i).1 = (t.hub.read i).1) ∧
      (t.hub.cursor? i ≠ none → t.hub.holder = none → (t.hub.poll i).1 ≠ .pending →
        (after.hub.poll i).1 = (t.hub.poll i).1) ∧
      (t.hub.cursor? i ≠ none → ∀ x, (after.hub.send x).1 = (t.hub.send x).1)

/-- The number of items received is the position in the stream. -/
theorem Sound.length_received (h : t.Sound) (hc : t.hub.cursor? i = some c) :
    (t.received i).length = c := by
  rw [h.received i c hc, List.length_take]
  exact min_eq_left ((h.keeps.cursor i c hc).2.trans h.keeps.stop_le)

/-- **What a consumer received**, in sound traffic. -/
theorem Sound.delivered (h : t.Sound) (i : Nat) : t.Delivered i where
  in_order := h.prefixes i
  next _ := h.append_prefix
  ended := h.received_of_ended
  asked hlive hfree hahead := by
    obtain ⟨c, hc⟩ := Option.ne_none_iff_exists'.mp hlive
    rw [h.length_received hc]
    exact h.keeps.poll_of_not_ahead hc hfree hahead
  spared others hi :=
    have hspares := Spares.run_drop t hi
    have hafter := h.run (others.map .drop)
    ⟨hspares, hspares.read_eq h hafter, hspares.poll_eq h hafter, hspares.send_eq⟩

/-- **Every consumer receives the stream, in order and from its start**, whatever its users do and
in which order. What it receives does not depend on the other consumers nor on the sizes: as far as
the channel takes the same items in two runs, it receives the same items. -/
theorem delivered_in_order (capacity consumers retention : Nat) (actions : List (Action α)) :
    let t := (start capacity consumers retention).run actions
    (∀ i, t.Delivered i) ∧
      ∀ (capacity' consumers' retention' : Nat) (actions' : List (Action α)),
        let t' := (start capacity' consumers' retention').run actions'
        t'.accepted <+: t.accepted → ∀ i,
          (t'.received i <+: t.received i ∨ t.received i <+: t'.received i) ∧
          (t.accepted = t'.accepted → t.hub.cursor? i ≠ none → t'.hub.cursor? i ≠ none →
            (t.hub.read i).1 = .ended → (t'.hub.read i).1 = .ended →
              t.received i = t'.received i) := by
  intro t
  have h : t.Sound := run_sound capacity consumers retention actions
  refine ⟨h.delivered, ?_⟩
  intro capacity' consumers' retention' actions' t' haccepted i
  have h' : t'.Sound := run_sound capacity' consumers' retention' actions'
  refine ⟨List.prefix_or_prefix_of_prefix ((h'.prefixes i).trans haccepted) (h.prefixes i), ?_⟩
  intro hsame hlive hlive' hended hended'
  rw [(h.received_of_ended hlive hended).2, (h'.received_of_ended hlive' hended').2, hsame]

/-- A consumer takes an item out of the channel and reads it. -/
def pull (i : Nat) : List (Action α) := [.look i, .claim i, .receive, .append, .look i]

/-- The first consumer reads ahead of the second, which goes away before it has read everything. -/
def skewed : List (Action Nat) :=
  .send 7 :: pull 0 ++ [.send 8, .look 1, .look 0] ++ pull 0 ++ [.drop 1, .close] ++ pull 0

/-- The first consumer is alone. -/
def alone : List (Action Nat) := .send 7 :: .send 8 :: pull 0 ++ pull 0 ++ [.close] ++ pull 0

/-- Two consumers of which one is slow, and two others. -/
theorem delivered_in_order_skewed :
    ((start 2 1 5).run alone).accepted <+: ((start 1 2 1).run skewed).accepted ∧
      ((start 1 2 1).run skewed).received 0 = ((start 2 1 5).run alone).received 0 :=
  ⟨by decide, (((delivered_in_order 1 2 1 skewed).2 2 1 5 alone (by decide) 0).2
    (by decide) (by decide) (by decide) (by decide) (by decide))⟩

end Traffic

end FanOut

end Ingest
