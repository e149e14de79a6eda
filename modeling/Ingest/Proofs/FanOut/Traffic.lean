import Ingest.Proofs.FanOut.Keeping
import Mathlib.Logic.Function.Basic

/-!
# Proofs/FanOut/Traffic — a fan-out whose users take turns

A `Traffic` is a fan-out in use, with what has gone through it. Its users act in any order
(`Traffic.Action`), and an action is what one of them does without being interrupted: a lock is
taken and given back, or an item passes the channel. A consumer that asks for the next item looks;
it may then be suspended, or claim the channel, receive and append, and look again. Whoever changes
what the others wait for owes them a call, and a suspended consumer wakes up at the next call after
it fell asleep. Main statement: `Traffic.run_sound`.
-/

namespace Ingest

namespace FanOut

/-- Where a consumer stands between two actions. -/
inductive Stance where
  /-- It may look. -/
  | ready
  /-- It is suspended until the next call. -/
  | parked
  /-- It wants the channel, or holds it. -/
  | pulling
deriving DecidableEq

/-- A fan-out in use. -/
structure Traffic (α : Type) where
  /-- The fan-out. -/
  hub : FanOut α
  /-- Where each consumer stands. -/
  stance : Nat → Stance
  /-- The calls that are owed. -/
  due : Nat
  /-- The items that the channel took, in order. -/
  accepted : List α
  /-- The items that each consumer received, in order. -/
  received : Nat → List α

namespace Traffic

variable {α : Type}

/-- A new fan-out. -/
def start (capacity consumers retention : Nat) : Traffic α where
  hub := .start capacity consumers retention
  stance _ := .ready
  due := 0
  accepted := []
  received _ := []

/-! ## What users do -/

/-- What a user of a fan-out does. -/
inductive Action (α : Type) where
  /-- The sender offers an item. -/
  | send (x : α)
  /-- The sender closes the channel. -/
  | close
  /-- A consumer looks for the next item among those kept. -/
  | look (i : Nat)
  /-- A consumer takes hold of the channel, if it is still its turn, or goes back to looking. -/
  | claim (i : Nat)
  /-- The holder is given an item, or the end, by the channel. -/
  | receive
  /-- The holder passes on what it was given, and lets go. -/
  | append
  /-- A call that is owed is made. -/
  | announce
  /-- A consumer stops asking, and lets go of the channel if it holds it. -/
  | abandon (i : Nat)
  /-- A consumer goes away. -/
  | drop (i : Nat)

variable (t : Traffic α)

/-- A consumer stands elsewhere. -/
def stand (i : Nat) (stance : Stance) : Traffic α :=
  { t with stance := Function.update t.stance i stance }

/-- Every suspended consumer wakes up. -/
def wake : Traffic α :=
  { t with stance := fun i => if t.stance i = .parked then .ready else t.stance i }

/-- The fan-out moved on. If items were forgotten, suspended consumers wake up. -/
def moved (hub : FanOut α) : Traffic α :=
  if hub.base = t.hub.base then { t with hub := hub } else wake { t with hub := hub }

/-- What a look that found something leads to. -/
def found (i : Nat) : Glance α → Traffic α
  | .item x => { t with received := Function.update t.received i (t.received i ++ [x]) }
  | .ended => t
  | .suspended => t.stand i .parked
  | .caughtUp => t.stand i .pulling

/-- Whether a consumer is in the middle of passing on what it was given. -/
def Busy (i : Nat) : Prop := t.hub.holder = some i ∧ t.hub.arrived ≠ none

instance (i : Nat) : Decidable (t.Busy i) := inferInstanceAs (Decidable (_ ∧ _))

/-- What an action leads to. An action that its user cannot take leads nowhere. -/
def step : Action α → Traffic α
  | .send x =>
    match t.hub.send x with
    | (.sent, hub) => { t with hub := hub, accepted := t.accepted ++ [x] }
    | (_, hub) => { t with hub := hub }
  | .close => { t with hub := t.hub.close }
  | .look i =>
    if t.stance i = .ready ∧ t.hub.cursor? i ≠ none then
      (t.moved (t.hub.read i).2).found i (t.hub.read i).1
    else t
  | .claim i =>
    if t.stance i = .pulling ∧ t.hub.holder = none then
      let after := { t with hub := t.hub.claim i }
      if after.hub.holder = some i then after else after.stand i .ready
    else t
  | .receive => { t with hub := t.hub.receive }
  | .append =>
    match t.hub.holder with
    | some i =>
      if t.hub.arrived = none then t
      else { t.stand i .ready with hub := t.hub.append, due := t.due + 1 }
    | none => t
  | .announce => if t.due = 0 then t else { t.wake with due := t.due - 1 }
  | .abandon i =>
    if t.Busy i then t
    else { t.stand i .ready with
      hub := if t.hub.holder = some i then t.hub.release else t.hub }
  | .drop i =>
    if t.hub.cursor? i = none ∨ t.Busy i then t
    else { t.stand i .ready with hub := t.hub.drop i, due := t.due + 1 }

/-- What some actions lead to, one after the other. -/
def run (actions : List (Action α)) : Traffic α := actions.foldl step t

@[simp] theorem run_nil : t.run [] = t := rfl

@[simp] theorem run_cons (a : Action α) (actions : List (Action α)) :
    t.run (a :: actions) = (t.step a).run actions := rfl

theorem run_append (actions more : List (Action α)) :
    t.run (actions ++ more) = (t.run actions).run more := List.foldl_append

/-! ## What holds all the time -/

/-- Each live consumer has received the accepted items before its position, every other a first part
of them, and a consumer that is asleep and owed no call is too far ahead. -/
structure Sound : Prop where
  keeps : t.hub.Keeps t.accepted
  received : ∀ i c, t.hub.cursor? i = some c → t.received i = t.accepted.take c
  prefixes : ∀ i, t.received i <+: t.accepted
  parked : ∀ i, t.stance i = .parked → t.due = 0 → t.hub.Ahead i
  pulling : ∀ i, t.hub.holder = some i → t.stance i = .pulling

variable {t} {i j c : Nat} {hub : FanOut α}

/-- At the start nobody waits and nothing is on its way. -/
theorem start_sound (capacity consumers retention : Nat) :
    (start capacity consumers retention : Traffic α).Sound where
  keeps := keeps_start capacity consumers retention
  received _ _ _ := List.take_nil.symm
  prefixes _ := List.prefix_refl _
  parked _ h := by cases h
  pulling _ h := by cases h

@[simp] theorem stand_self (s : Stance) : (t.stand i s).stance i = s := Function.update_self ..

theorem stand_of_ne (s : Stance) (h : j ≠ i) : (t.stand i s).stance j = t.stance j :=
  Function.update_of_ne h ..

@[simp] theorem stand_hub (s : Stance) : (t.stand i s).hub = t.hub := rfl
@[simp] theorem stand_due (s : Stance) : (t.stand i s).due = t.due := rfl
@[simp] theorem stand_accepted (s : Stance) : (t.stand i s).accepted = t.accepted := rfl
@[simp] theorem stand_received (s : Stance) : (t.stand i s).received = t.received := rfl

theorem wake_stance_ne (t : Traffic α) (i : Nat) : t.wake.stance i ≠ .parked := by
  simp only [wake]
  split_ifs with h
  · simp
  · exact h

@[simp] theorem moved_hub : (t.moved hub).hub = hub := by
  simp only [moved]
  split_ifs <;> rfl

@[simp] theorem moved_accepted : (t.moved hub).accepted = t.accepted := by
  simp only [moved]
  split_ifs <;> rfl

@[simp] theorem moved_received : (t.moved hub).received = t.received := by
  simp only [moved]
  split_ifs <;> rfl

@[simp] theorem moved_due : (t.moved hub).due = t.due := by
  simp only [moved]
  split_ifs <;> rfl

@[simp] theorem found_hub (t : Traffic α) (i : Nat) (glance : Glance α) :
    (t.found i glance).hub = t.hub := by
  cases glance <;> rfl

@[simp] theorem found_accepted (t : Traffic α) (i : Nat) (glance : Glance α) :
    (t.found i glance).accepted = t.accepted := by
  cases glance <;> rfl

/-- Whoever is still asleep after a move saw nothing forgotten. -/
theorem moved_parked (h : (t.moved hub).stance i = .parked) :
    hub.base = t.hub.base ∧ t.stance i = .parked := by
  simp only [moved] at h
  split_ifs at h with hbase
  · exact ⟨hbase, h⟩
  · exact absurd h (wake_stance_ne _ i)

theorem moved_pulling (h : t.stance i = .pulling) : (t.moved hub).stance i = .pulling := by
  simp only [moved]
  split_ifs
  · exact h
  · simp [wake, h]

namespace Sound

/-! ## One action at a time -/

/-- What does not touch the items kept, the consumers nor the history. -/
theorem withHub (h : t.Sound) (hkeeps : hub.Keeps t.accepted)
    (hcursors : hub.cursors = t.hub.cursors) (hbase : hub.base = t.hub.base)
    (hbuffer : hub.buffer = t.hub.buffer) (hfinished : hub.finished = t.hub.finished)
    (hretention : hub.retention = t.hub.retention)
    (hholder : ∀ i, hub.holder = some i → t.stance i = .pulling) :
    Sound { t with hub := hub } where
  keeps := hkeeps
  received i c hc := h.received i c (by rwa [cursor?, hcursors] at hc)
  prefixes := h.prefixes
  parked i hi hdue := by
    have hahead := h.parked i hi hdue
    rwa [Ahead, cursor?, stop, ← hcursors, ← hbase, ← hbuffer, ← hfinished, ← hretention] at hahead
  pulling := hholder

/-- A consumer that does not hold the channel may stand anywhere it is not asleep. -/
theorem stand (h : t.Sound) (hfree : t.hub.holder ≠ some i) {s : Stance}
    (hs : s = .parked → t.hub.Ahead i) : (t.stand i s).Sound where
  keeps := h.keeps
  received := h.received
  prefixes := h.prefixes
  parked j hj hdue := by
    by_cases hji : j = i
    · subst hji
      exact hs (by simpa using hj)
    · exact h.parked j (by rwa [stand_of_ne s hji] at hj) hdue
  pulling j hj := by
    rw [stand_of_ne s (by rintro rfl; exact hfree hj)]
    exact h.pulling j hj

/-- To send an item keeps the traffic sound. -/
theorem send (h : t.Sound) (x : α) : (t.step (.send x)).Sound := by
  simp only [step]
  rcases Keeps.send_cases t.hub x with
    ⟨-, heq⟩ | ⟨-, -, heq⟩ | ⟨-, -, -, heq⟩ | ⟨hopen, -, -, heq⟩ <;> rw [heq]
  · exact h
  · exact h
  · exact h
  · exact {
      keeps := h.keeps.send hopen x
      received := fun i c hc => by
        have hle : c ≤ t.accepted.length := (h.keeps.cursor i c hc).2.trans h.keeps.stop_le
        rw [List.take_append_of_le_length hle]
        exact h.received i c hc
      prefixes := fun i => (h.prefixes i).trans (List.prefix_append _ _)
      parked := h.parked
      pulling := h.pulling }

/-- To close the channel keeps the traffic sound. -/
theorem close (h : t.Sound) : (t.step .close).Sound :=
  h.withHub h.keeps.close rfl rfl rfl rfl rfl h.pulling

/-- A consumer that finds an item was given the accepted item at its position. -/
theorem look_item (h : t.Sound) (hready : t.stance i = .ready) (hc : t.hub.cursor? i = some c)
    {x : α} (hlt : c < t.hub.stop) (hx : t.accepted[c]? = some x) {after : FanOut α}
    (hafter : after = FanOut.trim { t.hub with cursors := t.hub.cursors.set i (some (c + 1)) }) :
    ((t.moved after).found i (.item x)).Sound := by
  have hcursor : ∀ j, after.cursor? j = if j = i then some (c + 1) else t.hub.cursor? j := by
    rw [hafter]
    exact cursor?_set_of_live hc _
  have hkeeps : after.Keeps t.accepted := hafter ▸ (h.keeps.advance hc hlt).trim
  have hgrow : t.received i ++ [x] = t.accepted.take (c + 1) := by
    rw [h.received i c hc, List.take_add_one, hx, Option.toList_some]
  constructor
  · simpa [found] using hkeeps
  · intro j p hp
    simp only [found, moved_hub, moved_accepted, moved_received, hcursor] at hp ⊢
    by_cases hji : j = i
    · subst hji
      obtain rfl : c + 1 = p := by simpa using hp
      rw [Function.update_self, hgrow]
    · rw [if_neg hji] at hp
      rw [Function.update_of_ne hji]
      exact h.received j p hp
  · intro j
    simp only [found, moved_accepted, moved_received]
    by_cases hji : j = i
    · subst hji
      rw [Function.update_self, hgrow]
      exact List.take_prefix _ _
    · rw [Function.update_of_ne hji]
      exact h.prefixes j
  · -- if nothing was forgotten, whoever was suspended still is
    intro j hj hdue
    obtain ⟨hbase, hparked⟩ :=
      moved_parked (show (t.moved after).stance j = .parked from hj)
    have hne : j ≠ i := by
      rintro rfl
      simp [hready] at hparked
    obtain ⟨hcj, hfinished, hfull⟩ := h.parked j hparked (by simpa [found] using hdue)
    have hahead : Ahead { t.hub with cursors := t.hub.cursors.set i (some (c + 1)) } j :=
      ⟨(cursor?_set_of_live hc _ j).trans ((if_neg hne).trans hcj), hfinished, hfull⟩
    simp only [found, moved_hub]
    rw [hafter] at hbase ⊢
    exact hahead.trim hbase
  · intro j hj
    have hholder : t.hub.holder = some j := by
      simpa [found, hafter] using hj
    exact moved_pulling (h.pulling j hholder)

/-- A consumer can look what is kept for it at any time. -/
theorem look (h : t.Sound) (i : Nat) : (t.step (.look i)).Sound := by
  simp only [step]
  split_ifs with hcan
  swap
  · exact h
  obtain ⟨hready, hlive⟩ := hcan
  obtain ⟨c, hc⟩ := Option.ne_none_iff_exists'.mp hlive
  have hfree : t.hub.holder ≠ some i := fun hi => by simp [h.pulling i hi] at hready
  have hstay : t.moved t.hub = t := if_pos rfl
  rcases h.keeps.read_cases hc with ⟨x, hlt, hx, -, heq⟩ | ⟨-, hcase⟩
  · rw [heq]
    exact h.look_item hready hc hlt hx rfl
  rcases hcase with ⟨-, heq⟩ | ⟨-, -, heq⟩ | ⟨-, -, heq⟩ <;> rw [heq, hstay]
  · exact h
  · exact h.stand hfree fun _ => h.keeps.read_eq_suspended_iff.mp (by rw [heq])
  · exact h.stand hfree (by simp)

/-- A consumer can claim the channel at any time. -/
theorem claim (h : t.Sound) (i : Nat) : (t.step (.claim i)).Sound := by
  simp only [step]
  split_ifs with hcan hheld
  · -- the channel is claimed
    rcases Keeps.claim_cases t.hub i with heq | ⟨-, -, -, -, heq⟩
    · rw [heq] at hheld
      simp [hcan.2] at hheld
    · refine h.withHub (h.keeps.claim i) ?_ ?_ ?_ ?_ ?_ ?_ <;> rw [heq]
      rintro j ⟨⟩
      exact hcan.1
  · rcases Keeps.claim_cases t.hub i with heq | ⟨-, -, -, -, heq⟩
    · rw [heq]
      exact h.stand (by simp [hcan.2]) (by simp)
    · rw [heq] at hheld
      exact absurd rfl hheld
  · exact h

/-- The traffic stays sound when the holder is handed what comes out of the channel. -/
theorem receive (h : t.Sound) : (t.step .receive).Sound := by
  rcases Keeps.receive_cases t.hub with heq | ⟨-, -, ⟨x, rest, -, heq⟩ | ⟨-, -, heq⟩⟩
  · simp only [step, heq]
    exact h
  all_goals
    refine h.withHub h.keeps.receive ?_ ?_ ?_ ?_ ?_ ?_ <;> rw [heq]
    exact h.pulling

/-- The traffic stays sound when the holder leaves its item for the others. -/
theorem append (h : t.Sound) : (t.step .append).Sound := by
  simp only [step]
  rcases hholder : t.hub.holder with _ | i
  · exact h
  dsimp only
  split_ifs with harrived
  · exact h
  have hcursor : t.hub.append.cursors = t.hub.cursors ∧ t.hub.append.holder = none := by
    obtain ⟨given, hgiven⟩ := Option.ne_none_iff_exists'.mp harrived
    rcases given with _ | x <;> simp [FanOut.append, hgiven]
  exact {
    keeps := h.keeps.append
    received := fun j c hc => h.received j c (by rwa [cursor?, hcursor.1] at hc)
    prefixes := h.prefixes
    parked := fun j _ hdue => absurd hdue (Nat.succ_ne_zero _)
    pulling := fun j hj => by simp [hcursor.2] at hj }

/-- A call that is owed can be made at any time. -/
theorem announce (h : t.Sound) : (t.step .announce).Sound := by
  simp only [step]
  split_ifs with hdue
  · exact h
  exact {
    keeps := h.keeps
    received := h.received
    prefixes := h.prefixes
    parked := fun i hi _ => absurd hi (wake_stance_ne t i)
    pulling := fun i hi => by simp [wake, h.pulling i hi] }

/-- A consumer can stop waiting at any time. -/
theorem abandon (h : t.Sound) (i : Nat) : (t.step (.abandon i)).Sound := by
  simp only [step]
  split_ifs with hbusy hholder
  · exact h
  · have hnone : t.hub.arrived = none := by
      by_contra hne
      exact hbusy ⟨hholder, hne⟩
    have hrelease : t.hub.release = { t.hub with holder := none } := by
      simp [FanOut.release, hnone]
    have hsound : Sound { t with hub := t.hub.release } := by
      refine h.withHub h.keeps.release ?_ ?_ ?_ ?_ ?_ ?_ <;> rw [hrelease]
      intro j hj
      cases hj
    exact hsound.stand (by simp [hrelease]) (by simp)
  · exact h.stand hholder (by simp)

/-- A consumer can go away at any time. -/
theorem drop (h : t.Sound) (i : Nat) : (t.step (.drop i)).Sound := by
  simp only [step]
  split_ifs with hcannot
  · exact h
  obtain ⟨-, hfree⟩ := not_or.mp hcannot
  have hcursor : ∀ j, (t.hub.drop i).cursor? j = if j = i then none else t.hub.cursor? j :=
    cursor?_set_none { t.hub with holder := t.hub.holder.filter (· ≠ i) } i
  exact {
    keeps := h.keeps.drop fun hi => by
      by_contra hne
      exact hfree ⟨hi, hne⟩
    received := fun j c hc => by
      have hc' : (t.hub.drop i).cursor? j = some c := hc
      rw [hcursor] at hc'
      split_ifs at hc' with hji
      exact h.received j c hc'
    prefixes := h.prefixes
    parked := fun j _ hdue => absurd hdue (Nat.succ_ne_zero _)
    pulling := fun j hj => by
      obtain ⟨hholder, hne⟩ := Option.filter_eq_some_iff.mp
        (show t.hub.holder.filter (· ≠ i) = some j from hj)
      change (t.stand i .ready).stance j = _
      rw [stand_of_ne _ (by simpa using hne)]
      exact h.pulling j hholder }

/-- **Every action keeps the traffic sound.** -/
theorem step (h : t.Sound) (a : Action α) : (t.step a).Sound := by
  cases a with
  | send x => exact h.send x
  | close => exact h.close
  | look i => exact h.look i
  | claim i => exact h.claim i
  | receive => exact h.receive
  | append => exact h.append
  | announce => exact h.announce
  | abandon i => exact h.abandon i
  | drop i => exact h.drop i

/-- **Whatever happens** keeps the traffic sound. -/
theorem run (h : t.Sound) (actions : List (Action α)) : (t.run actions).Sound := by
  induction actions generalizing t with
  | nil => exact h
  | cons a actions ih => exact ih (h.step a)

end Sound

/-- **Traffic is sound at any time**, whatever its users do and in which order. -/
theorem run_sound (capacity consumers retention : Nat) (actions : List (Action α)) :
    ((start capacity consumers retention).run actions).Sound :=
  (start_sound capacity consumers retention).run actions

end Traffic

end FanOut

end Ingest
