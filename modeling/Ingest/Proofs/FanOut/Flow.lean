import Ingest.Proofs.FanOut.Quiet

/-!
# Proofs/FanOut/Flow — what is still to be done

Whatever happens in a fan-out to which nothing is sent, something gets less: what may still come
through the channel (`flow`), what a consumer has not read (`unread`) or, as long as these stay the
same, how often a consumer can turn to the channel and away from it again (`Traffic.patience`). Each
operation has one lemma for each of these that it changes.
-/

namespace Ingest

namespace FanOut

variable {α : Type} {f : FanOut α} {i j c : Nat} {accepted : List α} {x : α}

/-! ## The channel -/

/-- What the channel and its holder still have to pass on, the end of the items included. -/
def flow (f : FanOut α) : Nat :=
  2 * f.channel.length +
    if f.finished then 0
    else
      match f.arrived with
      | none => 2
      | some (some _) => 3
      | some none => 1

@[simp] theorem read_flow (f : FanOut α) (i : Nat) : (f.read i).2.flow = f.flow := by
  rcases read_snd f i with heq | ⟨cursors, heq⟩ <;> rw [heq]
  rfl

@[simp] theorem claim_flow (f : FanOut α) (i : Nat) : (f.claim i).flow = f.flow := by
  rcases Keeps.claim_cases f i with heq | ⟨-, -, -, -, heq⟩ <;> rw [heq]
  rfl

@[simp] theorem drop_flow (f : FanOut α) (i : Nat) : (f.drop i).flow = f.flow := rfl

/-- A sender that has to wait found a receiver and a full channel. -/
theorem send_eq_full (h : (f.send x).1 = .full) :
    f.slowest? ≠ none ∧ f.capacity ≤ f.channel.length := by
  rcases Keeps.send_cases f x with ⟨-, heq⟩ | ⟨-, -, heq⟩ | ⟨-, hlive, hfull, -⟩ | ⟨-, -, -, heq⟩
  · rw [heq] at h; cases h
  · rw [heq] at h; cases h
  · exact ⟨hlive, hfull⟩
  · rw [heq] at h; cases h

/-- The holder takes something out of the channel. -/
theorem Keeps.receive_flow_lt (h : f.Keeps accepted) (hholder : f.holder = some i)
    (harrived : f.arrived = none) (hsome : f.channel ≠ [] ∨ f.closed = true) :
    f.receive.flow < f.flow := by
  have hfinished := (h.holding i hholder).2.1
  rcases hchannel : f.channel with _ | ⟨x, rest⟩
  · have hclosed := hsome.resolve_left (absurd hchannel)
    simp [FanOut.receive, flow, hholder, harrived, hchannel, hclosed, hfinished]
  · simp only [FanOut.receive, flow, hholder, harrived, hchannel, hfinished, List.length_cons,
      Bool.false_eq_true, if_false]
    omega

/-- The holder passes on what it was given. -/
theorem Keeps.append_flow_lt (h : f.Keeps accepted) (harrived : f.arrived ≠ none) :
    f.append.flow < f.flow := by
  obtain ⟨given, hgiven⟩ := Option.ne_none_iff_exists'.mp harrived
  obtain ⟨i, hi⟩ := h.exists_holder hgiven
  have hfinished := (h.holding i hi).2.1
  rcases given with _ | x <;> simp [FanOut.append, flow, hgiven, hfinished]

/-! ## The items kept -/

/-- The number of kept items that a consumer has not read. -/
def unread (f : FanOut α) (i : Nat) : Nat := f.stop - (f.cursor? i).getD f.stop

@[simp] theorem claim_unread (f : FanOut α) (i j : Nat) : (f.claim i).unread j = f.unread j := by
  rcases Keeps.claim_cases f i with heq | ⟨-, -, -, -, heq⟩ <;> rw [heq]
  rfl

/-- A consumer that goes away takes nothing from the others. -/
theorem drop_unread (hji : j ≠ i) : (f.drop i).unread j = f.unread j := by
  have hcursor : (f.drop i).cursor? j = f.cursor? j :=
    (cursor?_set_none { f with holder := f.holder.filter (· ≠ i) } i j).trans (if_neg hji)
  have hstop : (f.drop i).stop = f.stop := trim_stop _
  rw [unread, unread, hcursor, hstop]

/-- A consumer that finds an item has one less to read, and the others have as many as before. -/
theorem Keeps.read_unread (h : f.Keeps accepted) (hread : (f.read i).1 = .item x)
    (hlive : f.cursor? i ≠ none) :
    f.unread i = (f.read i).2.unread i + 1 ∧ ∀ j ≠ i, (f.read i).2.unread j = f.unread j := by
  obtain ⟨c, hc⟩ := Option.ne_none_iff_exists'.mp hlive
  rcases h.read_cases hc with ⟨y, hlt, -, -, heq⟩ | ⟨-, ⟨-, heq⟩ | ⟨-, -, heq⟩ | ⟨-, -, heq⟩⟩
  swap
  · rw [heq] at hread; cases hread
  swap
  · rw [heq] at hread; cases hread
  swap
  · rw [heq] at hread; cases hread
  have hstop : (f.read i).2.stop = f.stop := by
    rw [heq]
    exact trim_stop _
  have hcursor : ∀ j, (f.read i).2.cursor? j = if j = i then some (c + 1) else f.cursor? j := by
    rw [heq]
    exact cursor?_set_of_live hc _
  refine ⟨?_, fun j hji => ?_⟩
  · rw [unread, unread, hstop, hcursor, if_pos rfl, hc, Option.getD_some, Option.getD_some]
    omega
  · rw [unread, unread, hstop, hcursor, if_neg hji]

/-! ## Turning to the channel -/

/-- A consumer has read everything kept, and there is room for more. -/
def CaughtUp (f : FanOut α) (i : Nat) : Prop :=
  f.cursor? i = some f.stop ∧ f.finished = false ∧ f.buffer.length < f.retention

instance (f : FanOut α) (i : Nat) : Decidable (f.CaughtUp i) :=
  inferInstanceAs (Decidable (_ ∧ _ ∧ _))

/-- A consumer that is told to wait has read everything kept. -/
theorem Keeps.caughtUp_of_read (h : f.Keeps accepted) (hread : (f.read i).1 = .caughtUp) :
    f.CaughtUp i := by
  rcases hc : f.cursor? i with _ | c
  · simp [FanOut.read, hc] at hread
  rcases h.read_cases hc with ⟨y, -, -, -, heq⟩ | ⟨rfl, ⟨-, heq⟩ | ⟨-, -, heq⟩ | ⟨hf, hl, -⟩⟩
  · rw [heq] at hread; cases hread
  · rw [heq] at hread; cases hread
  · rw [heq] at hread; cases hread
  · exact ⟨hc, hf, hl⟩

/-- A consumer that has read everything kept gets hold of the channel. -/
theorem claim_of_caughtUp (h : f.CaughtUp i) (hfree : f.holder = none) :
    f.claim i = { f with holder := some i } := by
  obtain ⟨hc, hfinished, hroom⟩ := h
  simp [claim, hc, hfinished, hfree, not_le.mpr hroom]

namespace Traffic

variable {t : Traffic α}

/-- How often a consumer can still turn to the channel and away from it, if nothing passes it. -/
def patience (t : Traffic α) (i : Nat) : Nat :=
  match t.stance i with
  | .parked => 0
  | .ready => if t.hub.CaughtUp i then 3 else 4
  | .pulling => if t.hub.holder = some i then 1 else if t.hub.CaughtUp i then 2 else 5

variable {t' : Traffic α}

/-- A consumer that stands where it stood, with the same before it, is as patient as it was. -/
theorem patience_congr (hstance : t'.stance j = t.stance j)
    (hholder : t'.hub.holder = some j ↔ t.hub.holder = some j)
    (hcaught : t'.hub.CaughtUp j ↔ t.hub.CaughtUp j) : t'.patience j = t.patience j := by
  simp only [patience, hstance, hholder, hcaught]

theorem stand_patience (s : Stance) (hji : j ≠ i) : (t.stand i s).patience j = t.patience j :=
  patience_congr (stand_of_ne s hji) Iff.rfl Iff.rfl

/-- **A look** that finds neither an item nor the end. -/
theorem Sound.found_patience_lt (h : t.Sound) (hready : t.stance i = .ready)
    (hitem : ∀ x, (t.hub.read i).1 ≠ .item x) (hended : (t.hub.read i).1 ≠ .ended) :
    (t.found i (t.hub.read i).1).patience i < t.patience i := by
  have hbefore : 3 ≤ t.patience i := by
    simp only [patience, hready]
    split_ifs <;> omega
  cases hread : (t.hub.read i).1 with
  | item x => exact absurd hread (hitem x)
  | ended => exact absurd hread hended
  | suspended =>
    have hafter : (t.stand i .parked).patience i = 0 := by simp [patience]
    change (t.stand i .parked).patience i < _
    omega
  | caughtUp =>
    have hcaught := h.keeps.caughtUp_of_read hread
    have hafter : (t.stand i .pulling).patience i ≤ 2 := by
      rw [patience, stand_self]
      dsimp only
      rw [if_pos (show (t.stand i .pulling).hub.CaughtUp i from hcaught)]
      split_ifs <;> omega
    change (t.stand i .pulling).patience i < _
    omega

/-- A look that finds no item does not change the patience of the others. -/
theorem found_patience {glance : Glance α} (hitem : ∀ x, glance ≠ .item x) (hji : j ≠ i) :
    (t.found i glance).patience j = t.patience j := by
  cases glance with
  | item x => exact absurd rfl (hitem x)
  | ended => rfl
  | suspended => exact stand_patience _ hji
  | caughtUp => exact stand_patience _ hji

section Claim

variable (hpulling : t.stance i = .pulling) (hfree : t.hub.holder = none)

include hpulling hfree

/-- What a claim leads to. -/
theorem step_claim_cases :
    t.step (.claim i) = { t with hub := { t.hub with holder := some i } } ∨
      ¬t.hub.CaughtUp i ∧ t.step (.claim i) = t.stand i .ready := by
  rcases Keeps.claim_cases t.hub i with heq | ⟨-, -, -, -, heq⟩
  · refine .inr ⟨fun hcaught => ?_, ?_⟩
    · rw [claim_of_caughtUp hcaught hfree] at heq
      simpa [hfree] using congrArg FanOut.holder heq
    · simp [step, hpulling, hfree, heq]
  · exact .inl (by simp [step, hpulling, hfree, heq])

/-- **A claim** is granted, or it came too late. -/
theorem claim_patience_lt : (t.step (.claim i)).patience i < t.patience i := by
  have hbefore : t.patience i = if t.hub.CaughtUp i then 2 else 5 := by
    simp [patience, hpulling, hfree]
  rcases step_claim_cases hpulling hfree with heq | ⟨hcaught, heq⟩ <;> rw [heq, hbefore]
  · simp only [patience, hpulling, if_true]
    split_ifs <;> omega
  · rw [if_neg hcaught]
    simp [patience, hcaught]

theorem claim_patience (hji : j ≠ i) : (t.step (.claim i)).patience j = t.patience j := by
  rcases step_claim_cases hpulling hfree with heq | ⟨-, heq⟩ <;> rw [heq]
  · exact patience_congr rfl (by simp [hfree, hji.symm]) Iff.rfl
  · exact stand_patience _ hji

end Claim

/-- A claim does nothing to what is in the channel or kept. -/
theorem step_claim_hub (t : Traffic α) (i : Nat) :
    (t.step (.claim i)).hub = t.hub ∨ (t.step (.claim i)).hub = t.hub.claim i := by
  simp only [step]
  split_ifs
  · exact .inr rfl
  · exact .inr rfl
  · exact .inl rfl

@[simp] theorem step_claim_due (t : Traffic α) (i : Nat) : (t.step (.claim i)).due = t.due := by
  simp only [step]
  split_ifs <;> rfl

@[simp] theorem found_due (t : Traffic α) (i : Nat) (glance : Glance α) :
    (t.found i glance).due = t.due := by
  cases glance <;> rfl

theorem step_look_hub (hready : t.stance i = .ready) (hlive : t.hub.cursor? i ≠ none) :
    (t.step (.look i)).hub = (t.hub.read i).2 := by
  simp only [step, if_pos (And.intro hready hlive), found_hub, moved_hub]

end Traffic

end FanOut

end Ingest
