import Ingest.FanOut
import Mathlib.Data.List.Basic
import Mathlib.Order.MinMax

/-!
# Proofs/FanOut/Keeping — the items kept are a window of the items accepted

`Keeps f accepted` says where the accepted items of a fan-out are: those before `base` are
forgotten, the others are kept, in the hands of the holder or in the channel, in this order. Live
consumers stand in the part that is kept and the slowest one at its start. Each operation has one
lemma that says that it keeps this. Main statement: `Keeps.read`, where forgetting what everybody
has read moves the start of that part to the slowest consumer again.
-/

namespace Ingest

namespace FanOut

variable {α : Type} {f : FanOut α} {i j c m : Nat} {accepted : List α} {x : α}

/-! ## Positions of consumers -/

/-- Moving one cursor leaves the others where they are. -/
theorem cursor?_set_of_live (h : f.cursor? i = some c) (p : Option Nat) (j : Nat) :
    cursor? { f with cursors := f.cursors.set i p } j = if j = i then p else f.cursor? j := by
  have hlen : i < f.cursors.length := by
    by_contra hle
    simp [cursor?, List.getElem?_eq_none (not_lt.mp hle)] at h
  by_cases hji : j = i
  · subst hji
    simp [cursor?, hlen]
  · simp [cursor?, List.getElem?_set_ne (Ne.symm hji), hji]

theorem cursor?_set_none (f : FanOut α) (i j : Nat) :
    cursor? { f with cursors := f.cursors.set i none } j = if j = i then none else f.cursor? j := by
  rcases h : f.cursor? i with _ | c
  · by_cases hji : j = i
    · subst hji
      by_cases hlen : j < f.cursors.length <;> simp [cursor?, hlen]
    · simp [cursor?, List.getElem?_set_ne (Ne.symm hji), hji]
  · exact cursor?_set_of_live h none j

theorem mem_positions : c ∈ f.cursors.filterMap id ↔ ∃ i, f.cursor? i = some c := by
  rw [List.mem_filterMap]
  simp only [id, exists_eq_right, List.mem_iff_getElem?, cursor?, Option.join_eq_some_iff]

/-- The slowest consumer is a live one, and no live one is slower. -/
theorem slowest?_eq_some_iff :
    f.slowest? = some m ↔ (∃ i, f.cursor? i = some m) ∧ ∀ i c, f.cursor? i = some c → m ≤ c := by
  rw [slowest?, List.min?_eq_some_iff, mem_positions]
  refine and_congr_right fun _ => ⟨fun h i c hc => h c (mem_positions.mpr ⟨i, hc⟩), ?_⟩
  intro h c hc
  obtain ⟨i, hi⟩ := mem_positions.mp hc
  exact h i c hi

/-- Nobody is the slowest if nobody is left. -/
theorem slowest?_eq_none_iff : f.slowest? = none ↔ ∀ i, f.cursor? i = none := by
  rw [slowest?, List.min?_eq_none_iff, List.eq_nil_iff_forall_not_mem]
  constructor
  · intro h i
    by_contra hne
    obtain ⟨c, hc⟩ := Option.ne_none_iff_exists'.mp hne
    exact h c (mem_positions.mpr ⟨i, hc⟩)
  · intro h c hc
    obtain ⟨i, hi⟩ := mem_positions.mp hc
    simp [h i] at hi

/-- As long as a consumer is live there is a slowest one. -/
theorem exists_slowest (h : f.cursor? i = some c) : ∃ m, f.slowest? = some m := by
  rw [← Option.ne_none_iff_exists', ne_eq, slowest?_eq_none_iff]
  intro hnone
  simp [hnone i] at h

/-! ## Forgetting -/

section Trim

variable (f : FanOut α)

@[simp] theorem trim_cursor? (i : Nat) : f.trim.cursor? i = f.cursor? i := rfl
@[simp] theorem trim_slowest? : f.trim.slowest? = f.slowest? := rfl
@[simp] theorem trim_retention : f.trim.retention = f.retention := rfl
@[simp] theorem trim_capacity : f.trim.capacity = f.capacity := rfl
@[simp] theorem trim_channel : f.trim.channel = f.channel := rfl
@[simp] theorem trim_closed : f.trim.closed = f.closed := rfl
@[simp] theorem trim_finished : f.trim.finished = f.finished := rfl
@[simp] theorem trim_holder : f.trim.holder = f.holder := rfl
@[simp] theorem trim_arrived : f.trim.arrived = f.arrived := rfl

/-- Nothing is forgotten at the other end. -/
@[simp] theorem trim_stop : f.trim.stop = f.stop := by
  simp only [stop, trim, List.length_drop]
  omega

/-- What is forgotten stays forgotten. -/
theorem base_le_trim : f.base ≤ f.trim.base := Nat.le_add_right _ _

theorem trim_buffer : f.trim.buffer = f.buffer.drop (f.trim.base - f.base) := by
  simp only [trim, Nat.add_sub_cancel_left]
  rcases le_total ((f.slowest?.getD f.stop) - f.base) f.buffer.length with h | h
  · rw [min_eq_left h]
  · rw [min_eq_right h, List.drop_of_length_le h, List.drop_length]

end Trim

/-! ## Where the accepted items are -/

/-- A consumer is too far ahead: it has read everything kept, and that is as much as may be. -/
def Ahead (f : FanOut α) (i : Nat) : Prop :=
  f.cursor? i = some f.stop ∧ f.finished = false ∧ f.retention ≤ f.buffer.length

/-- Whoever is too far ahead stays so if nothing is forgotten. -/
theorem Ahead.trim (h : f.Ahead i) (hbase : f.trim.base = f.base) : f.trim.Ahead i := by
  obtain ⟨hcursor, hfinished, hfull⟩ := h
  have hbuffer : f.trim.buffer = f.buffer := by
    rw [trim_buffer, hbase, Nat.sub_self, List.drop_zero]
  refine ⟨?_, hfinished, ?_⟩
  · rw [trim_cursor?, trim_stop, hcursor]
  · rwa [trim_retention, hbuffer]

/-- The item that the holder was given. -/
def handed (f : FanOut α) : List α := f.arrived.join.toList

/-- The accepted items are forgotten, kept, handed to the holder or in the channel, and live
consumers stand in the part that is kept. -/
structure Stores (f : FanOut α) (accepted : List α) : Prop where
  base_le : f.base ≤ accepted.length
  kept : accepted.drop f.base = f.buffer ++ f.handed ++ f.channel
  cursor : ∀ i c, f.cursor? i = some c → f.base ≤ c ∧ c ≤ f.stop
  room : f.buffer.length ≤ f.retention
  holding : ∀ i, f.holder = some i →
    f.buffer.length < f.retention ∧ f.finished = false ∧ f.cursor? i = some f.stop
  arrived : f.holder = none → f.arrived = none
  ending : f.arrived = some none ∨ f.finished = true → f.closed = true ∧ f.channel = []

/-- Moreover, what every live consumer has read is forgotten. -/
structure Keeps (f : FanOut α) (accepted : List α) : Prop extends f.Stores accepted where
  slowest : ∀ m, f.slowest? = some m → f.base = m

/-- At the start nothing was accepted and nothing is kept. -/
theorem keeps_start (capacity consumers retention : Nat) :
    (start capacity consumers retention : FanOut α).Keeps [] where
  base_le := Nat.le_refl 0
  kept := rfl
  cursor i c hc := by
    have hmem : some c ∈ List.replicate consumers (some 0) :=
      List.mem_iff_getElem?.mpr ⟨i, Option.join_eq_some_iff.mp hc⟩
    obtain rfl : c = 0 := Option.some.inj (List.eq_of_mem_replicate hmem)
    exact ⟨Nat.le_refl 0, Nat.le_refl 0⟩
  room := Nat.zero_le _
  holding i hi := by cases hi
  arrived _ := rfl
  ending h := by rcases h with h | h <;> cases h
  slowest m hm := by
    obtain ⟨⟨i, hi⟩, -⟩ := slowest?_eq_some_iff.mp hm
    have hmem : some m ∈ List.replicate consumers (some 0) :=
      List.mem_iff_getElem?.mpr ⟨i, Option.join_eq_some_iff.mp hi⟩
    exact (Option.some.inj (List.eq_of_mem_replicate hmem)).symm

/-- At first every consumer is live. -/
theorem start_cursor?_ne_none_iff (capacity consumers retention i : Nat) :
    (start capacity consumers retention : FanOut α).cursor? i ≠ none ↔ i < consumers := by
  by_cases hi : i < consumers <;> simp [start, cursor?, hi]

namespace Stores

/-- The items up to the end of those kept. -/
theorem stop_le (h : f.Stores accepted) : f.stop ≤ accepted.length := by
  have hlen := congrArg List.length h.kept
  simp only [List.length_drop, List.length_append] at hlen
  have := h.base_le
  simp only [stop]
  omega

/-- What nobody can read yet is on its way: with the holder, or in the channel. -/
theorem drop_stop (h : f.Stores accepted) : accepted.drop f.stop = f.handed ++ f.channel := by
  rw [stop, ← List.drop_drop, h.kept, List.append_assoc, List.drop_left]

/-- What a consumer finds is the accepted item at its position. -/
theorem getElem?_buffer (h : f.Stores accepted) (hbase : f.base ≤ c) (hstop : c < f.stop) :
    f.buffer[c - f.base]? = accepted[c]? := by
  have hget : (accepted.drop f.base)[c - f.base]? = accepted[c]? := by
    rw [List.getElem?_drop]
    congr 1
    omega
  simp only [stop] at hstop
  rw [← hget, h.kept, List.append_assoc, List.getElem?_append_left (by omega)]

/-- Nothing is forgotten before the slowest consumer, nor kept that everybody has read. -/
theorem trim_base (h : f.Stores accepted) : f.trim.base = f.slowest?.getD f.stop := by
  have hbetween : f.base ≤ f.slowest?.getD f.stop ∧ f.slowest?.getD f.stop ≤ f.stop := by
    rcases hs : f.slowest? with _ | m
    · exact ⟨Nat.le_add_right _ _, le_rfl⟩
    · obtain ⟨⟨i, hi⟩, -⟩ := slowest?_eq_some_iff.mp hs
      exact h.cursor i m hi
  simp only [FanOut.trim]
  simp only [stop] at hbetween ⊢
  omega

/-- What is kept is still followed by what was not passed on. -/
theorem trim_kept (h : f.Stores accepted) :
    accepted.drop f.trim.base = f.trim.buffer ++ f.handed ++ f.channel := by
  have hdrop : accepted.drop f.trim.base
      = (accepted.drop f.base).drop (f.trim.base - f.base) := by
    rw [List.drop_drop, Nat.add_sub_cancel' f.base_le_trim]
  have hin : f.trim.base - f.base ≤ f.buffer.length := by
    have hle : f.trim.base ≤ f.trim.stop := Nat.le_add_right _ _
    rw [trim_stop, stop] at hle
    omega
  rw [hdrop, h.kept, trim_buffer, List.append_assoc, List.drop_append_of_le_length hin,
    List.append_assoc]

/-- **Forgetting what everybody has read** moves the start of what is kept to the slowest consumer,
and to the end if there is none. -/
theorem trim (h : f.Stores accepted) : f.trim.Keeps accepted := by
  have hlen : f.trim.buffer.length ≤ f.buffer.length := by
    rw [trim_buffer, List.length_drop]
    omega
  have hle : f.trim.base ≤ f.trim.stop := Nat.le_add_right _ _
  rw [trim_stop] at hle
  constructor
  · constructor
    · exact hle.trans h.stop_le
    · exact h.trim_kept
    · intro i c hc
      obtain ⟨m, hm⟩ := exists_slowest hc
      rw [trim_slowest?] at hm
      rw [trim_stop, h.trim_base, hm]
      exact ⟨(slowest?_eq_some_iff.mp hm).2 i c hc, (h.cursor i c hc).2⟩
    · exact hlen.trans h.room
    · intro i hi
      obtain ⟨hroom, hfinished, hcursor⟩ := h.holding i hi
      exact ⟨hlen.trans_lt hroom, hfinished, by simpa using hcursor⟩
    · exact h.arrived
    · exact h.ending
  · intro m hm
    rw [trim_slowest?] at hm
    rw [h.trim_base, hm, Option.getD_some]

end Stores

namespace Keeps

/-! ## The sender -/

/-- What a sender hears, and that nothing changes unless the channel takes the item. -/
theorem send_cases (f : FanOut α) (x : α) :
    f.closed = true ∧ f.send x = (.noSender, f) ∨
      f.closed = false ∧ f.slowest? = none ∧ f.send x = (.closed, f) ∨
      f.closed = false ∧ f.slowest? ≠ none ∧ f.capacity ≤ f.channel.length ∧
        f.send x = (.full, f) ∨
      f.closed = false ∧ f.slowest? ≠ none ∧ f.channel.length < f.capacity ∧
        f.send x = (.sent, { f with channel := f.channel ++ [x] }) := by
  rcases hclosed : f.closed with _ | _
  swap
  · exact .inl ⟨rfl, by simp [FanOut.send, hclosed]⟩
  rcases hslowest : f.slowest? with _ | m
  · exact .inr (.inl ⟨rfl, rfl, by simp [FanOut.send, hclosed, hslowest]⟩)
  rcases le_or_gt f.capacity f.channel.length with hfull | hroom
  · exact .inr (.inr (.inl ⟨rfl, nofun, hfull, by simp [FanOut.send, hclosed, hslowest, hfull]⟩))
  · exact .inr (.inr (.inr ⟨rfl, nofun, hroom, by
      simp [FanOut.send, hclosed, hslowest, not_le.mpr hroom]⟩))

/-- An item that the channel takes is the last of those accepted. -/
theorem send (h : f.Keeps accepted) (hopen : f.closed = false) (x : α) :
    Keeps { f with channel := f.channel ++ [x] } (accepted ++ [x]) where
  base_le := h.base_le.trans (by simp)
  kept := by
    rw [List.drop_append_of_le_length h.base_le, h.kept]
    exact List.append_assoc _ _ _
  cursor := h.cursor
  room := h.room
  holding := h.holding
  arrived := h.arrived
  ending hend := by simp [(h.ending hend).1] at hopen
  slowest := h.slowest

/-- Closing the channel loses nothing. -/
theorem close (h : f.Keeps accepted) : f.close.Keeps accepted where
  base_le := h.base_le
  kept := h.kept
  cursor := h.cursor
  room := h.room
  holding := h.holding
  arrived := h.arrived
  ending hend := ⟨rfl, (h.ending hend).2⟩
  slowest := h.slowest

/-! ## Taking an item out of the channel -/

/-- The channel is claimed by a consumer that has read everything kept, if there is room. -/
theorem claim_cases (f : FanOut α) (i : Nat) :
    f.claim i = f ∨ f.holder = none ∧ f.finished = false ∧ f.buffer.length < f.retention ∧
      (∃ c, f.cursor? i = some c ∧ f.stop ≤ c) ∧ f.claim i = { f with holder := some i } := by
  simp only [claim]
  split_ifs with hbusy
  · exact .inl rfl
  rcases hc : f.cursor? i with _ | c
  · exact .inl rfl
  dsimp only
  split_ifs with hstop
  · simp only [Bool.or_eq_true, not_or, Bool.not_eq_true, Option.isSome_eq_false_iff,
      Option.isNone_iff_eq_none, decide_eq_true_eq, not_le] at hbusy
    exact .inr ⟨hbusy.1.1, hbusy.1.2, hbusy.2, ⟨c, rfl, hstop⟩, rfl⟩
  · exact .inl rfl

/-- A consumer that holds the channel has read everything kept, and there is room for one more. -/
theorem claim (h : f.Keeps accepted) (i : Nat) : (f.claim i).Keeps accepted := by
  rcases claim_cases f i with heq | ⟨hfree, hfinished, hroom, ⟨c, hc, hstop⟩, heq⟩
  · rwa [heq]
  rw [heq]
  obtain rfl : c = f.stop := le_antisymm (h.cursor i c hc).2 hstop
  exact {
    base_le := h.base_le
    kept := h.kept
    cursor := h.cursor
    room := h.room
    holding := by
      rintro j ⟨⟩
      exact ⟨hroom, hfinished, hc⟩
    arrived := nofun
    ending := h.ending
    slowest := h.slowest }

/-- The holder of the channel is handed the next item, or the news that there is none. -/
theorem receive_cases (f : FanOut α) :
    f.receive = f ∨ (∃ i, f.holder = some i) ∧ f.arrived = none ∧
      ((∃ x rest, f.channel = x :: rest ∧
          f.receive = { f with channel := rest, arrived := some (some x) }) ∨
        f.channel = [] ∧ f.closed = true ∧ f.receive = { f with arrived := some none }) := by
  simp only [receive]
  rcases f.holder with _ | i <;> rcases f.arrived with _ | arrived
  · exact .inl rfl
  · exact .inl rfl
  · rcases f.channel with _ | ⟨x, rest⟩
    · dsimp only
      split_ifs with hclosed
      · exact .inr ⟨⟨i, rfl⟩, rfl, .inr ⟨rfl, hclosed, rfl⟩⟩
      · exact .inl rfl
    · exact .inr ⟨⟨i, rfl⟩, rfl, .inl ⟨x, rest, rfl, rfl⟩⟩
  · exact .inl rfl

/-- An item that leaves the channel is with its holder. -/
theorem receive (h : f.Keeps accepted) : f.receive.Keeps accepted := by
  rcases receive_cases f with
    heq | ⟨⟨i, hi⟩, hnone, ⟨x, rest, hchannel, heq⟩ | ⟨hchannel, hclosed, heq⟩⟩
  · rwa [heq]
  all_goals
    have hkept := h.kept
    rw [hchannel, handed, hnone] at hkept
    rw [heq]
  · exact {
      base_le := h.base_le
      kept := by simpa [handed] using hkept
      cursor := h.cursor
      room := h.room
      holding := h.holding
      arrived := fun hfree => absurd (hi.symm.trans hfree) (by simp)
      ending := by
        rintro (harrived | hfinished)
        · cases harrived
        · simp [(h.holding i hi).2.1] at hfinished
      slowest := h.slowest }
  · exact {
      base_le := h.base_le
      kept := by simpa [handed, hchannel] using hkept
      cursor := h.cursor
      room := h.room
      holding := h.holding
      arrived := fun hfree => absurd (hi.symm.trans hfree) (by simp)
      ending := fun _ => ⟨hclosed, hchannel⟩
      slowest := h.slowest }

/-- Whoever was given something holds the channel. -/
theorem exists_holder (h : f.Keeps accepted) {given : Option α} (ha : f.arrived = some given) :
    ∃ i, f.holder = some i := by
  rw [← Option.ne_none_iff_exists']
  intro hfree
  simp [h.arrived hfree] at ha

/-- An item that its holder lets go of is kept behind the others. -/
theorem append (h : f.Keeps accepted) : f.append.Keeps accepted := by
  rcases ha : f.arrived with _ | _ | x
  · simpa [FanOut.append, ha] using h
  · simp only [FanOut.append, ha]
    exact {
      base_le := h.base_le
      kept := by simpa [handed, ha] using h.kept
      cursor := h.cursor
      room := h.room
      holding := nofun
      arrived := fun _ => rfl
      ending := fun _ => h.ending (.inl ha)
      slowest := h.slowest }
  · obtain ⟨i, hi⟩ := h.exists_holder ha
    obtain ⟨hroom, hfinished, -⟩ := h.holding i hi
    simp only [FanOut.append, ha]
    exact {
      base_le := h.base_le
      kept := by simpa [handed, ha] using h.kept
      cursor := fun j c hc => by
        have := h.cursor j c hc
        simp only [stop, List.length_append, List.length_singleton] at this ⊢
        omega
      room := by
        simp only [List.length_append, List.length_singleton]
        omega
      holding := nofun
      arrived := fun _ => rfl
      ending := by simp [hfinished]
      slowest := h.slowest }

/-- To let go of the channel loses nothing. -/
theorem release (h : f.Keeps accepted) : f.release.Keeps accepted := by
  simp only [FanOut.release]
  split_ifs with harrived
  · exact {
      base_le := h.base_le
      kept := h.kept
      cursor := h.cursor
      room := h.room
      holding := nofun
      arrived := fun _ => by simpa using harrived
      ending := h.ending
      slowest := h.slowest }
  · exact h

/-! ## Reading and leaving -/

/-- What a look of a live consumer finds and does. -/
theorem read_cases (h : f.Keeps accepted) (hc : f.cursor? i = some c) :
    (∃ x, c < f.stop ∧ accepted[c]? = some x ∧ f.buffer[c - f.base]? = some x ∧ f.read i
        = (.item x, FanOut.trim { f with cursors := f.cursors.set i (some (c + 1)) })) ∨
      c = f.stop ∧
        (f.finished = true ∧ f.read i = (.ended, f) ∨
          f.finished = false ∧ f.buffer.length = f.retention ∧ f.read i = (.suspended, f) ∨
          f.finished = false ∧ f.buffer.length < f.retention ∧ f.read i = (.caughtUp, f)) := by
  obtain ⟨hbase, hle⟩ := h.cursor i c hc
  have hroom := h.room
  simp only [FanOut.read, hc]
  by_cases hlt : c < f.stop
  · have hget := h.getElem?_buffer hbase hlt
    obtain ⟨x, hx⟩ : ∃ x, accepted[c]? = some x :=
      ⟨_, List.getElem?_eq_getElem (hlt.trans_le h.stop_le)⟩
    rw [hx] at hget
    exact .inl ⟨x, hlt, hx, hget, by simp only [if_pos hlt, hget]⟩
  · refine .inr ⟨by omega, ?_⟩
    simp only [if_neg hlt]
    rcases hf : f.finished with _ | _
    · rcases lt_or_ge f.buffer.length f.retention with hl | hl
      · exact .inr (.inr ⟨rfl, hl, by simp [not_le.mpr hl]⟩)
      · exact .inr (.inl ⟨rfl, le_antisymm hroom hl, by simp [hl]⟩)
    · exact .inl ⟨rfl, by simp⟩

/-- A look suspends exactly the consumers that are too far ahead. -/
theorem read_eq_suspended_iff (h : f.Keeps accepted) :
    (f.read i).1 = .suspended ↔ f.Ahead i := by
  rw [Ahead]
  rcases hc : f.cursor? i with _ | c
  · simp [FanOut.read, hc]
  rcases h.read_cases hc with ⟨x, hlt, -, -, heq⟩ | ⟨rfl, hcase⟩
  · rw [heq]
    simp [hlt.ne]
  rcases hcase with ⟨hf, heq⟩ | ⟨hf, hl, heq⟩ | ⟨hf, hl, heq⟩ <;> rw [heq]
  · simp [hf]
  · simp [hf, hl]
  · simp [hf, hl]

/-- A consumer that moves on by one item leaves every accepted item where it is. -/
theorem advance (h : f.Keeps accepted) (hc : f.cursor? i = some c) (hlt : c < f.stop) :
    Stores { f with cursors := f.cursors.set i (some (c + 1)) } accepted where
  base_le := h.base_le
  kept := h.kept
  cursor j p hp := by
    rw [cursor?_set_of_live hc] at hp
    split_ifs at hp with hji
    · obtain rfl := Option.some.inj hp
      have := h.cursor i c hc
      exact ⟨by simp only; omega, hlt⟩
    · exact h.cursor j p hp
  room := h.room
  holding j hj := by
    obtain ⟨hroom, hfinished, hcursor⟩ := h.holding j hj
    refine ⟨hroom, hfinished, ?_⟩
    rw [cursor?_set_of_live hc, if_neg]
    · exact hcursor
    · rintro rfl
      exact hlt.ne (Option.some.inj (hc.symm.trans hcursor))
  arrived := h.arrived
  ending := h.ending

/-- **Reading loses nothing**, also where the item is forgotten since everybody has read it. -/
theorem read (h : f.Keeps accepted) (i : Nat) : (f.read i).2.Keeps accepted := by
  rcases hc : f.cursor? i with _ | c
  · simpa [FanOut.read, hc] using h
  rcases h.read_cases hc with ⟨x, hlt, -, -, heq⟩ | ⟨-, ⟨-, heq⟩ | ⟨-, -, heq⟩ | ⟨-, -, heq⟩⟩ <;>
    rw [heq]
  · exact (h.advance hc hlt).trim
  all_goals exact h

/-- A consumer that was given something takes it in before it can be dropped. -/
theorem drop (h : f.Keeps accepted) (hfree : f.holder = some i → f.arrived = none) :
    (f.drop i).Keeps accepted := by
  refine Stores.trim ?_
  exact {
    base_le := h.base_le
    kept := h.kept
    cursor := fun j p hp => by
      rw [cursor?_set_none { f with holder := f.holder.filter (· ≠ i) } i j] at hp
      split_ifs at hp with hji
      exact h.cursor j p hp
    room := h.room
    holding := fun j hj => by
      obtain ⟨hholder, hne⟩ := Option.filter_eq_some_iff.mp hj
      obtain ⟨hroom, hfinished, hcursor⟩ := h.holding j hholder
      refine ⟨hroom, hfinished, ?_⟩
      rw [cursor?_set_none { f with holder := f.holder.filter (· ≠ i) } i j,
        if_neg (by simpa using hne)]
      exact hcursor
    arrived := fun hnone => by
      rcases hholder : f.holder with _ | j
      · exact h.arrived hholder
      · obtain rfl : j = i := by simpa [hholder] using hnone
        exact hfree hholder
    ending := h.ending }

end Keeps

/-! ## What the operations leave alone -/

/-- The greatest numbers of items, in the channel and among those kept. -/
def sizes (f : FanOut α) : Nat × Nat := (f.capacity, f.retention)

/-- Nobody moved or went away, nothing was closed, and the sizes are the same. -/
structure Frame (f f' : FanOut α) : Prop where
  cursors : f'.cursors = f.cursors
  closed : f'.closed = f.closed
  sizes : f'.sizes = f.sizes

namespace Frame

theorem cursor? {f' : FanOut α} (h : Frame f f') (i : Nat) : f'.cursor? i = f.cursor? i := by
  rw [FanOut.cursor?, h.cursors, ← FanOut.cursor?]

theorem claim (f : FanOut α) (i : Nat) : Frame f (f.claim i) := by
  rcases Keeps.claim_cases f i with heq | ⟨-, -, -, -, heq⟩ <;> rw [heq] <;> exact ⟨rfl, rfl, rfl⟩

theorem receive (f : FanOut α) : Frame f f.receive := by
  rcases Keeps.receive_cases f with heq | ⟨-, -, ⟨x, rest, -, heq⟩ | ⟨-, -, heq⟩⟩ <;> rw [heq] <;>
    exact ⟨rfl, rfl, rfl⟩

theorem append (f : FanOut α) : Frame f f.append := by
  simp only [FanOut.append]
  split <;> exact ⟨rfl, rfl, rfl⟩

theorem release (f : FanOut α) : Frame f f.release := by
  simp only [FanOut.release]
  split_ifs <;> exact ⟨rfl, rfl, rfl⟩

end Frame

/-- A look changes nothing, or it moves consumers and forgets. -/
theorem read_snd (f : FanOut α) (i : Nat) :
    (f.read i).2 = f ∨ ∃ cursors, (f.read i).2 = FanOut.trim { f with cursors := cursors } := by
  simp only [read]
  split
  · exact .inl rfl
  split_ifs
  · split <;> exact .inr ⟨_, rfl⟩
  all_goals exact .inl rfl

/-- A look drops nobody. -/
theorem read_cursor?_eq_none_iff (f : FanOut α) (i j : Nat) :
    (f.read i).2.cursor? j = none ↔ f.cursor? j = none := by
  rcases hc : f.cursor? i with _ | c
  · simp [read, hc]
  by_cases hlt : c < f.stop
  · have hmoved : (f.read i).2
        = FanOut.trim { f with cursors := f.cursors.set i (some (c + 1)) } := by
      simp only [read, hc, if_pos hlt]
      split <;> rfl
    rw [hmoved, trim_cursor?, cursor?_set_of_live hc]
    split_ifs with hji
    · simp [hji, hc]
    · rfl
  · have hsame : (f.read i).2 = f := by
      simp only [read, hc, if_neg hlt]
      split_ifs <;> rfl
    rw [hsame]

@[simp] theorem read_holder (f : FanOut α) (i : Nat) : (f.read i).2.holder = f.holder := by
  rcases read_snd f i with heq | ⟨cursors, heq⟩ <;> rw [heq]
  rfl

@[simp] theorem read_closed (f : FanOut α) (i : Nat) : (f.read i).2.closed = f.closed := by
  rcases read_snd f i with heq | ⟨cursors, heq⟩ <;> rw [heq]
  rfl

@[simp] theorem read_sizes (f : FanOut α) (i : Nat) : (f.read i).2.sizes = f.sizes := by
  rcases read_snd f i with heq | ⟨cursors, heq⟩ <;> rw [heq]
  rfl

@[simp] theorem send_sizes (f : FanOut α) (x : α) : (f.send x).2.sizes = f.sizes := by
  rcases Keeps.send_cases f x with
    ⟨-, heq⟩ | ⟨-, -, heq⟩ | ⟨-, -, -, heq⟩ | ⟨-, -, -, heq⟩ <;> rw [heq]
  rfl

theorem receive_holder (f : FanOut α) : f.receive.holder = f.holder := by
  rcases Keeps.receive_cases f with heq | ⟨-, -, ⟨x, rest, -, heq⟩ | ⟨-, -, heq⟩⟩ <;> rw [heq]

end FanOut

end Ingest
