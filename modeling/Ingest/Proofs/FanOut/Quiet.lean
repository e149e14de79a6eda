import Ingest.Proofs.FanOut.Traffic

/-!
# Proofs/FanOut/Quiet — what an action leaves alone

Most actions are noticed by nobody but the consumer that takes them: no item is accepted or
received, nobody goes away and nobody else begins to wait (`Quiet`). Main statements:
`Sound.step_look_item` and `Sound.step_look_of_not_item`, which say what a look leads to.
-/

namespace Ingest

namespace FanOut

namespace Traffic

variable {α : Type} {t t' : Traffic α} {i j c : Nat}

/-- Nothing was accepted, received or closed, nobody went away, and nobody began to wait. -/
structure Quiet (t t' : Traffic α) : Prop where
  accepted : t'.accepted = t.accepted
  received : t'.received = t.received
  closed : t'.hub.closed = t.hub.closed
  live : ∀ j, t'.hub.cursor? j = none ↔ t.hub.cursor? j = none
  stance : ∀ j, t'.stance j ≠ .ready → t.stance j ≠ .ready

namespace Quiet

theorem refl (t : Traffic α) : Quiet t t := ⟨rfl, rfl, rfl, fun _ => Iff.rfl, fun _ => id⟩

theorem trans {t'' : Traffic α} (h : Quiet t t') (h' : Quiet t' t'') : Quiet t t'' where
  accepted := h'.accepted.trans h.accepted
  received := h'.received.trans h.received
  closed := h'.closed.trans h.closed
  live j := (h'.live j).trans (h.live j)
  stance j hj := h.stance j (h'.stance j hj)

theorem stand_ready (t : Traffic α) (i : Nat) : Quiet t (t.stand i .ready) where
  accepted := rfl
  received := rfl
  closed := rfl
  live _ := Iff.rfl
  stance j hj := by
    by_cases hji : j = i
    · subst hji
      exact absurd (stand_self _) hj
    · rwa [stand_of_ne _ hji] at hj

/-- To call those who wait changes nothing for the others. -/
theorem wake (t : Traffic α) : Quiet t t.wake where
  accepted := rfl
  received := rfl
  closed := rfl
  live _ := Iff.rfl
  stance j hj := by
    simp only [Traffic.wake] at hj
    split_ifs at hj with hparked
    · exact absurd rfl hj
    · exact hj

/-- The calls that are owed, and a change of the fan-out that moves nobody, are not noticed. -/
theorem withHub (t : Traffic α) {hub : FanOut α} (h : Frame t.hub hub) (due : Nat) :
    Quiet t { t with hub := hub, due := due } where
  accepted := rfl
  received := rfl
  closed := h.closed
  live j := by rw [h.cursor?]
  stance _ := id

/-- Forgetting what everybody has read wakes others up, and is not noticed otherwise. -/
theorem moved (t : Traffic α) (i : Nat) : Quiet t (t.moved (t.hub.read i).2) := by
  have hread : Quiet t { t with hub := (t.hub.read i).2 } :=
    ⟨rfl, rfl, read_closed _ _, read_cursor?_eq_none_iff _ _, fun _ => id⟩
  simp only [Traffic.moved]
  split_ifs
  · exact hread
  · exact hread.trans (wake _)

theorem claim (t : Traffic α) (i : Nat) : Quiet t (t.step (.claim i)) := by
  have hclaim : Quiet t { t with hub := t.hub.claim i } := withHub t (.claim _ _) t.due
  simp only [step]
  split_ifs
  · exact hclaim
  · exact hclaim.trans (stand_ready _ _)
  · exact refl t

theorem receive (t : Traffic α) : Quiet t (t.step .receive) := withHub t (.receive _) t.due

theorem append (t : Traffic α) : Quiet t (t.step .append) := by
  simp only [step]
  split
  · split_ifs
    · exact refl t
    · exact (stand_ready t _).trans (withHub _ (.append _) _)
  · exact refl t

theorem announce (t : Traffic α) : Quiet t (t.step .announce) := by
  simp only [step]
  split_ifs
  · exact refl t
  · exact (wake t).trans (withHub _ ⟨rfl, rfl, rfl⟩ _)

end Quiet

/-! ## Looks and drops -/

theorem found_received_of_not_item (t : Traffic α) (i : Nat) {glance : Glance α}
    (hitem : ∀ x, glance ≠ .item x) : (t.found i glance).received = t.received := by
  cases glance with
  | item x => exact absurd rfl (hitem x)
  | ended => rfl
  | suspended => rfl
  | caughtUp => rfl

theorem found_stance_of_ne (t : Traffic α) (glance : Glance α) (hji : j ≠ i) :
    (t.found i glance).stance j = t.stance j := by
  cases glance with
  | item x => rfl
  | ended => rfl
  | suspended => exact stand_of_ne _ hji
  | caughtUp => exact stand_of_ne _ hji

/-- A consumer that goes away, or tries to, takes nothing from anybody. -/
theorem step_drop_quiet (t : Traffic α) (i : Nat) :
    let t' := t.step (.drop i)
    t'.accepted = t.accepted ∧ t'.received = t.received ∧ t'.hub.closed = t.hub.closed ∧
      ∀ j, t.hub.cursor? j = none → t'.hub.cursor? j = none := by
  by_cases hcannot : t.hub.cursor? i = none ∨ t.Busy i
  · simp only [step, if_pos hcannot, true_and]
    exact fun _ => id
  · simp only [step, if_neg hcannot]
    refine ⟨rfl, rfl, rfl, fun j hj => ?_⟩
    have hcursor := cursor?_set_none { t.hub with holder := t.hub.holder.filter (· ≠ i) } i j
    refine hcursor.trans ?_
    split_ifs
    · rfl
    · exact hj

namespace Sound

variable {x : α}

/-- A look that finds an item: the consumer receives it, and nobody notices anything else. -/
theorem step_look_item (hready : t.stance i = .ready) (hlive : t.hub.cursor? i ≠ none)
    (hread : (t.hub.read i).1 = .item x) : ∃ t₁, Quiet t t₁ ∧ t.step (.look i)
      = { t₁ with received := Function.update t.received i (t.received i ++ [x]) } := by
  refine ⟨t.moved (t.hub.read i).2, .moved t i, ?_⟩
  simp only [Traffic.step, if_pos (And.intro hready hlive), hread, found, moved_received]

/-- A look that finds no item changes nothing but where the consumer stands. -/
theorem step_look_of_not_item (h : t.Sound) (hready : t.stance i = .ready)
    (hlive : t.hub.cursor? i ≠ none) (hread : ∀ x, (t.hub.read i).1 ≠ .item x) :
    t.step (.look i) = t.found i (t.hub.read i).1 := by
  obtain ⟨c, hc⟩ := Option.ne_none_iff_exists'.mp hlive
  have hsame : (t.hub.read i).2 = t.hub := by
    rcases h.keeps.read_cases hc with ⟨x, -, -, -, heq⟩ | ⟨-, ⟨-, heq⟩ | ⟨-, -, heq⟩ | ⟨-, -, heq⟩⟩
    · exact absurd (congrArg Prod.fst heq) (hread x)
    all_goals rw [heq]
  simp only [Traffic.step, if_pos (And.intro hready hlive), hsame]
  rw [moved, if_pos rfl]

/-- A consumer that may look does not hold the channel. -/
theorem not_busy (h : t.Sound) (hready : t.stance i = .ready) : ¬t.Busy i := by
  rintro ⟨hholder, -⟩
  simp [h.pulling i hholder] at hready

/-- **A consumer that goes away** is no more, and the others notice nothing else. -/
theorem step_drop (h : t.Sound) (hready : t.stance i = .ready) :
    let t' := t.step (.drop i)
    t'.accepted = t.accepted ∧ t'.received = t.received ∧ t'.hub.closed = t.hub.closed ∧
      (∀ j, t'.hub.cursor? j = if j = i then none else t.hub.cursor? j) ∧ t'.stance = t.stance := by
  have hstance : (t.stand i .ready).stance = t.stance := by
    change Function.update t.stance i .ready = t.stance
    rw [← hready, Function.update_eq_self]
  by_cases hlive : t.hub.cursor? i = none
  · have heq : t.step (.drop i) = t := if_pos (.inl hlive)
    simp only [heq, true_and, and_true]
    intro j
    split_ifs with hji
    · rw [hji, hlive]
    · rfl
  · have heq : t.step (.drop i)
        = { t.stand i .ready with hub := t.hub.drop i, due := t.due + 1 } :=
      if_neg (not_or.mpr ⟨hlive, h.not_busy hready⟩)
    simp only [heq]
    exact ⟨rfl, rfl, rfl,
      cursor?_set_none { t.hub with holder := t.hub.holder.filter (· ≠ i) } i, hstance⟩

end Sound

end Traffic

end FanOut

end Ingest
