import Ingest.Proofs.FanOut.Traffic

/-!
# Proofs/FanOut/Bounds — what is kept is bounded, and nobody waits for ever

No more items are kept than may be, and whoever is suspended is ahead of a consumer that has an item
to read. The slowest live consumer is therefore never suspended, and as long as it reads on, those
that wait for it are called. Main statement: `Traffic.never_wedged`.
-/

namespace Ingest

namespace FanOut

variable {α : Type}

namespace Traffic

variable {t : Traffic α} {i j : Nat}

/-- No action changes the sizes. -/
theorem step_sizes (t : Traffic α) (a : Action α) : (t.step a).hub.sizes = t.hub.sizes := by
  cases a with
  | send x =>
    have hsend := send_sizes t.hub x
    simp only [step]
    split <;> simp_all
  | look i =>
    simp only [step]
    split_ifs <;> simp
  | claim i =>
    have hclaim := (Frame.claim t.hub i).sizes
    simp only [step]
    split_ifs
    · exact hclaim
    · exact hclaim
    · rfl
  | append =>
    simp only [step]
    split
    · split_ifs
      · rfl
      · exact (Frame.append t.hub).sizes
    · rfl
  | announce =>
    simp only [step]
    split_ifs <;> rfl
  | abandon i =>
    simp only [step]
    split_ifs
    · rfl
    · exact (Frame.release t.hub).sizes
    · rfl
  | drop i =>
    simp only [step]
    split_ifs <;> rfl
  | close => rfl
  | receive => exact (Frame.receive t.hub).sizes

theorem run_sizes (t : Traffic α) (actions : List (Action α)) :
    (t.run actions).hub.sizes = t.hub.sizes := by
  induction actions generalizing t with
  | nil => rfl
  | cons a actions ih => rw [run_cons, ih, step_sizes]

/-! ## Who is suspended -/

/-- A consumer would be put to sleep if it looked now, or it sleeps and is owed no call. -/
def Suspended (t : Traffic α) (i : Nat) : Prop :=
  t.hub.cursor? i ≠ none ∧ ((t.hub.read i).1 = .suspended ∨ t.stance i = .parked ∧ t.due = 0)

/-- Another consumer is behind, with an item to read. -/
structure Behind (t : Traffic α) (i j : Nat) : Prop where
  ne : j ≠ i
  cursor : ∃ c d, t.hub.cursor? i = some c ∧ t.hub.cursor? j = some d ∧ d < c ∧
    ∃ x, t.hub.buffer[d - t.hub.base]? = some x ∧ (t.hub.read j).1 = .item x

namespace Sound

/-- A consumer is suspended exactly if it is too far ahead. -/
theorem suspended_iff (h : t.Sound) : t.Suspended i ↔ t.hub.Ahead i := by
  constructor
  · rintro ⟨-, hread | ⟨hparked, hdue⟩⟩
    · exact h.keeps.read_eq_suspended_iff.mp hread
    · exact h.parked i hparked hdue
  · intro hahead
    exact ⟨by simp [hahead.1], .inl (h.keeps.read_eq_suspended_iff.mpr hahead)⟩

/-- The slowest of the live consumers is at the first item kept. -/
theorem exists_at_base (h : t.Sound) (hlive : t.hub.cursor? i ≠ none) :
    ∃ j, t.hub.cursor? j = some t.hub.base := by
  obtain ⟨c, hc⟩ := Option.ne_none_iff_exists'.mp hlive
  obtain ⟨m, hm⟩ := exists_slowest hc
  rw [h.keeps.slowest m hm]
  exact (slowest?_eq_some_iff.mp hm).1

/-- **Whoever is suspended is ahead of somebody** who has an item to read. -/
theorem exists_behind (h : t.Sound) (hpos : 0 < t.hub.retention) (hi : t.Suspended i) :
    ∃ j, t.Behind i j := by
  obtain ⟨hc, -, hfull⟩ := h.suspended_iff.mp hi
  obtain ⟨j, hj⟩ := h.exists_at_base hi.1
  have hlt : t.hub.base < t.hub.stop := by
    simp only [stop]
    omega
  refine ⟨j, ?_, t.hub.stop, t.hub.base, hc, hj, hlt, ?_⟩
  · rintro rfl
    exact hlt.ne (Option.some.inj (hj.symm.trans hc))
  · rcases h.keeps.read_cases hj with ⟨x, -, -, hget, heq⟩ | ⟨hstop, -⟩
    · exact ⟨x, hget, by rw [heq]⟩
    · exact absurd hstop hlt.ne

/-- **The slowest consumer is not suspended.** -/
theorem exists_not_suspended (h : t.Sound) (hpos : 0 < t.hub.retention)
    (hlive : t.hub.cursor? i ≠ none) : ∃ j, t.hub.cursor? j ≠ none ∧ ¬t.Suspended j := by
  obtain ⟨j, hj⟩ := h.exists_at_base hlive
  refine ⟨j, by simp [hj], ?_⟩
  intro hsuspended
  obtain ⟨k, -, c, d, hc, hd, hlt, -⟩ := h.exists_behind hpos hsuspended
  have hbase := (h.keeps.cursor k d hd).1
  obtain rfl : t.hub.base = c := Option.some.inj (hj.symm.trans hc)
  omega

end Sound

/-- A call wakes everybody up. -/
theorem announce_stance_ne (hdue : 0 < t.due) (i : Nat) :
    (t.step .announce).stance i ≠ .parked := by
  simp only [step, if_neg hdue.ne']
  exact wake_stance_ne t i

/-! ## Bounds -/

/-- What is kept for the consumers is bounded, and no consumer waits for ever. -/
structure Bounded (t : Traffic α) (most : Nat) : Prop where
  /-- No more items are kept than may be. -/
  kept : t.hub.buffer.length ≤ most
  /-- No consumer is further ahead of another than that. -/
  spread : ∀ i j c d, t.hub.cursor? i = some c → t.hub.cursor? j = some d → c ≤ d + most
  /-- The first item kept is the next one of the slowest live consumer, if there is one. -/
  base : (∃ i, t.hub.cursor? i ≠ none) →
    (∃ i, t.hub.cursor? i = some t.hub.base) ∧ ∀ i c, t.hub.cursor? i = some c → t.hub.base ≤ c
  /-- Whoever is suspended is strictly ahead of another live consumer that has an item to read. -/
  behind : ∀ i, t.Suspended i → ∃ j, t.Behind i j
  /-- As long as a consumer is live, one of them is not suspended. -/
  awake : (∃ i, t.hub.cursor? i ≠ none) → ∃ j, t.hub.cursor? j ≠ none ∧ ¬t.Suspended j
  /-- When all live consumers sleep, a call is owed, and it wakes all of them up. -/
  called : (∃ i, t.hub.cursor? i ≠ none) →
    (∀ i, t.hub.cursor? i ≠ none → t.stance i = .parked) →
      0 < t.due ∧ ∀ i, (t.step .announce).stance i ≠ .parked

/-- **Sound traffic is bounded.** -/
theorem Sound.bounded (h : t.Sound) (hpos : 0 < t.hub.retention) : t.Bounded t.hub.retention where
  kept := h.keeps.room
  spread i j c d hc hd := by
    have hi := (h.keeps.cursor i c hc).2
    have hj := (h.keeps.cursor j d hd).1
    have hroom := h.keeps.room
    simp only [stop] at hi
    omega
  base := fun ⟨_, hlive⟩ => ⟨h.exists_at_base hlive, fun i c hc => (h.keeps.cursor i c hc).1⟩
  behind _ := h.exists_behind hpos
  awake := fun ⟨_, hlive⟩ => h.exists_not_suspended hpos hlive
  called := fun ⟨_, hlive⟩ hall => by
    obtain ⟨j, hj, hawake⟩ := h.exists_not_suspended hpos hlive
    have hdue : 0 < t.due := by
      by_contra hnone
      exact hawake ⟨hj, .inr ⟨hall j hj, by omega⟩⟩
    exact ⟨hdue, announce_stance_ne hdue⟩

/-- **What is kept is bounded and the consumers never wedge**, whatever they do and in which
order. -/
theorem never_wedged (capacity consumers retention : Nat) (actions : List (Action α)) :
    ((start capacity consumers retention).run actions).Bounded (max retention 1) := by
  have h := run_sound capacity consumers retention actions
  have hsizes := run_sizes (start capacity consumers retention) actions
  have hretention := congrArg Prod.snd hsizes
  change _ = max retention 1 at hretention
  rw [← hretention]
  refine h.bounded ?_
  change 0 < (FanOut.sizes _).2
  rw [hsizes]
  exact lt_max_of_lt_right Nat.zero_lt_one

/-- The first consumer takes an item out of the channel and reads it, and has to wait for the
second. -/
def ahead : List (Action Nat) :=
  [.send 7, .look 0, .claim 0, .receive, .append, .announce, .look 0, .look 0]

/-- A consumer that is ahead waits for one that is behind. -/
theorem never_wedged_ahead : ((start 1 2 1).run ahead).stance 0 = .parked ∧
    ∃ j, ((start 1 2 1).run ahead).Behind 0 j :=
  ⟨by decide, (never_wedged 1 2 1 ahead).behind 0 ⟨by decide, .inl (by decide)⟩⟩

end Traffic

end FanOut

end Ingest
