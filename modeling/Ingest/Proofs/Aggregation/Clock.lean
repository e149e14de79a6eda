import Ingest.Aggregation.GroupBy
import Ingest.Proofs.TimeOrder

/-!
# Proofs/Aggregation/Clock — what a stage knows of the timestamps it has read

The clock of a stage holds the latest timestamp and the one before it, and the rows read determine
both (`Reads.unique`). It advances exactly if the rows go on to ascend (`Reads.exists_advance`,
`Reads.ascending`).
-/

namespace Ingest

variable {ρ : Type} [Timed ρ]

/-- The clock after some rows: the latest timestamp, and the one of a row before it, with no row
between them. -/
structure InputClock.Reads (c : InputClock) (read : List ρ) : Prop where
  current : c.current = read.getLast?.map time
  before : c.before = .earliest ∨ ∃ t ∈ c.current, c.before < t
  attained : c.before = .earliest ∨ ∃ x ∈ read, time x = c.before
  apart : ∀ x ∈ read, time x ≤ c.before ∨ time x ∈ c.current

namespace InputClock

variable {c c' : InputClock} {read : List ρ}

theorem reads_start : start.Reads ([] : List ρ) := ⟨rfl, .inl rfl, .inl rfl, by simp⟩

theorem Reads.before_le (h : c.Reads read) {t : Instant} (ht : t ∈ c.current) : c.before ≤ t := by
  rcases h.before with heq | ⟨u, hu, hlt⟩
  · exact heq ▸ t.earliest_le
  · obtain rfl := Option.mem_unique ht hu
    exact hlt.le

/-- No row is later than the latest one. -/
theorem Reads.le_current (h : c.Reads read) {t : Instant} (ht : t ∈ c.current) {x : ρ}
    (hx : x ∈ read) : time x ≤ t := by
  rcases h.apart x hx with hle | hcur
  · exact hle.trans (h.before_le ht)
  · exact (Option.mem_unique hcur ht).le

/-- Rows with the timestamp of the latest one, or the first row. -/
theorem Reads.snoc_eq (h : c.Reads read) {r : ρ} (hr : ∀ t ∈ c.current, t = time r) :
    Reads ⟨some (time r), c.before⟩ (read ++ [r]) where
  current := by simp
  before := h.before.imp_right fun ⟨t, ht, hlt⟩ => ⟨_, rfl, hr t ht ▸ hlt⟩
  attained := h.attained.imp_right fun ⟨x, hx, heq⟩ => ⟨x, List.mem_append_left _ hx, heq⟩
  apart x hx := by
    rcases List.mem_append.mp hx with hx | hx
    · exact (h.apart x hx).imp_right fun hcur => congrArg some (hr _ hcur).symm
    · exact .inr (congrArg some (congrArg time (List.mem_singleton.mp hx).symm))

/-- A later row. -/
theorem Reads.snoc_lt (h : c.Reads read) {r : ρ} {u : Instant} (hu : u ∈ c.current)
    (hlt : u < time r) : Reads ⟨some (time r), u⟩ (read ++ [r]) where
  current := by simp
  before := .inr ⟨_, rfl, hlt⟩
  attained := by
    obtain ⟨x, hx, heq⟩ : ∃ x ∈ read.getLast?, time x = u := by simpa [h.current] using hu
    exact .inr ⟨x, List.mem_append_left _ (List.mem_of_getLast? hx), heq⟩
  apart x hx := by
    rcases List.mem_append.mp hx with hx | hx
    · exact .inl (h.le_current hu hx)
    · exact .inr (congrArg some (congrArg time (List.mem_singleton.mp hx).symm))

theorem Reads.advance (h : c.Reads read) {r : ρ} (hc : c.advance (time r) = .ok c') :
    c'.Reads (read ++ [r]) ∧ c.before ≤ c'.before := by
  unfold InputClock.advance at hc
  rcases hcur : c.current with _ | u <;> rw [hcur] at hc
  · obtain rfl : ⟨some (time r), c.before⟩ = c' := by simpa using hc
    exact ⟨h.snoc_eq (by simp [hcur]), le_rfl⟩
  · rcases lt_trichotomy (time r) u with hlt | heq | hgt
    · simp [hlt] at hc
    · obtain rfl : ⟨some (time r), c.before⟩ = c' := by simpa [heq] using hc
      exact ⟨h.snoc_eq fun t ht => heq ▸ Option.some.inj (ht.symm.trans hcur), le_rfl⟩
    · obtain rfl : ⟨some (time r), u⟩ = c' := by simpa [hgt, hgt.not_gt] using hc
      exact ⟨h.snoc_lt hcur hgt, h.before_le hcur⟩

/-- The floor of a new group is before every later row, unless that is at the earliest instant. -/
theorem Reads.before_lt (h : c.Reads read) {t u : Instant} (ht : t ∈ c.current) (hu : t ≤ u)
    (hearliest : .earliest < u) : c.before < u := by
  rcases h.before with heq | ⟨v, hv, hlt⟩
  · exact heq ▸ hearliest
  · obtain rfl := Option.mem_unique ht hv
    exact hlt.trans_le hu

/-- **The rows determine the clock.** -/
theorem Reads.before_le_before (h : c.Reads read) (h' : c'.Reads read) : c.before ≤ c'.before := by
  have hcur : c.current = c'.current := h.current.trans h'.current.symm
  rcases h.attained with heq | ⟨x, hx, heq⟩
  · exact heq ▸ Instant.earliest_le _
  rcases h'.apart x hx with hle | ht
  · exact heq ▸ hle
  -- `x` is at the latest timestamp, so the one before it can only be the earliest instant
  rcases h.before with hearliest | ⟨t, ht', hlt⟩
  · exact hearliest ▸ Instant.earliest_le _
  · obtain rfl := Option.mem_unique (hcur ▸ ht') ht
    exact absurd heq hlt.ne'

theorem Reads.unique (h : c.Reads read) (h' : c'.Reads read) : c = c' := by
  obtain ⟨current, before⟩ := c
  obtain rfl := h.current.trans h'.current.symm
  obtain rfl := (h.before_le_before h').antisymm (h'.before_le_before h)
  rfl

/-- A row before the latest one is refused. -/
theorem Reads.advance_of_lt (h : c.Reads read) {prev r : ρ} (hprev : prev ∈ read.getLast?)
    (hlt : time r < time prev) : c.advance (time r) = .error (.ordering (time r) (time prev)) := by
  rw [InputClock.advance, h.current, Option.mem_def.mp hprev]
  exact if_pos hlt

/-- A row not before the latest one advances the clock. -/
theorem Reads.exists_advance_of_last (h : c.Reads read) {r : ρ}
    (hr : ∀ prev ∈ read.getLast?, time prev ≤ time r) : ∃ c', c.advance (time r) = .ok c' := by
  rw [InputClock.advance, h.current]
  rcases hlast : read.getLast? with _ | prev
  · exact ⟨_, rfl⟩
  simp only [Option.map_some, if_neg (hr prev hlast).not_gt]
  split <;> exact ⟨_, rfl⟩

/-- Rows that do not descend advance the clock. -/
theorem Reads.exists_advance (h : c.Reads read) {r : ρ} (hr : ∀ x ∈ read, time x ≤ time r) :
    ∃ c', c.advance (time r) = .ok c' :=
  h.exists_advance_of_last fun prev hprev => hr prev (List.mem_of_getLast? hprev)

/-- Rows that advance the clock ascend. -/
theorem Reads.ascending (h : c.Reads read) (asc : Ascending read) {r : ρ}
    (hc : c.advance (time r) = .ok c') : Ascending (read ++ [r]) := by
  obtain ⟨hreads, -⟩ := h.advance hc
  refine List.pairwise_append.mpr ⟨asc, List.pairwise_singleton _ _, fun x hx y hy => ?_⟩
  obtain rfl := List.mem_singleton.mp hy
  exact hreads.le_current (by simp [hreads.current]) (List.mem_append_left _ hx)

end InputClock

end Ingest
