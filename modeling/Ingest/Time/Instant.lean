/-!
# Time/Instant — points in time

An `Instant` counts seconds from 1970-01-01T00:00:00 UTC and nanoseconds within the second. A
nanosecond count of a whole second or more marks a leap second: it follows the rest of the last
second of a minute and precedes the next minute. Instants are ordered by second, then nanosecond.
-/

namespace Ingest

/-- The first second that has an instant: -262143-01-01T00:00:00. -/
def Instant.firstSecond : Int := -8334601228800

/-- The last second that has an instant: +262142-12-31T23:59:59. -/
def Instant.lastSecond : Int := 8210266876799

/-- A point in time, in UTC. -/
structure Instant where
  /-- Seconds since 1970-01-01T00:00:00. -/
  second : Int
  /-- Nanoseconds within the second; a leap second counts on from 1000000000. -/
  nano : Nat
  /-- The second lies in the supported range. -/
  second_mem : Instant.firstSecond ≤ second ∧ second ≤ Instant.lastSecond
  /-- Only the last second of a minute can be a leap second. -/
  nano_lt : nano < 1000000000 ∨ nano < 2000000000 ∧ second % 60 = 59
deriving DecidableEq

namespace Instant

/-- The instant at a count of seconds and nanoseconds, if there is one. -/
def ofUnix? (second : Int) (nano : Nat) : Option Instant :=
  if h : (firstSecond ≤ second ∧ second ≤ lastSecond) ∧
      (nano < 1000000000 ∨ nano < 2000000000 ∧ second % 60 = 59) then
    some ⟨second, nano, h.1, h.2⟩
  else none

/-- 1970-01-01T00:00:00. -/
def epoch : Instant := ⟨0, 0, by decide, by decide⟩

/-- The earliest instant. -/
def earliest : Instant := ⟨firstSecond, 0, by decide, by decide⟩

instance : Inhabited Instant := ⟨epoch⟩

/-! ## Order -/

instance : LT Instant :=
  ⟨fun a b => a.second < b.second ∨ a.second = b.second ∧ a.nano < b.nano⟩

instance : LE Instant :=
  ⟨fun a b => a.second < b.second ∨ a.second = b.second ∧ a.nano ≤ b.nano⟩

theorem lt_def {a b : Instant} :
    a < b ↔ a.second < b.second ∨ a.second = b.second ∧ a.nano < b.nano := Iff.rfl

theorem le_def {a b : Instant} :
    a ≤ b ↔ a.second < b.second ∨ a.second = b.second ∧ a.nano ≤ b.nano := Iff.rfl

instance (a b : Instant) : Decidable (a < b) := decidable_of_iff _ lt_def.symm

instance (a b : Instant) : Decidable (a ≤ b) := decidable_of_iff _ le_def.symm

instance : Max Instant := maxOfLe

instance : Min Instant := minOfLe

theorem ext {a b : Instant} (hs : a.second = b.second) (hn : a.nano = b.nano) : a = b := by
  cases a; cases b; cases hs; cases hn; rfl

theorem le_refl (a : Instant) : a ≤ a := Or.inr ⟨rfl, Nat.le_refl _⟩

theorem le_trans {a b c : Instant} (hab : a ≤ b) (hbc : b ≤ c) : a ≤ c := by
  rw [le_def] at *
  omega

theorem le_antisymm {a b : Instant} (hab : a ≤ b) (hba : b ≤ a) : a = b := by
  rw [le_def] at hab hba
  exact ext (by omega) (by omega)

theorem le_total (a b : Instant) : a ≤ b ∨ b ≤ a := by
  rw [le_def, le_def]
  omega

theorem lt_iff_not_ge {a b : Instant} : a < b ↔ ¬b ≤ a := by
  rw [lt_def, le_def]
  omega

theorem max_def {a b : Instant} : max a b = if a ≤ b then b else a := rfl

theorem min_def {a b : Instant} : min a b = if a ≤ b then a else b := rfl

/-- No instant is before `earliest`. -/
theorem earliest_le (a : Instant) : earliest ≤ a := by
  have h := a.second_mem.1
  rw [le_def]
  show firstSecond < a.second ∨ firstSecond = a.second ∧ 0 ≤ a.nano
  omega

end Instant

end Ingest
