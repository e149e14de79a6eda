import Mathlib
import Ingest.Value.Basic

/-!
# Proofs/Value/Rounding — integers as binary64 numbers

A positive integer below `2 ^ 64` becomes the binary64 number whose 53 bits are the integer's
leading ones, rounded to the nearest, halves to even (`unpack_ofNat`). Rounding is monotone, since
a shift keeps the order of mantissas with their round and sticky bits (`weight_shiftRight`); it
changes nothing below `2 ^ 53`, and may carry into a 54th bit above (`carried`).
-/

namespace Ingest.Binary64

open Float.Model Float.Model.UnpackedFloat

/-! ## Rounding is monotone

A mantissa, its round bit and its sticky bit are one number, `weight`. A shift keeps the order of
these numbers, and the rounded mantissa depends on nothing else. -/

/-- A mantissa with its round and sticky bit, as one number. -/
def weight (x : ExtendedMantissa) : Nat :=
  4 * x.mantissa + 2 * x.roundBit.toNat + x.stickyBit.toNat

/-- To shift by one place keeps the order. -/
theorem weight_shiftRightOne {x y : ExtendedMantissa} (h : weight x ≤ weight y) :
    weight x.shiftRightOne ≤ weight y.shiftRightOne := by
  obtain ⟨m, round, sticky⟩ := x
  obtain ⟨n, round', sticky'⟩ := y
  have hm := Nat.mod_two_eq_zero_or_one m
  have hn := Nat.mod_two_eq_zero_or_one n
  simp only [weight, ExtendedMantissa.shiftRightOne] at h ⊢
  -- the bit that leaves the mantissa is the new round bit, the old round bit joins the sticky one
  cases round <;> cases sticky <;> cases round' <;> cases sticky' <;>
    obtain hm | hm := hm <;> obtain hn | hn := hn <;> simp [hm, hn] at h ⊢ <;> omega

theorem shiftRight_succ (x : ExtendedMantissa) (k : Nat) :
    x >>> (k + 1) = (x >>> k).shiftRightOne := rfl

/-- **A shift keeps the order** of mantissas. -/
theorem weight_shiftRight {x y : ExtendedMantissa} (h : weight x ≤ weight y) (k : Nat) :
    weight (x >>> k) ≤ weight (y >>> k) := by
  induction k with
  | zero => exact h
  | succ k ih => exact weight_shiftRightOne ih

/-- What weighs more is not rounded to less. -/
theorem roundedMantissa_le {x y : ExtendedMantissa} (h : weight x ≤ weight y) :
    x.roundedMantissa ≤ y.roundedMantissa := by
  obtain ⟨m, round, sticky⟩ := x
  obtain ⟨n, round', sticky'⟩ := y
  simp only [weight, ExtendedMantissa.roundedMantissa] at h ⊢
  cases round <;> cases sticky <;> cases round' <;> cases sticky' <;>
    simp [ExtendedMantissa.accuracy, Accuracy.roundToNearestEven] at h ⊢ <;> omega

/-- `m / 2 ^ k`, rounded to the nearest integer, halves to even. -/
def rounded (m k : Nat) : Nat :=
  (ExtendedMantissa.ofMantissaAndAccuracy m .exact >>> k).roundedMantissa

/-- Rounding is monotone. -/
theorem rounded_mono {m n : Nat} (h : m ≤ n) (k : Nat) : rounded m k ≤ rounded n k := by
  refine roundedMantissa_le (weight_shiftRight ?_ k)
  simpa [weight, ExtendedMantissa.ofMantissaAndAccuracy] using h

/-- Places that are zero are shifted out exactly. -/
theorem shiftRight_mul (m k : Nat) :
    ExtendedMantissa.ofMantissaAndAccuracy (m * 2 ^ k) .exact >>> k =
      ExtendedMantissa.ofMantissaAndAccuracy m .exact := by
  induction k generalizing m with
  | zero =>
    rw [Nat.pow_zero, Nat.mul_one]
    rfl
  | succ k ih =>
    rw [shiftRight_succ, Nat.pow_succ', ← Nat.mul_assoc, ih]
    simp [ExtendedMantissa.ofMantissaAndAccuracy, ExtendedMantissa.shiftRightOne]

/-- A multiple of the unit is rounded to itself. -/
theorem rounded_mul (m k : Nat) : rounded (m * 2 ^ k) k = m := by
  rw [rounded, shiftRight_mul]
  rfl

/-! ## Rounding to 53 bits -/

/-- `u` is the finite number `m * 2 ^ e` with a sign. -/
def Scaled (u : UnpackedFloat) (sign : Sign) (m : Nat) (e : Int) : Prop :=
  ∃ h, u = .finite sign m e h

/-- A mantissa of at most `2 ^ 53`, as one of 53 bits. -/
def carried (m : Nat) (e : Int) : Nat × Int := if m < 2 ^ 53 then (m, e) else (2 ^ 52, e + 1)

theorem shiftToTargetExponent_of_log2 {m s : Nat} (hm : m.log2 = 52 + s) {e : Int}
    (he : -1074 ≤ e + s) :
    shiftToTargetExponent .binary64 m e .exact =
      (ExtendedMantissa.ofMantissaAndAccuracy m .exact >>> s, e + s) := by
  have htarget : Format.binary64.targetExponent (totalExponent m e) = e + s := by
    simp only [Format.targetExponent, totalExponent, Format.mantissaBits, Format.minExponent, hm]
    norm_num
    omega
  simp [shiftToTargetExponent, shiftToExponent, htarget]

/-- A rounded number has at least 53 places. -/
theorem le_rounded {m s : Nat} (hm : m.log2 = 52 + s) : 2 ^ 52 ≤ rounded m s := by
  have hpos : m ≠ 0 := by
    rintro rfl
    simp at hm
    omega
  have hle : 2 ^ 52 * 2 ^ s ≤ m := by
    rw [← Nat.pow_add, ← hm]
    exact Nat.log2_self_le hpos
  exact (rounded_mul _ s).ge.trans (rounded_mono hle s)

/-- A rounded number has 53 places, or it is the power of two after these. -/
theorem rounded_le {m s : Nat} (hm : m.log2 = 52 + s) : rounded m s ≤ 2 ^ 53 := by
  have hle : m ≤ 2 ^ 53 * 2 ^ s := by
    rw [← Nat.pow_add, show 53 + s = m.log2 + 1 by omega]
    exact Nat.lt_log2_self.le
  exact (rounded_mono hle s).trans (rounded_mul _ s).le

/-- **Rounding leaves 53 bits.** -/
theorem scaled_roundWithAccuracy (sign : Sign) {m s : Nat} (hm : m.log2 = 52 + s) {e : Int}
    (he : -1074 ≤ e + s) :
    Scaled (roundWithAccuracy .binary64 sign m e .exact) sign
      (carried (rounded m s) (e + s)).1 (carried (rounded m s) (e + s)).2 := by
  have hlow := le_rounded hm
  -- after the first shift and its rounding, the second shift has only a carry to take in
  have hsecond : shiftToTargetExponent .binary64 (rounded m s) (e + s) .exact =
      (ExtendedMantissa.ofMantissaAndAccuracy (carried (rounded m s) (e + s)).1 .exact,
        (carried (rounded m s) (e + s)).2) := by
    obtain hlt | heq := (rounded_le hm).lt_or_eq
    · have hlog : (rounded m s).log2 = 52 + 0 := (Nat.log2_eq_iff (by omega)).mpr ⟨hlow, hlt⟩
      rw [shiftToTargetExponent_of_log2 hlog (by simpa using he), carried, if_pos hlt,
        Int.natCast_zero, add_zero]
      rfl
    · rw [heq, shiftToTargetExponent_of_log2 (s := 1) Nat.log2_two_pow (by omega)]
      rfl
  have hpos : 0 < (carried (rounded m s) (e + s)).1 := by
    rw [carried]
    split_ifs
    · exact Nat.lt_of_lt_of_le (by decide) hlow
    · exact Nat.two_pow_pos 52
  refine ⟨hpos, ?_⟩
  rw [roundWithAccuracy, shiftToTargetExponent_of_log2 hm he]
  dsimp only
  rw [← rounded, hsecond]
  exact dif_neg hpos.ne'

/-- A mantissa of 53 bits is not rounded. -/
theorem scaled_roundWithAccuracy_mul (sign : Sign) {m : Nat} (hle : 2 ^ 52 ≤ m) (hlt : m < 2 ^ 53)
    (s : Nat) {e : Int} (he : -1074 ≤ e + s) :
    Scaled (roundWithAccuracy .binary64 sign (m * 2 ^ s) e .exact) sign m (e + s) := by
  have hpos : m ≠ 0 := by omega
  have hlog : (m * 2 ^ s).log2 = 52 + s := by
    rw [Nat.log2_eq_iff (by positivity), Nat.pow_add, Nat.add_right_comm, Nat.pow_add]
    exact ⟨Nat.mul_le_mul_right _ hle, Nat.mul_lt_mul_of_pos_right hlt (by positivity)⟩
  have hround := scaled_roundWithAccuracy sign hlog he
  rwa [rounded_mul, carried, if_pos hlt] at hround

/-! ## Packing into 64 bits

The exponents that stand for subnormal numbers, infinities and NaN are out of reach of a 64-bit
integer, so packing and unpacking gives the number back. -/

/-- The leading bit of a mantissa is left out when it is packed. -/
theorem toNat_append_implicit {m : Nat} (hle : 2 ^ 52 ≤ m) (hlt : m < 2 ^ 53) :
    (1#1 ++ BitVec.ofNat 52 m).toNat = m := by
  rw [BitVec.toNat_append, ← Nat.shiftLeft_add_eq_or_of_lt (BitVec.isLt _), BitVec.toNat_ofNat]
  simp only [Nat.shiftLeft_eq, BitVec.toNat_ofNat]
  omega

section Packing

variable {u : UnpackedFloat} {sign : Sign} {m : Nat} {e : Int}

/-- A significand of 53 places is packed with its exponent. -/
theorem Scaled.pack_eq (hu : Scaled u sign m e) (hle : 2 ^ 52 ≤ m) (hlt : m < 2 ^ 53) {b : Nat}
    (hb : (b : Int) = e + 1075) (hmax : b ≤ 2046) :
    UnpackedFloat.pack .binary64 u =
      packComponents .binary64 sign (BitVec.ofNat _ b) (BitVec.ofNat _ m) := by
  obtain ⟨h, rfl⟩ := hu
  have hbits : (e + (Format.binary64.exponentBias : Int) +
      Format.binary64.mantissaBitsWithoutImplicit).toNat = b := by
    change (e + 1023 + 52 : Int).toNat = b
    omega
  have hlog : m.log2 + 1 = Format.binary64.mantissaBits :=
    congrArg (· + 1) ((Nat.log2_eq_iff h.ne').mpr ⟨hle, hlt⟩)
  have hroom : ¬2 ^ Format.binary64.exponentBits ≤ b + 1 := by
    change ¬2048 ≤ b + 1
    omega
  rw [UnpackedFloat.pack]
  simp only [hbits]
  rw [if_neg hroom, if_pos hlog]

/-- **Packing keeps a number of 53 bits** whose exponent is in range. -/
theorem Scaled.unpack_pack (hu : Scaled u sign m e) (hle : 2 ^ 52 ≤ m) (hlt : m < 2 ^ 53)
    (hlow : -1074 ≤ e) (hhigh : e ≤ 971) : Scaled (Float.Model.pack u).unpack sign m e := by
  obtain ⟨b, hb⟩ : ∃ b : Nat, (b : Int) = e + 1075 := ⟨(e + 1075).toNat, by omega⟩
  have hexp : (BitVec.ofNat 11 b).toNat = b := by
    rw [BitVec.toNat_ofNat, Nat.mod_eq_of_lt (by omega)]
  -- the two exponents with a meaning of their own: subnormal numbers, infinities
  have hne : ∀ c : BitVec 11, c.toNat = 0 ∨ c.toNat = 2047 → BitVec.ofNat 11 b ≠ c := by
    rintro c hc rfl
    omega
  have hexponent : (b : Int) - ((Format.binary64.exponentBias : Int) +
      Format.binary64.mantissaBitsWithoutImplicit) = e := by
    change (b : Int) - (1023 + 52) = e
    omega
  change Scaled (UnpackedFloat.unpack .binary64 (UnpackedFloat.pack .binary64 u)) sign m e
  rw [hu.pack_eq hle hlt hb (by omega), UnpackedFloat.unpack]
  simp only [unpackExponent_packComponents, unpackMantissa_packComponents,
    unpackSign_packComponents, Sign.ofBitVec_toBitVec]
  rw [if_neg (hne _ (.inr rfl)), if_neg (hne _ (.inl rfl))]
  simp only [toNat_append_implicit hle hlt, hexp]
  rw [hexponent]
  exact ⟨by omega, rfl⟩

/-- What was packed with a carry is unpacked again. -/
theorem Scaled.unpack_carried (hu : Scaled u sign (carried m e).1 (carried m e).2)
    (hle : 2 ^ 52 ≤ m) (hlow : -1074 ≤ e) (hhigh : e ≤ 970) :
    Scaled (Float.Model.pack u).unpack sign (carried m e).1 (carried m e).2 := by
  by_cases hm : m < 2 ^ 53
  · rw [carried, if_pos hm] at hu ⊢
    exact hu.unpack_pack hle hm hlow (by omega)
  · rw [carried, if_neg hm] at hu ⊢
    have hcarry : 2 ^ 52 < 2 ^ 53 := by decide
    exact hu.unpack_pack le_rfl hcarry (by omega) (by omega)

end Packing

/-! ## Integers -/

section Integers

variable {n : Nat}

/-- The leading bits of a positive integer, rounded to 53. -/
def significand (n : Nat) : Nat := rounded (n * 2 ^ 53) (n.log2 + 1)

theorem log2_mul_two_pow (hn : n ≠ 0) : (n * 2 ^ 53).log2 = 52 + (n.log2 + 1) := by
  obtain ⟨hle, hlt⟩ := (Nat.log2_eq_iff hn).mp rfl
  rw [Nat.log2_eq_iff (by positivity), show 52 + (n.log2 + 1) = n.log2 + 53 by omega, Nat.pow_add,
    Nat.add_right_comm, Nat.pow_add]
  exact ⟨Nat.mul_le_mul_right _ hle, Nat.mul_lt_mul_of_pos_right hlt (by positivity)⟩

/-- A significand has at least 53 places. -/
theorem le_significand (hn : n ≠ 0) : 2 ^ 52 ≤ significand n := le_rounded (log2_mul_two_pow hn)

/-- A significand has 53 places, or it is the power of two after these. -/
theorem significand_le (hn : n ≠ 0) : significand n ≤ 2 ^ 53 := rounded_le (log2_mul_two_pow hn)

theorem log2_lt_of_lt (hn : n ≠ 0) (hlt : n < 2 ^ 53) : n.log2 < 53 := (Nat.log2_lt hn).mpr hlt

/-- A number of 53 places is its own significand, up to the scale. -/
theorem significand_of_lt (hn : n ≠ 0) (hlt : n < 2 ^ 53) :
    significand n = n * 2 ^ (52 - n.log2) := by
  have hlog := log2_lt_of_lt hn hlt
  rw [significand, show 53 = (52 - n.log2) + (n.log2 + 1) by omega, Nat.pow_add, ← Nat.mul_assoc,
    rounded_mul]

/-- No carry below `2 ^ 53`. -/
theorem significand_lt (hn : n ≠ 0) (hlt : n < 2 ^ 53) : significand n < 2 ^ 53 := by
  have hlog := log2_lt_of_lt hn hlt
  rw [significand_of_lt hn hlt, show 53 = n.log2 + 1 + (52 - n.log2) by omega, Nat.pow_add]
  exact Nat.mul_lt_mul_of_pos_right Nat.lt_log2_self (by positivity)

theorem toModel_ofNat_of_le (hle : 2 ^ 53 ≤ n) : (Float.ofNat n).toModel =
    Float.Model.pack (roundWithAccuracy .binary64 .positive (n * 2 ^ 53) (-53) .exact) := by
  have hn : n ≠ 0 := by omega
  change (Float.ofScientific n false 0).toModel = _
  rw [Float.ofScientific, dif_neg (by omega)]
  change Float.Model.pack (UnpackedFloat.ofScientific .binary64 n 0) = _
  rw [UnpackedFloat.ofScientific, dif_neg hn, if_neg (by decide),
    if_neg (not_lt.mpr (by change -(2 ^ 11 + (n.log2 : Int)) ≤ 0; omega)), if_pos le_rfl,
    UnpackedFloat.mul, Nat.shiftLeft_eq, show 10 ^ Int.toNat 0 = 1 from rfl, Nat.mul_one]
  rfl

/-- A small integer is packed as a word, then multiplied by one. -/
theorem toModel_ofNat_of_lt (hlt : n < 2 ^ 53) : (Float.ofNat n).toModel =
    Float.Model.pack (UnpackedFloat.mul .binary64
      (Float.Model.pack (UnpackedFloat.normalize .binary64 n 0 .positive)).unpack
      (.finite .positive (2 ^ 52) (-52) (Nat.two_pow_pos 52))) := by
  have hword : n.toUInt64.toNat = n := Nat.mod_eq_of_lt (by omega)
  change (Float.ofScientific n false 0).toModel = _
  rw [Float.ofScientific, dif_pos ⟨hlt, by decide⟩]
  change Float.Model.pack (UnpackedFloat.mul .binary64
    (Float.Model.pack
      (UnpackedFloat.normalize .binary64 (n.toUInt64.toNat : Nat) 0 .positive)).unpack
    (Float.ofBits 0x3FF0000000000000).toModel.unpack) = _
  rw [hword]
  rfl

theorem scaled_normalize {k : Nat} (hn : n ≠ 0) (hk : n.log2 + k = 52) (hle : 2 ^ 52 ≤ n * 2 ^ k)
    (hlt : n * 2 ^ k < 2 ^ 53) :
    Scaled (UnpackedFloat.normalize .binary64 n 0 .positive) .positive (n * 2 ^ k) (-k) := by
  have htarget : Format.binary64.targetExponent (totalExponent n 0) = -k := by
    simp only [Format.targetExponent, totalExponent, Format.mantissaBits, Format.minExponent]
    norm_num
    omega
  have hcompare : compare (n : Int) 0 = .gt := compare_gt_iff_gt.mpr (by omega)
  have hround := scaled_roundWithAccuracy_mul .positive hle hlt 0 (e := -k) (by omega)
  rw [UnpackedFloat.normalize, hcompare]
  dsimp only
  rw [UnpackedFloat.round, Int.toNat_natCast, htarget, decreaseExponent]
  simpa [Nat.shiftLeft_eq] using hround

/-- A number of up to 53 places is held exactly. -/
theorem unpack_ofNat_of_lt (hn : n ≠ 0) (hlt : n < 2 ^ 53) :
    Scaled (Float.ofNat n).toModel.unpack .positive (significand n) (n.log2 - 52) := by
  obtain ⟨k, hk⟩ : ∃ k, n.log2 + k = 52 := Nat.exists_eq_add_of_le (Nat.lt_succ_iff.mp
    (log2_lt_of_lt hn hlt)) |>.imp fun _ => Eq.symm
  have hsig : significand n = n * 2 ^ k := by
    rw [significand_of_lt hn hlt, show 52 - n.log2 = k by omega]
  have hle : 2 ^ 52 ≤ n * 2 ^ k := hsig ▸ le_significand hn
  have hlt' : n * 2 ^ k < 2 ^ 53 := hsig ▸ significand_lt hn hlt
  rw [hsig, show (n.log2 - 52 : Int) = -k by omega]
  obtain ⟨h, hpacked⟩ :=
    (scaled_normalize hn hk hle hlt').unpack_pack hle hlt' (by omega) (by omega)
  rw [toModel_ofNat_of_lt hlt, hpacked]
  have hround := scaled_roundWithAccuracy_mul .positive hle hlt' 52 (e := -k - 52) (by omega)
  rw [show (-k - 52 : Int) + (52 : Nat) = -k by omega] at hround
  exact hround.unpack_pack hle hlt' (by omega) (by omega)

/-- **An integer below `2 ^ 64` is rounded to 53 bits.** -/
theorem unpack_ofNat (hn : n ≠ 0) (hlt : n < 2 ^ 64) :
    Scaled (Float.ofNat n).toModel.unpack .positive (carried (significand n) (n.log2 - 52)).1
      (carried (significand n) (n.log2 - 52)).2 := by
  by_cases hsmall : n < 2 ^ 53
  · rw [carried, if_pos (significand_lt hn hsmall)]
    exact unpack_ofNat_of_lt hn hsmall
  · have hlog : n.log2 < 64 := (Nat.log2_lt hn).mpr hlt
    have hround := scaled_roundWithAccuracy .positive (e := -53) (log2_mul_two_pow hn) (by omega)
    rw [show (-53 : Int) + (n.log2 + 1 : Nat) = n.log2 - 52 by omega] at hround
    rw [toModel_ofNat_of_le (not_lt.mp hsmall)]
    exact hround.unpack_carried (le_significand hn) (by omega) (by omega)

/-- A negative integer is rounded as its absolute value is. -/
theorem unpack_ofInt_neg (hn : n ≠ 0) (hlt : n < 2 ^ 64) :
    Scaled (Float.ofInt (-n)).toModel.unpack .negative (carried (significand n) (n.log2 - 52)).1
      (carried (significand n) (n.log2 - 52)).2 := by
  have hlog : n.log2 < 64 := (Nat.log2_lt hn).mpr hlt
  have hneg : Scaled (Float.ofNat n).toModel.unpack.neg .negative
      (carried (significand n) (n.log2 - 52)).1 (carried (significand n) (n.log2 - 52)).2 := by
    obtain ⟨h, hunpack⟩ := unpack_ofNat hn hlt
    rw [hunpack]
    exact ⟨h, rfl⟩
  have hmodel : (Float.ofInt (-n)).toModel =
      Float.Model.pack (Float.ofNat n).toModel.unpack.neg := by
    obtain ⟨k, rfl⟩ := Nat.exists_eq_add_one_of_ne_zero hn
    rfl
  rw [hmodel]
  exact hneg.unpack_carried (le_significand hn) (by omega) (by omega)

end Integers

end Ingest.Binary64
