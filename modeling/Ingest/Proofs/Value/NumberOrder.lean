import Ingest.Aggregation.Fields
import Ingest.Proofs.Value.Rounding

/-!
# Proofs/Value/NumberOrder — how rounded numbers compare

Binary64 numbers compare by their sign, then by exponent and mantissa, both turned around below
zero: they compare as their ranks do in a linear order (`compareFloats_eq_cmp`). Rounding an
integer of 64 bits keeps its order to other integers weakly (`rank_ofInt_mono`), and strictly as
long as both have at most 53 bits (`rank_ofInt_strictMono`); beyond, neighbours may meet.
-/

namespace Ingest

namespace Binary64

open Float.Model Float.Model.UnpackedFloat

/-! ## Ranks -/

/-- Where a number stands among all numbers: its sign, then its exponent, then its mantissa. -/
def place : UnpackedFloat → ℤ ×ₗ ℤ ×ₗ ℤ
  | .infinity .negative => toLex (-2, toLex (0, 0))
  | .finite .negative m e _ => toLex (-1, -toLex (e, (m : ℤ)))
  | .zero _ | .notANumber => toLex (0, toLex (0, 0))
  | .finite .positive m e _ => toLex (1, toLex (e, m))
  | .infinity .positive => toLex (2, toLex (0, 0))

/-- Unpacked floats are ordered by their places. -/
theorem lt_iff_place {u v : UnpackedFloat} (hu : u ≠ .notANumber) (hv : v ≠ .notANumber) :
    u.lt v = true ↔ place u < place v := by
  -- one case for each two kinds of numbers; in one of them exponents and mantissas are compared
  rcases u with s | _ | s | ⟨s, m, e, hm⟩ <;> rcases v with s' | _ | s' | ⟨s', m', e', hm'⟩
  all_goals first | exact absurd rfl hu | exact absurd rfl hv | (cases s <;> cases s')
  all_goals simp [UnpackedFloat.lt, UnpackedFloat.compare, place, neg_lt_neg_iff,
    Prod.Lex.toLex_lt_toLex, Ordering.then_eq_lt, Ordering.then_eq_gt, Ordering.swap_eq_lt,
    compare_lt_iff_lt, compare_gt_iff_gt]
  all_goals first | rfl | omega

/-- The rank of a binary64 number. -/
def rank (x : Float) : ℤ ×ₗ ℤ ×ₗ ℤ := place x.toModel.unpack

/-- Floats are ordered by their ranks. -/
theorem lt_iff_rank {x y : Float} (hx : x.toModel.unpack ≠ .notANumber)
    (hy : y.toModel.unpack ≠ .notANumber) : x < y ↔ rank x < rank y := by
  rw [rank, rank, ← lt_iff_place hx hy]
  exact decide_eq_true_iff

/-- **Numbers compare as their ranks do.** -/
theorem compareFloats_eq_cmp {x y : Float} (hx : x.toModel.unpack ≠ .notANumber)
    (hy : y.toModel.unpack ≠ .notANumber) :
    FieldAggregation.compareFloats x y = cmp (rank x) (rank y) := by
  simp only [FieldAggregation.compareFloats, lt_iff_rank hx hy, lt_iff_rank hy hx, cmp, cmpUsing]

/-! ## Integers -/

/-- Exponent and mantissa of a positive integer. -/
def magnitude (n : Nat) : ℤ ×ₗ ℤ :=
  toLex ((carried (significand n) (n.log2 - 52)).2, (carried (significand n) (n.log2 - 52)).1)

/-- Greater numbers have no smaller magnitude. -/
theorem magnitude_mono {m n : Nat} (hm : m ≠ 0) (h : m ≤ n) :
    magnitude m ≤ magnitude n := by
  have hn : n ≠ 0 := by omega
  have hlogs : m.log2 ≤ n.log2 := (Nat.le_log2 hn).mpr ((Nat.log2_self_le hm).trans h)
  have hmle := significand_le hm
  have hnle := le_significand hn
  have hle : m.log2 = n.log2 → significand m ≤ significand n := by
    intro heq
    rw [significand, significand, heq]
    exact rounded_mono (Nat.mul_le_mul_right _ h) _
  rw [magnitude, magnitude, Prod.Lex.toLex_le_toLex, carried, carried]
  split_ifs <;> dsimp only <;> omega

/-- Up to 53 places the magnitudes differ. -/
theorem magnitude_strictMono {m n : Nat} (hm : m ≠ 0) (h : m < n) (hn : n ≤ 2 ^ 53) :
    magnitude m < magnitude n := by
  have hn0 : n ≠ 0 := by omega
  have hlogs : m.log2 ≤ n.log2 := (Nat.le_log2 hn0).mpr ((Nat.log2_self_le hm).trans h.le)
  have hmlt := significand_lt hm (h.trans_le hn)
  have hlt : m.log2 = n.log2 → significand m < significand n := by
    intro heq
    have hlog := log2_lt_of_lt hm (h.trans_le hn)
    have hnlt : n < 2 ^ 53 := (Nat.log2_lt hn0).mp (heq ▸ hlog)
    rw [significand_of_lt hm (h.trans_le hn), significand_of_lt hn0 hnlt, heq]
    exact Nat.mul_lt_mul_of_pos_right h (by positivity)
  rw [magnitude, magnitude, Prod.Lex.toLex_lt_toLex, carried, carried]
  split_ifs <;> dsimp only <;> omega

theorem rank_ofNat {n : Nat} (hn : n ≠ 0) (hlt : n < 2 ^ 64) :
    rank (.ofInt n) = toLex (1, magnitude n) := by
  obtain ⟨h, hunpack⟩ : Scaled (Float.ofInt n).toModel.unpack .positive _ _ := unpack_ofNat hn hlt
  rw [rank, hunpack, place, magnitude]

theorem rank_ofInt_neg {n : Nat} (hn : n ≠ 0) (hlt : n < 2 ^ 64) :
    rank (.ofInt (-n)) = toLex (-1, -magnitude n) := by
  obtain ⟨h, hunpack⟩ := unpack_ofInt_neg hn hlt
  rw [rank, hunpack, place, magnitude]

/-- The rank of an integer is its sign and its magnitude. -/
theorem rank_ofInt {n : Int} (hn : n.natAbs < 2 ^ 64) :
    rank (.ofInt n) = toLex (n.sign, n.sign • magnitude n.natAbs) := by
  obtain hneg | rfl | hpos := lt_trichotomy n 0
  · obtain ⟨k, rfl⟩ := Int.exists_eq_neg_ofNat hneg.le
    rw [Int.natAbs_neg, Int.natAbs_natCast] at hn ⊢
    rw [rank_ofInt_neg (by omega) hn, Int.sign_eq_neg_one_of_neg hneg, neg_one_zsmul]
  · decide +kernel
  · obtain ⟨k, rfl⟩ := Int.eq_ofNat_of_zero_le hpos.le
    rw [Int.natAbs_natCast] at hn ⊢
    rw [rank_ofNat (by omega) hn, Int.sign_eq_one_of_pos hpos, one_zsmul]

/-- An integer becomes no NaN. -/
theorem unpack_ofInt_ne {n : Int} (hn : n.natAbs < 2 ^ 64) :
    (Float.ofInt n).toModel.unpack ≠ .notANumber := by
  intro hnan
  obtain hneg | rfl | hpos := lt_trichotomy n 0
  · obtain ⟨k, rfl⟩ := Int.exists_eq_neg_ofNat hneg.le
    obtain ⟨h, hunpack⟩ := unpack_ofInt_neg (n := k) (by omega) (by omega)
    exact nomatch hnan.symm.trans hunpack
  · have hzero : (Float.ofInt 0).toModel.unpack.isNaN = false := by decide +kernel
    rw [hnan] at hzero
    exact nomatch hzero
  · obtain ⟨k, rfl⟩ := Int.eq_ofNat_of_zero_le hpos.le
    obtain ⟨h, hunpack⟩ := unpack_ofNat (n := k) (by omega) (by omega)
    exact nomatch hnan.symm.trans hunpack

variable {m n : Int}

/-- Two integers in order differ in their signs, or are on one side of zero. -/
theorem sign_lt_or (h : m < n) : m.sign < n.sign ∨ (0 < m ∧ 0 < n) ∨ m < 0 ∧ n < 0 := by
  have hneg : ∀ k : Int, k.sign = -1 ↔ k < 0 := fun _ => Int.sign_eq_neg_one_iff_neg
  have hpos : ∀ k : Int, k.sign = 1 ↔ 0 < k := fun _ => Int.sign_eq_one_iff_pos
  grind [Int.sign_trichotomy]

/-- **Rounding keeps the order** of integers of 64 bits. -/
theorem rank_ofInt_mono (hm : m.natAbs < 2 ^ 64) (hn : n.natAbs < 2 ^ 64) (h : m ≤ n) :
    rank (.ofInt m) ≤ rank (.ofInt n) := by
  obtain rfl | hlt := h.eq_or_lt
  · exact le_rfl
  rw [rank_ofInt hm, rank_ofInt hn, Prod.Lex.toLex_le_toLex]
  obtain hsign | ⟨hm, hn⟩ | ⟨hm, hn⟩ := sign_lt_or hlt
  · exact .inl hsign
  · rw [Int.sign_eq_one_of_pos hm, Int.sign_eq_one_of_pos hn, one_zsmul, one_zsmul]
    exact .inr ⟨rfl, magnitude_mono (by omega) (by omega)⟩
  · rw [Int.sign_eq_neg_one_of_neg hm, Int.sign_eq_neg_one_of_neg hn, neg_one_zsmul, neg_one_zsmul]
    exact .inr ⟨rfl, neg_le_neg (magnitude_mono (by omega) (by omega))⟩

/-- **Integers of 53 bits stay apart.** -/
theorem rank_ofInt_strictMono (hm : m.natAbs ≤ 2 ^ 53) (hn : n.natAbs ≤ 2 ^ 53) (h : m < n) :
    rank (.ofInt m) < rank (.ofInt n) := by
  rw [rank_ofInt (by omega), rank_ofInt (by omega), Prod.Lex.toLex_lt_toLex]
  obtain hsign | ⟨hm, hn⟩ | ⟨hm, hn⟩ := sign_lt_or h
  · exact .inl hsign
  · rw [Int.sign_eq_one_of_pos hm, Int.sign_eq_one_of_pos hn, one_zsmul, one_zsmul]
    exact .inr ⟨rfl, magnitude_strictMono (by omega) (by omega) (by omega)⟩
  · rw [Int.sign_eq_neg_one_of_neg hm, Int.sign_eq_neg_one_of_neg hn, neg_one_zsmul, neg_one_zsmul]
    exact .inr ⟨rfl, neg_lt_neg (magnitude_strictMono (by omega) (by omega) (by omega))⟩

/-- Integers of up to 53 places keep their order as floats. -/
theorem ofInt_lt_ofInt (hm : m.natAbs ≤ 2 ^ 53) (hn : n.natAbs ≤ 2 ^ 53) (h : m < n) :
    Float.ofInt m < Float.ofInt n :=
  (lt_iff_rank (unpack_ofInt_ne (by omega)) (unpack_ofInt_ne (by omega))).mpr
    (rank_ofInt_strictMono hm hn h)

end Binary64

/-! ## JSON numbers -/

namespace Number

/-- A number as JSON text has it: an integer of 64 bits, signed or not, or a finite float. -/
def InRange : Number → Prop
  | .int n => minInt64 ≤ n ∧ n ≤ maxUInt64
  | .float x => x.isFinite = true

theorem natAbs_lt_of_inRange {n : Int} (h : (Number.int n).InRange) : n.natAbs < 2 ^ 64 := by
  simp only [InRange, minInt64, maxUInt64] at h
  omega

/-- The place of a number among all numbers, as far as their roundings tell them apart. -/
def rank (n : Number) : ℤ ×ₗ ℤ ×ₗ ℤ := Binary64.rank n.toFloat

/-- A number within the range is a number as a float. -/
theorem unpack_toFloat_ne {n : Number} (h : n.InRange) :
    n.toFloat.toModel.unpack ≠ .notANumber := by
  cases n with
  | int n => exact Binary64.unpack_ofInt_ne (natAbs_lt_of_inRange h)
  | float x =>
    intro hnan
    have hfinite : x.toModel.unpack.isFinite = true := h
    rw [show x.toModel.unpack = .notANumber from hnan] at hfinite
    exact nomatch hfinite

/-- Numbers are ordered as floats by their ranks. -/
theorem toFloat_lt_iff {m n : Number} (hm : m.InRange) (hn : n.InRange) :
    m.toFloat < n.toFloat ↔ m.rank < n.rank :=
  Binary64.lt_iff_rank (unpack_toFloat_ne hm) (unpack_toFloat_ne hn)

/-- Integers keep their order, but for ties. -/
theorem rank_int_mono {m n : Int} (hm : (Number.int m).InRange) (hn : (Number.int n).InRange)
    (h : m ≤ n) : (Number.int m).rank ≤ (Number.int n).rank :=
  Binary64.rank_ofInt_mono (natAbs_lt_of_inRange hm) (natAbs_lt_of_inRange hn) h

/-- Numbers are compared by their ranks. -/
theorem compareFloats_toFloat {m n : Number} (hm : m.InRange) (hn : n.InRange) :
    FieldAggregation.compareFloats m.toFloat n.toFloat = cmp m.rank n.rank :=
  Binary64.compareFloats_eq_cmp (unpack_toFloat_ne hm) (unpack_toFloat_ne hn)

end Number

end Ingest
