import Ingest.Proofs.Aggregation.Maxima
import Ingest.Settings.Pipelines

/-!
# Proofs/Associativity — which configurations merge associatively

Where a group is cut makes no difference to it if merging is associative. It is for configurations
that sum each field once and do nothing else with it (`SumsOnce`): counts add up and the larger of
two values is taken associatively, failures included. A field that is summed twice, or summed and
compared, breaks the law (`merge_assoc_iff`), and nothing keeps it from being configured
(`merge_not_assoc_summedTwice`).
-/

namespace Ingest.FieldAggregation

/-- Each summed field is named once, and for nothing but its sum. -/
def SumsOnce (a : FieldAggregation) : Prop := a.sum.Nodup ∧ ∀ f ∈ a.sum, f ∉ a.max

/-- Rows with counts in the summed fields, whose absolute values add up to no more than the greatest
64-bit integer, and with any JSON values in the other fields. -/
structure Addable (a : FieldAggregation) (rows : List Row) : Prop where
  counts : ∀ f ∈ a.sum, ∀ r ∈ rows, (r.valueAt f).IsCount
  fits : ∀ f ∈ a.sum,
    ((rows.map fun r => (r.valueAt f).amount.natAbs).sum : Nat) ≤ Number.maxInt64
  range : ∀ f, ∀ r ∈ rows, (r.valueAt f).InRange

/-- Merging any three such rows, from the left or from the right, fails or gives the same row. -/
def Associative (a : FieldAggregation) : Prop := ∀ x y z, a.Addable [x, y, z] →
  (a.merge x y >>= fun m => a.merge m z).toOption = (a.merge y z >>= a.merge x).toOption

variable {a : FieldAggregation} {f : String} {u v w : Value}

/-! ## Fields that are summed once -/

/-- Counts are told apart by their amounts, and by being null. -/
theorem isCount_ext (hu : u.IsCount) (hv : v.IsCount) (hamount : u.amount = v.amount)
    (hnull : u = .null ↔ v = .null) : u = v := by
  obtain rfl | ⟨m, rfl⟩ := hu
  · exact (hnull.mp rfl).symm
  obtain rfl | ⟨n, rfl⟩ := hv
  · exact nomatch hnull.mpr rfl
  · exact congrArg Value.ofInt hamount

/-- **Counts add up from the left as from the right.** -/
theorem sumValues_assoc (hu : u.IsCount) (hv : v.IsCount) (hw : w.IsCount)
    (hfits : (u.amount.natAbs + v.amount.natAbs + w.amount.natAbs : Nat) ≤ Number.maxInt64)
    (f : String) :
    ∃ m n x, sumValues f u v = .ok m ∧ sumValues f m w = .ok x ∧ sumValues f v w = .ok n ∧
      sumValues f u n = .ok x := by
  obtain ⟨m, hm, hmcount, hmamount, hmnull⟩ := sumValues_counts hu hv (by omega) f
  obtain ⟨x, hx, hxcount, hxamount, hxnull⟩ := sumValues_counts hmcount hw (by omega) f
  obtain ⟨n, hn, hncount, hnamount, hnnull⟩ := sumValues_counts hv hw (by omega) f
  obtain ⟨y, hy, hycount, hyamount, hynull⟩ := sumValues_counts hu hncount (by omega) f
  obtain rfl : x = y := isCount_ext hxcount hycount (by omega) (by
    rw [hxnull, hynull, hmnull, hnnull, and_assoc])
  exact ⟨m, n, x, hm, hx, hn, hy⟩

/-- A field that is summed once is merged by one addition. -/
theorem SumsOnce.mergeValues_of_mem (h : a.SumsOnce) (hf : f ∈ a.sum) (u v : Value) :
    a.mergeValues f u v = sumValues f u v := by
  rw [mergeValues, List.count_eq_one_of_mem h.1 hf, List.count_eq_zero.mpr (h.2 f hf), repeated]
  cases sumValues f u v <;> rfl

/-- A field that is not summed is merged by comparisons. -/
theorem mergeValues_of_not_mem (hf : f ∉ a.sum) (u v : Value) :
    a.mergeValues f u v = repeated (maxValue f) u (a.max.count f) v := by
  rw [mergeValues, List.count_eq_zero.mpr hf]
  rfl

/-- **Configurations that sum each field once merge associatively.** -/
theorem SumsOnce.associative (h : a.SumsOnce) : a.Associative := by
  intro x y z hrows
  refine merge_assoc_of_values fun f w => ?_
  by_cases hf : f ∈ a.sum
  · obtain ⟨hx, hy, hz⟩ :
        (x.valueAt f).IsCount ∧ (y.valueAt f).IsCount ∧ (z.valueAt f).IsCount := by
      simpa using hrows.counts f hf
    have hfits : ((x.valueAt f).amount.natAbs + (y.valueAt f).amount.natAbs +
        (z.valueAt f).amount.natAbs : Nat) ≤ Number.maxInt64 := by
      simpa [Nat.add_assoc] using hrows.fits f hf
    obtain ⟨m, n, r, hm, hr, hn, hr'⟩ := sumValues_assoc hx hy hz hfits f
    simp [h.mergeValues_of_mem hf, hm, hn, hr, hr']
  · simp only [mergeValues_of_not_mem hf]
    exact repeated_maxValue_assoc (hrows.range f x (by simp)) (hrows.range f y (by simp))
      (hrows.range f z (by simp)) w _

/-! ## Other configurations

Rows with a single field are enough to break the law, since null merges with null everywhere
else. -/

/-- A row with one field. -/
def single (f : String) (v : Value) : Row := ⟨.epoch, .ofList [(f, v)]⟩

theorem valueAt_single (f g : String) (v : Value) :
    (single f v).valueAt g = if g = f then v else .null :=
  Row.valueAt_set ⟨.epoch, .empty⟩ f g v

/-- A row has a value at one field and null at all others. -/
def HasOnly (f : String) (v : Value) (x : Row) : Prop :=
  x.valueAt f = v ∧ ∀ g, g ≠ f → x.valueAt g = .null

theorem hasOnly_single (f : String) (v : Value) : HasOnly f v (single f v) :=
  ⟨by rw [valueAt_single, if_pos rfl], fun g hg => by rw [valueAt_single, if_neg hg]⟩

variable {x y z : Row} {m n p q : Value}

/-- Rows that have one field only are merged in this field. -/
theorem HasOnly.exists_merge (hx : HasOnly f u x) (hy : HasOnly f v y)
    (h : a.mergeValues f u v = .ok w) : ∃ z, a.merge x y = .ok z ∧ HasOnly f w z := by
  obtain ⟨z, hz⟩ : ∃ z, a.merge x y = .ok z := by
    refine exists_merge_iff.mpr fun g => ?_
    by_cases hg : g = f
    · exact ⟨w, by rw [hg, hx.1, hy.1, h]⟩
    · exact ⟨_, by rw [hx.2 g hg, mergeValues_null_left]⟩
  refine ⟨z, hz, ?_, fun g hg => ?_⟩
  · have hvalue := mergeValues_of_merge hz f
    rw [hx.1, hy.1, h] at hvalue
    exact (Except.ok.inj hvalue).symm
  · have hvalue := mergeValues_of_merge hz g
    rw [hx.2 g hg, hy.2 g hg, mergeValues_null_left] at hvalue
    exact (Except.ok.inj hvalue).symm

theorem inRange_ofInt {i : Int} (h : i.natAbs ≤ Number.maxInt64) : (Value.ofInt i).InRange := by
  simp only [Value.ofInt, Value.InRange, Number.InRange, Number.minInt64, Number.maxUInt64,
    Number.maxInt64] at h ⊢
  omega

/-- Three rows with one integer each can be added. -/
theorem addable_singles {i j k : Int}
    (hfits : (i.natAbs + j.natAbs + k.natAbs : Nat) ≤ Number.maxInt64) :
    a.Addable [single f (.ofInt i), single f (.ofInt j), single f (.ofInt k)] := by
  have hrow : ∀ r ∈ [single f (.ofInt i), single f (.ofInt j), single f (.ofInt k)],
      ∃ n : Int, n.natAbs ≤ Number.maxInt64 ∧ r = single f (.ofInt n) := by
    simp only [List.forall_mem_cons]
    exact ⟨⟨i, by omega, rfl⟩, ⟨j, by omega, rfl⟩, ⟨k, by omega, rfl⟩, List.forall_mem_nil _⟩
  refine ⟨fun g _ r hr => ?_, fun g _ => ?_, fun g r hr => ?_⟩
  · obtain ⟨n, -, rfl⟩ := hrow r hr
    rw [valueAt_single]
    split_ifs
    · exact .inr ⟨n, rfl⟩
    · exact .inl rfl
  · by_cases hg : g = f
    · simpa [valueAt_single, hg, Value.ofInt, Value.amount, Nat.add_assoc] using hfits
    · have hzero : (0 : Int) ≤ Number.maxInt64 := by decide
      simpa [valueAt_single, hg, Value.amount] using hzero
  · obtain ⟨n, hn, rfl⟩ := hrow r hr
    rw [valueAt_single]
    split_ifs
    · exact inRange_ofInt hn
    · exact trivial

/-- Values that do not merge associatively, in rows without other values. -/
theorem not_associative {i j k : Int}
    (hfits : (i.natAbs + j.natAbs + k.natAbs : Nat) ≤ Number.maxInt64)
    (hm : a.mergeValues f (.ofInt i) (.ofInt j) = .ok m) (hp : a.mergeValues f m (.ofInt k) = .ok p)
    (hn : a.mergeValues f (.ofInt j) (.ofInt k) = .ok n) (hq : a.mergeValues f (.ofInt i) n = .ok q)
    (hne : p ≠ q) : ¬a.Associative := by
  intro h
  have hsame := h _ _ _ (addable_singles (f := f) hfits)
  obtain ⟨x, hx, hxm⟩ := (hasOnly_single f _).exists_merge (hasOnly_single f _) hm
  obtain ⟨r, hr, hrp⟩ := hxm.exists_merge (hasOnly_single f _) hp
  obtain ⟨y, hy, hyn⟩ := (hasOnly_single f _).exists_merge (hasOnly_single f _) hn
  obtain ⟨r', hr', hrq⟩ := (hasOnly_single f _).exists_merge hyn hq
  rw [toOption_eq_some_iff.mpr (bind_eq_ok_iff.mpr ⟨x, hx, hr⟩),
    toOption_eq_some_iff.mpr (bind_eq_ok_iff.mpr ⟨y, hy, hr'⟩)] at hsame
  obtain rfl := Option.some.inj hsame
  exact hne (hrp.1.symm.trans hrq.1)

/-- Integers add up within the range. -/
theorem sumValues_ofInt {i j : Int} (hfits : (i.natAbs + j.natAbs : Nat) ≤ Number.maxInt64) :
    sumValues f (.ofInt i) (.ofInt j) = .ok (.ofInt (i + j)) := by
  obtain ⟨v, hv, hcount, hamount, hnull⟩ :=
    sumValues_counts (a := .ofInt i) (b := .ofInt j) (.inr ⟨i, rfl⟩) (.inr ⟨j, rfl⟩) hfits f
  have hne : v ≠ .null := fun h => nomatch (hnull.mp h).1
  rw [hv, isCount_ext hcount (.inr ⟨i + j, rfl⟩) hamount (iff_of_false hne nofun)]

/-- To add a number several times is to add its multiple. -/
theorem repeated_sumValues (i j : Int) (k : Nat)
    (hfits : (j.natAbs + k * i.natAbs : Nat) ≤ Number.maxInt64) :
    repeated (sumValues f) (.ofInt i) k (.ofInt j) = .ok (.ofInt (j + k * i)) := by
  induction k generalizing j with
  | zero => simp [repeated]
  | succ k ih =>
    rw [Nat.succ_mul] at hfits
    rw [repeated_succ_of_ok (sumValues_ofInt (by omega)), ih (i + j) (by omega)]
    congr 2
    push_cast
    ring

/-- A summed field with the integer `i`, which comes up against the integer `j`. -/
theorem mergeValues_ofInt (i j : Int)
    (hfits : (j.natAbs + a.sum.count f * i.natAbs : Nat) ≤ Number.maxInt64) :
    a.mergeValues f (.ofInt i) (.ofInt j) =
      repeated (maxValue f) (.ofInt i) (a.max.count f) (.ofInt (j + a.sum.count f * i)) := by
  rw [mergeValues, repeated_sumValues i j _ hfits]
  rfl

/-- The sum stays, also in a maximum, if it is not smaller than the first value. -/
theorem mergeValues_ofInt_of_le {i j n : Int} (hn : j + a.sum.count f * i = n) (hle : i ≤ n)
    (hfits : (j.natAbs + a.sum.count f * i.natAbs : Nat) ≤ Number.maxInt64)
    (hi : i.natAbs ≤ Number.maxInt64) (hn' : n.natAbs ≤ Number.maxInt64) :
    a.mergeValues f (.ofInt i) (.ofInt j) = .ok (.ofInt n) := by
  rw [mergeValues_ofInt i j hfits, hn]
  cases a.max.count f with
  | zero => rfl
  | succ k =>
    have hnot := not_above_ofInt (inRange_ofInt hi) (inRange_ofInt hn') hle
    rw [repeated_maxValue_of_alike (alike_ofInt i i) (alike_ofInt i n), larger_of_not_above hnot]

/-- In a maximum the first value comes back if it is above the sum. -/
theorem mergeValues_ofInt_of_above {i j n : Int} (hmax : f ∈ a.max)
    (hn : j + a.sum.count f * i = n)
    (hfits : (j.natAbs + a.sum.count f * i.natAbs : Nat) ≤ Number.maxInt64)
    (habove : Above (.ofInt i) (.ofInt n)) :
    a.mergeValues f (.ofInt i) (.ofInt j) = .ok (.ofInt i) := by
  obtain ⟨k, hk⟩ := Nat.exists_eq_add_one_of_ne_zero (List.count_pos_iff.mpr hmax).ne'
  rw [mergeValues_ofInt i j hfits, hn, hk,
    repeated_maxValue_of_alike (alike_ofInt i i) (alike_ofInt i n), larger_of_above habove]

/-- Against nothing, an integer is taken as often as its field is summed. -/
theorem mergeValues_ofInt_zero (hf : f ∈ a.sum) {m : Nat}
    (hfits : (a.sum.count f * m : Nat) ≤ Number.maxInt64) :
    a.mergeValues f (.ofInt m) (.ofInt 0) = .ok (.ofInt (a.sum.count f * m : Nat)) := by
  have hle : m ≤ a.sum.count f * m := Nat.le_mul_of_pos_left m (List.count_pos_iff.mpr hf)
  exact mergeValues_ofInt_of_le (by push_cast; ring) (by omega) (by simpa using hfits)
    (by omega) (by omega)

/-- **A field that is summed several times breaks the law.** -/
theorem Associative.nodup (hlength : a.sum.length ≤ 2 ^ 31) (h : a.Associative) : a.sum.Nodup := by
  refine List.nodup_iff_count_le_one.mpr fun f => ?_
  by_contra! htwice
  have hf : f ∈ a.sum := List.count_pos_iff.mp (by omega)
  have hbound : a.sum.count f ≤ 2 ^ 31 := List.count_le_length.trans hlength
  have hmax : Number.maxInt64 = 2 ^ 63 - 1 := rfl
  generalize hk : a.sum.count f = k at htwice hbound
  have hsquare : k * k ≤ 2 ^ 31 * 2 ^ 31 := Nat.mul_le_mul hbound hbound
  have hlt : k < k * k := (Nat.lt_mul_iff_one_lt_left (by omega)).mpr htwice
  have hzero : ∀ m : Nat, k * m ≤ 2 ^ 31 * 2 ^ 31 →
      a.mergeValues f (.ofInt m) (.ofInt 0) = .ok (.ofInt (k * m : Nat)) := fun m hm => by
    rw [mergeValues_ofInt_zero hf (by rw [hk]; omega), hk]
  have hne : Value.ofInt (k * k : Nat) ≠ .ofInt k := by
    simp only [Value.ofInt, ne_eq, Value.number.injEq, Number.int.injEq]
    omega
  refine not_associative (f := f) (i := (1 : Nat)) (j := 0) (k := 0) (by omega) (m := .ofInt k)
    ?_ (hzero k hsquare) (n := .ofInt 0) ?_ ?_ hne h
  · simpa using hzero 1 (by omega)
  · simpa using hzero 0 (by omega)
  · simpa using hzero 1 (by omega)

/-- **A field that is summed and compared breaks the law**: of 1, -2 and 1 the sum is 2 from the
left and 1 from the right. -/
theorem Associative.not_mem_max (hnodup : a.sum.Nodup) (h : a.Associative) (hf : f ∈ a.sum) :
    f ∉ a.max := by
  intro hmax
  have hone : a.sum.count f = 1 := List.count_eq_one_of_mem hnodup hf
  have hmax64 : Number.maxInt64 = 2 ^ 63 - 1 := rfl
  have hle : ∀ i j n : Int, i.natAbs ≤ 2 ∧ j.natAbs ≤ 2 ∧ j + i = n ∧ i ≤ n →
      a.mergeValues f (.ofInt i) (.ofInt j) = .ok (.ofInt n) := fun i j n ⟨hi, hj, hn, hle⟩ =>
    mergeValues_ofInt_of_le (by simpa [hone] using hn) hle (by rw [hone]; omega) (by omega)
      (by omega)
  have hgt : ∀ i j n : Int, i.natAbs ≤ 2 ∧ j.natAbs ≤ 2 ∧ j + i = n ∧ n < i →
      a.mergeValues f (.ofInt i) (.ofInt j) = .ok (.ofInt i) := fun i j n ⟨hi, hj, hn, hlt⟩ =>
    mergeValues_ofInt_of_above hmax (by simpa [hone] using hn) (by rw [hone]; omega)
      ((above_ofInt_iff (inRange_ofInt (by omega)) (inRange_ofInt (by omega))).mpr
        (Binary64.ofInt_lt_ofInt (by omega) (by omega) hlt))
  exact not_associative (f := f) (i := 1) (j := -2) (k := 1) (by decide)
    (hgt 1 (-2) (-1) (by decide)) (hle 1 1 2 (by decide)) (hle (-2) 1 (-1) (by decide))
    (hgt 1 (-1) 0 (by decide)) nofun h

/-- An associative merge sums no field twice. -/
theorem Associative.sumsOnce (hlength : a.sum.length ≤ 2 ^ 31) (h : a.Associative) : a.SumsOnce :=
  ⟨h.nodup hlength, fun _ hf => h.not_mem_max (h.nodup hlength) hf⟩

/-- **Merging is associative exactly for configurations that sum each field once** and do nothing
else with it. The bound on their number keeps what is summed several times within 64 bits. -/
theorem merge_assoc_iff (hlength : a.sum.length ≤ 2 ^ 31) : a.Associative ↔ a.SumsOnce :=
  ⟨fun h => h.sumsOnce hlength, SumsOnce.associative⟩

/-- Counts by key, with the highest level. -/
def summedOnce : FieldAggregation where
  groupBy := ["k"]
  sum := ["n"]
  max := ["level"]

/-- A configuration that is associative. -/
theorem merge_assoc_iff_summedOnce :
    summedOnce.sum.length ≤ 2 ^ 31 ∧ (summedOnce.Associative ↔ summedOnce.SumsOnce) :=
  ⟨by decide, merge_assoc_iff (by decide)⟩

/-- Counts by key, where the count is named twice. -/
def summedTwice : FieldAggregation where
  groupBy := ["k"]
  sum := ["n", "n"]

/-- A pipeline with such a configuration. -/
def twicePipeline : PipelineSettings where
  name := "p"
  query := "SELECT 1"
  timestampColumn := "t"
  extractionLimit := none
  sinks := [⟨⟨"s", "SELECT 1", none, none⟩, some ⟨summedTwice, .streaming, none⟩⟩]

/-- **A count that is named twice is accepted, and where a group is cut changes it.** -/
theorem merge_not_assoc_summedTwice :
    PipelineSettings.firstFault? [] [twicePipeline] = none ∧
      summedTwice.Addable [single "n" (.ofInt 1), single "n" (.ofInt 0), single "n" (.ofInt 0)] ∧
      (∃ m r, summedTwice.merge (single "n" (.ofInt 1)) (single "n" (.ofInt 0)) = .ok m ∧
        summedTwice.merge m (single "n" (.ofInt 0)) = .ok r ∧ r.valueAt "n" = .ofInt 4) ∧
      ∃ m r, summedTwice.merge (single "n" (.ofInt 0)) (single "n" (.ofInt 0)) = .ok m ∧
        summedTwice.merge (single "n" (.ofInt 1)) m = .ok r ∧ r.valueAt "n" = .ofInt 2 :=
  ⟨by decide, addable_singles (by decide), ⟨_, _, rfl, rfl, rfl⟩, _, _, rfl, rfl, rfl⟩

end Ingest.FieldAggregation
