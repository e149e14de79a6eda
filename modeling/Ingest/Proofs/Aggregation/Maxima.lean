import Ingest.Proofs.Aggregation.FieldWise
import Ingest.Proofs.Value.NumberOrder

/-!
# Proofs/Aggregation/Maxima — the larger of two values

Null is below everything, and values of one kind compare as in a linear order (`exists_ranks`);
values of two kinds do not compare, nor do arrays and objects. So taking the larger value is
associative, failures included (`maxValue_assoc`), and one after the other it leaves the last value
that no other is above (`LastGreatest.snoc`).
-/

namespace Ingest

/-- A number is in the range of JSON numbers. -/
def Value.InRange : Value → Prop
  | .number n => n.InRange
  | _ => True

namespace FieldAggregation

/-! ## Comparing

The kinds of three values are told apart once, in `exists_ranks`; what follows from it is about
three elements of a linear order. -/

/-- The two values compare. -/
def Alike (u v : Value) : Prop := (compareValues? u v).isSome

/-- The first value is above the second. -/
def Above (u v : Value) : Prop := compareValues? u v = some .gt

instance (u v : Value) : Decidable (Above u v) := inferInstanceAs (Decidable (_ = _))

variable {u v w : Value} {f : String}

/-- Null can be compared with everything. -/
theorem alike_null_left (v : Value) : Alike .null v := rfl

/-- Everything can be compared with null. -/
theorem alike_null_right (u : Value) : Alike u .null := by
  cases u <;> rfl

/-- Null is above nothing. -/
theorem not_above_null (v : Value) : ¬Above .null v := nofun

/-- Everything else is above null. -/
theorem above_null (hu : u ≠ .null) : Above u .null := by
  cases u <;> first | rfl | exact absurd rfl hu

/-- Two numbers, two texts or two truth values. -/
inductive SameKind : Value → Value → Prop where
  | number (m n : Number) : SameKind (.number m) (.number n)
  | string (s t : String) : SameKind (.string s) (.string t)
  | bool (b c : Bool) : SameKind (.bool b) (.bool c)

/-- What can be compared with each other is of one kind, null apart. -/
theorem sameKind_of_alike (h : Alike u v) (hu : u ≠ .null) (hv : v ≠ .null) : SameKind u v := by
  cases u <;> cases v <;> first
    | exact .number _ _
    | exact .string _ _
    | exact .bool _ _
    | exact absurd rfl hu
    | exact absurd rfl hv
    | exact absurd h Bool.false_ne_true

/-- **Values of one kind compare as in a linear order.** -/
theorem exists_ranks (hu : u.InRange) (hv : v.InRange) (hw : w.InRange) (hu0 : u ≠ .null)
    (hv0 : v ≠ .null) (hw0 : w ≠ .null) (huv : Alike u v) (hvw : Alike v w) :
    ∃ (α : Type) (_ : LinearOrder α) (x y z : α), compareValues? u v = some (cmp x y) ∧
      compareValues? v w = some (cmp y z) ∧ compareValues? u w = some (cmp x z) := by
  have hkind := sameKind_of_alike hvw hv0 hw0
  cases sameKind_of_alike huv hu0 hv0 with
  | number m n =>
    cases hkind with
    | number _ k =>
      exact ⟨_, inferInstance, m.rank, n.rank, k.rank,
        congrArg some (Number.compareFloats_toFloat hu hv),
        congrArg some (Number.compareFloats_toFloat hv hw),
        congrArg some (Number.compareFloats_toFloat hu hw)⟩
  | string s t =>
    cases hkind with
    | string _ r =>
      refine ⟨_, inferInstance, s, t, r, ?_⟩
      simp only [cmp_eq_compare]
      exact ⟨rfl, rfl, rfl⟩
  | bool a b =>
    cases hkind with
    | bool _ c =>
      refine ⟨_, inferInstance, a.toNat, b.toNat, c.toNat, ?_⟩
      simp only [cmp_eq_compare]
      exact ⟨rfl, rfl, rfl⟩

theorem Alike.symm (h : Alike u v) : Alike v u := by
  cases u <;> cases v <;> first | rfl | exact absurd h Bool.false_ne_true

/-- What is above another value can be compared with it. -/
theorem Above.alike (h : Above u v) : Alike u v := by
  rw [Alike, h]
  rfl

/-- Being above is transitive within the range. -/
theorem Above.trans (hu : u.InRange) (hv : v.InRange) (hw : w.InRange) (huv : Above u v)
    (hvw : Above v w) : Above u w := by
  have hu0 : u ≠ .null := fun h => not_above_null v (h ▸ huv)
  have hv0 : v ≠ .null := fun h => not_above_null w (h ▸ hvw)
  by_cases hw0 : w = .null
  · exact hw0 ▸ above_null hu0
  obtain ⟨α, _, x, y, z, hxy, hyz, hxz⟩ :=
    exists_ranks hu hv hw hu0 hv0 hw0 huv.alike hvw.alike
  rw [Above, hxy, Option.some_inj, cmp_eq_gt_iff] at huv
  rw [Above, hyz, Option.some_inj, cmp_eq_gt_iff] at hvw
  rw [Above, hxz, Option.some_inj, cmp_eq_gt_iff]
  exact hvw.trans huv

/-- Not being above is transitive among values that can be compared. -/
theorem not_above_trans (hu : u.InRange) (hv : v.InRange) (hw : w.InRange) (huv : Alike u v)
    (hvw : Alike v w) (h : ¬Above u v) (h' : ¬Above v w) : ¬Above u w := by
  by_cases hu0 : u = .null
  · exact hu0 ▸ not_above_null w
  by_cases hv0 : v = .null
  · exact absurd (hv0 ▸ above_null hu0) h
  by_cases hw0 : w = .null
  · exact absurd (hw0 ▸ above_null hv0) h'
  obtain ⟨α, _, x, y, z, hxy, hyz, hxz⟩ := exists_ranks hu hv hw hu0 hv0 hw0 huv hvw
  rw [Above, hxy, Option.some_inj, cmp_eq_gt_iff] at h
  rw [Above, hyz, Option.some_inj, cmp_eq_gt_iff] at h'
  rw [Above, hxz, Option.some_inj, cmp_eq_gt_iff]
  exact fun hzx => h (lt_of_le_of_lt (not_lt.mp h') hzx)

/-- Values that can be compared with a third, which is not null, can be compared. -/
theorem Alike.trans (hu : u.InRange) (hv : v.InRange) (hw : w.InRange) (hv0 : v ≠ .null)
    (huv : Alike u v) (hvw : Alike v w) : Alike u w := by
  by_cases hu0 : u = .null
  · exact hu0 ▸ alike_null_left w
  by_cases hw0 : w = .null
  · exact hw0 ▸ alike_null_right u
  obtain ⟨α, _, x, y, z, -, -, hxz⟩ := exists_ranks hu hv hw hu0 hv0 hw0 huv hvw
  rw [Alike, hxz]
  rfl

/-! ## Integers -/

/-- Counts can be compared. -/
theorem alike_of_isCount (hu : u.IsCount) (hv : v.IsCount) : Alike u v := by
  obtain rfl | ⟨m, rfl⟩ := hu <;> obtain rfl | ⟨n, rfl⟩ := hv <;> rfl

/-- Integers can be compared. -/
theorem alike_ofInt (m n : Int) : Alike (.ofInt m) (.ofInt n) := rfl

/-- Integers are compared as the numbers that they are rounded to. -/
theorem above_ofInt_iff {m n : Int} (hm : (Value.ofInt m).InRange) (hn : (Value.ofInt n).InRange) :
    Above (.ofInt m) (.ofInt n) ↔ Float.ofInt n < Float.ofInt m := by
  have hcompare : Above (.ofInt m) (.ofInt n) ↔
      compareFloats (Number.int m).toFloat (Number.int n).toFloat = .gt := Option.some_inj
  rw [hcompare, Number.compareFloats_toFloat (m := .int m) (n := .int n) hm hn, cmp_eq_gt_iff]
  exact (Number.toFloat_lt_iff (m := .int n) (n := .int m) hn hm).symm

/-- An integer that is not greater is not above, however both are rounded. -/
theorem not_above_ofInt {m n : Int} (hm : (Value.ofInt m).InRange) (hn : (Value.ofInt n).InRange)
    (h : m ≤ n) : ¬Above (.ofInt m) (.ofInt n) := by
  rw [above_ofInt_iff hm hn]
  intro hlt
  have hrank := (Number.toFloat_lt_iff (m := .int n) (n := .int m) hn hm).mp hlt
  exact absurd (Number.rank_int_mono hm hn h) (not_le.mpr hrank)

/-! ## The larger value -/

/-- The larger of two values; the second if neither is larger. -/
def larger (u v : Value) : Value := if Above u v then u else v

/-- The value above is kept. -/
theorem larger_of_above (h : Above u v) : larger u v = u := if_pos h

/-- Otherwise the second value is kept, also if neither is above. -/
theorem larger_of_not_above (h : ¬Above u v) : larger u v = v := if_neg h

/-- One of the two is kept. -/
theorem larger_cases (u v : Value) : larger u v = u ∨ larger u v = v := by
  rw [larger]
  split_ifs
  · exact .inl rfl
  · exact .inr rfl

theorem larger_null_left (v : Value) : larger .null v = v := larger_of_not_above (not_above_null v)

theorem larger_null_right (u : Value) : larger u .null = u := by
  by_cases hu : u = .null
  · rw [hu, larger_null_left]
  · exact larger_of_above (above_null hu)

/-- Two values have a maximum if they can be compared. -/
theorem maxValue_eq_ok_iff : maxValue f u v = .ok w ↔ Alike u v ∧ larger u v = w := by
  rw [maxValue, Alike]
  cases h : compareValues? u v with
  | none => simp
  | some o =>
    cases o with
    | gt => simp [larger_of_above h]
    | lt | eq => simp [larger_of_not_above (show ¬Above u v by simp [Above, h])]

/-- It does not matter which two of three values are compared first. -/
theorem larger_assoc (hu : u.InRange) (hv : v.InRange) (hw : w.InRange) (huv : Alike u v)
    (hvw : Alike v w) : larger (larger u v) w = larger u (larger v w) := by
  by_cases h : Above u v <;> by_cases h' : Above v w
  · rw [larger_of_above h, larger_of_above h', larger_of_above h,
      larger_of_above (h.trans hu hv hw h')]
  · rw [larger_of_above h, larger_of_not_above h']
  · rw [larger_of_not_above h, larger_of_above h', larger_of_not_above h]
  · rw [larger_of_not_above h, larger_of_not_above h',
      larger_of_not_above (not_above_trans hu hv hw huv hvw h h')]

/-- The larger of two values can be compared with a third if the second can. -/
theorem alike_larger_left (hu : u.InRange) (hv : v.InRange) (hw : w.InRange) (hu0 : u ≠ .null)
    (hv0 : v ≠ .null) (huv : Alike u v) : Alike (larger u v) w ↔ Alike v w := by
  obtain h | h := larger_cases u v <;> rw [h]
  exact ⟨huv.symm.trans hv hu hw hu0, huv.trans hu hv hw hv0⟩

/-- A value can be compared with the larger of two others if it can be with the first. -/
theorem alike_larger_right (hu : u.InRange) (hv : v.InRange) (hw : w.InRange) (hv0 : v ≠ .null)
    (hw0 : w ≠ .null) (hvw : Alike v w) : Alike u (larger v w) ↔ Alike u v := by
  obtain h | h := larger_cases v w <;> rw [h]
  exact ⟨fun huw => huw.trans hu hw hv hw0 hvw.symm, fun huv => huv.trans hu hv hw hv0 hvw⟩

/-- **Taking the larger value is associative**: on both sides the last value that no other is above
is left, and both fail if any two do not compare. -/
theorem maxValue_assoc (hu : u.InRange) (hv : v.InRange) (hw : w.InRange) (x : Value) :
    (∃ m, maxValue f u v = .ok m ∧ maxValue f m w = .ok x) ↔
      ∃ m, maxValue f v w = .ok m ∧ maxValue f u m = .ok x := by
  have hleft : (∃ m, maxValue f u v = .ok m ∧ maxValue f m w = .ok x) ↔
      (Alike u v ∧ Alike (larger u v) w) ∧ larger (larger u v) w = x := by
    simp [maxValue_eq_ok_iff, and_assoc]
  have hright : (∃ m, maxValue f v w = .ok m ∧ maxValue f u m = .ok x) ↔
      (Alike v w ∧ Alike u (larger v w)) ∧ larger u (larger v w) = x := by
    simp [maxValue_eq_ok_iff, and_assoc]
  rw [hleft, hright]
  by_cases hu0 : u = .null
  · simp [hu0, alike_null_left, larger_null_left]
  by_cases hv0 : v = .null
  · simp [hv0, alike_null_left, alike_null_right, larger_null_left, larger_null_right]
  by_cases hw0 : w = .null
  · simp [hw0, alike_null_right, larger_null_right]
  have halike : Alike u v ∧ Alike (larger u v) w ↔ Alike u v ∧ Alike v w :=
    and_congr_right (alike_larger_left hu hv hw hu0 hv0)
  have halike' : Alike v w ∧ Alike u (larger v w) ↔ Alike u v ∧ Alike v w :=
    (and_congr_right (alike_larger_right hu hv hw hv0 hw0)).trans and_comm
  rw [halike, halike']
  exact and_congr_right fun ⟨huv, hvw⟩ => by rw [larger_assoc hu hv hw huv hvw]

/-! ## A field that is named more than once -/

theorem larger_larger (u v : Value) : larger u (larger u v) = larger u v := by
  by_cases h : Above u v
  · rw [larger_of_above h, larger, ite_self]
  · rw [larger_of_not_above h, larger_of_not_above h]

/-- A value can be compared with a maximum that it takes part in if it can be with itself. -/
theorem alike_larger (h : Alike u v) : Alike u (larger u v) ↔ Alike u u := by
  by_cases habove : Above u v
  · rw [larger_of_above habove]
  rw [larger_of_not_above habove]
  refine iff_of_true h ?_
  by_cases hu : u = .null
  · exact hu ▸ alike_null_left _
  have hv : v ≠ .null := fun hv => habove (hv ▸ above_null hu)
  cases sameKind_of_alike h hu hv <;> rfl

/-- Taking the larger value again changes nothing, but fails for arrays and objects, which do not
compare with themselves. -/
theorem repeated_maxValue (k : Nat) : repeated (maxValue f) u (k + 1) v = .ok w ↔
    maxValue f u v = .ok w ∧ (k = 0 ∨ Alike u u) := by
  induction k generalizing v with
  | zero =>
    rw [repeated, bind_eq_ok_iff]
    simp [repeated]
  | succ k ih =>
    rw [repeated, bind_eq_ok_iff]
    simp only [ih, maxValue_eq_ok_iff]
    constructor
    · rintro ⟨_, ⟨huv, rfl⟩, ⟨hself, hw⟩, -⟩
      rw [larger_larger] at hw
      exact ⟨⟨huv, hw⟩, .inr ((alike_larger huv).mp hself)⟩
    · rintro ⟨⟨huv, hw⟩, hself⟩
      replace hself := hself.resolve_left k.succ_ne_zero
      exact ⟨_, ⟨huv, rfl⟩, ⟨(alike_larger huv).mpr hself, (larger_larger u v).trans hw⟩,
        .inr hself⟩

/-- More than one comparison comes to the same as one. -/
theorem repeated_maxValue_of_alike (huu : Alike u u) (huv : Alike u v) (k : Nat) :
    repeated (maxValue f) u (k + 1) v = .ok (larger u v) :=
  (repeated_maxValue k).mpr ⟨maxValue_eq_ok_iff.mpr ⟨huv, rfl⟩, .inr huu⟩

theorem alike_larger_self (h : Alike u v) (hu : Alike u u) :
    Alike (larger u v) (larger u v) ↔ Alike v v := by
  by_cases habove : Above u v
  · rw [larger_of_above habove]
    refine iff_of_true hu ?_
    by_cases hv : v = .null
    · exact hv ▸ alike_null_left _
    have hu : u ≠ .null := fun hu => not_above_null v (hu ▸ habove)
    cases sameKind_of_alike h hu hv <;> rfl
  · rw [larger_of_not_above habove]

/-- A field that is compared any number of times is merged associatively. -/
theorem repeated_maxValue_assoc (hu : u.InRange) (hv : v.InRange) (hw : w.InRange) (x : Value)
    (k : Nat) :
    (∃ m, repeated (maxValue f) u k v = .ok m ∧ repeated (maxValue f) m k w = .ok x) ↔
      ∃ m, repeated (maxValue f) v k w = .ok m ∧ repeated (maxValue f) u k m = .ok x := by
  cases k with
  | zero => simp [repeated]
  | succ k =>
    simp only [repeated_maxValue]
    obtain rfl | hk := k.eq_zero_or_pos
    · simpa using maxValue_assoc hu hv hw x
    have hk : ¬k = 0 := by omega
    simp only [hk, false_or]
    -- each of the three compares with itself on both sides
    constructor
    · rintro ⟨m, ⟨hm, huu⟩, hx, hmm⟩
      obtain ⟨n, hn, hx'⟩ := (maxValue_assoc hu hv hw x).mp ⟨m, hm, hx⟩
      obtain ⟨huv, rfl⟩ := maxValue_eq_ok_iff.mp hm
      exact ⟨n, ⟨hn, (alike_larger_self huv huu).mp hmm⟩, hx', huu⟩
    · rintro ⟨n, ⟨hn, hvv⟩, hx, huu⟩
      obtain ⟨m, hm, hx'⟩ := (maxValue_assoc hu hv hw x).mpr ⟨n, hn, hx⟩
      obtain ⟨huv, rfl⟩ := maxValue_eq_ok_iff.mp hm
      exact ⟨_, ⟨hm, huu⟩, hx', (alike_larger_self huv huu).mpr hvv⟩

/-! ## What some values leave -/

/-- `v` is the last of some values that no other is above. -/
def LastGreatest (vs : List Value) (v : Value) : Prop :=
  ∃ before after, vs = before ++ v :: after ∧ (∀ u ∈ before, ¬Above u v) ∧ ∀ u ∈ after, Above v u

theorem LastGreatest.single (v : Value) : LastGreatest [v] v := ⟨[], [], rfl, by simp, by simp⟩

/-- **One more value.** -/
theorem LastGreatest.snoc {vs : List Value} (h : LastGreatest vs v)
    (hrange : ∀ u ∈ vs ++ [w], u.InRange) (halike : ∀ u ∈ vs ++ [w], ∀ u' ∈ vs ++ [w], Alike u u') :
    LastGreatest (vs ++ [w]) (larger v w) := by
  obtain ⟨before, after, rfl, hbefore, hafter⟩ := h
  have hv : v ∈ before ++ v :: after ++ [w] := by simp
  have hw : w ∈ before ++ v :: after ++ [w] := by simp
  by_cases habove : Above v w
  · rw [larger_of_above habove]
    exact ⟨before, after ++ [w], by simp, hbefore,
      List.forall_mem_append.mpr ⟨hafter, by simpa using habove⟩⟩
  rw [larger_of_not_above habove]
  refine ⟨before ++ v :: after, [], rfl, fun u hu => ?_, by simp⟩
  have hu' := List.mem_append_left [w] hu
  obtain hu | rfl | hu : u ∈ before ∨ u = v ∨ u ∈ after := by simpa using hu
  · exact not_above_trans (hrange u hu') (hrange v hv) (hrange w hw) (halike u hu' v hv)
      (halike v hv w hw) (hbefore u hu) habove
  · exact habove
  · exact fun hup => habove ((hafter u hu).trans (hrange v hv) (hrange u hu') (hrange w hw) hup)

end FieldAggregation

end Ingest
