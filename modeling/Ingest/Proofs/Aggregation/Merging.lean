import Ingest.Proofs.Aggregation.Held
import Ingest.Proofs.Value.Items
import Mathlib.Algebra.Order.BigOperators.Group.List
import Mathlib.Algebra.Order.Ring.Nat
import Mathlib.Algebra.Ring.Int.Defs
import Mathlib.Data.List.Perm.Subperm

/-!
# Proofs/Aggregation/Merging — merging rows by their fields

Null counts as nothing, so the integers of a summed field add up, as long as their absolute values
do not leave 64 bits (`sumValues_counts`). Every other field of a group has the value of one of its
rows, and so a group has the key of its rows. Main statement: `Aggregated.exists_merge` — one more
row.
-/

namespace Ingest

/-! ## Counts -/

namespace Value

/-- An integer, or null. -/
def IsCount (v : Value) : Prop := v = .null ∨ ∃ n, v = .ofInt n

/-- What a value adds to a sum; null counts as nothing. -/
def amount : Value → Int
  | .number (.int n) => n
  | _ => 0

end Value

theorem Row.valueAt_set (r : Row) (field f : String) (v : Value) :
    (r.set field v).valueAt f = if f = field then v else r.valueAt f := by
  rw [valueAt, get?, set, OrderedMap.get?_insert]
  split <;> rfl

namespace Number

theorem fitsInt64_of_natAbs_le {n : Int} (h : n.natAbs ≤ maxInt64) : fitsInt64 n = true := by
  have hlow : minInt64 ≤ n := by
    simp only [minInt64, maxInt64] at h ⊢
    omega
  have hhigh : n ≤ maxInt64 := le_trans (by omega) h
  simp [fitsInt64, hlow, hhigh]

end Number

namespace FieldAggregation

/-- **Counts add up** as long as they do not leave 64 bits. -/
theorem sumValues_counts {a b : Value} (ha : a.IsCount) (hb : b.IsCount)
    (hfits : (a.amount.natAbs + b.amount.natAbs : Nat) ≤ Number.maxInt64) (field : String) :
    ∃ v, sumValues field a b = .ok v ∧ v.IsCount ∧ v.amount = a.amount + b.amount ∧
      (v = .null ↔ a = .null ∧ b = .null) := by
  obtain rfl | ⟨m, rfl⟩ := ha
  · exact ⟨b, rfl, hb, (zero_add _).symm, by simp⟩
  obtain rfl | ⟨n, rfl⟩ := hb
  · exact ⟨_, rfl, .inr ⟨m, rfl⟩, (add_zero _).symm, by simp [Value.ofInt]⟩
  replace hfits : (m.natAbs + n.natAbs : Nat) ≤ Number.maxInt64 := hfits
  have hm := Number.fitsInt64_of_natAbs_le (n := m) (by omega)
  have hn := Number.fitsInt64_of_natAbs_le (n := n) (by omega)
  have hsum := Number.fitsInt64_of_natAbs_le (n := m + n) (by omega)
  refine ⟨.ofInt (m + n), ?_, .inr ⟨_, rfl⟩, rfl, by simp [Value.ofInt]⟩
  simp only [sumValues, Value.ofInt, Number.toInt64?, hm, hn, hsum, if_true]

/-- The maximum of two values that can be compared is one of them. -/
theorem exists_maxValue {a b : Value} (h : (compareValues? a b).isSome) (field : String) :
    ∃ v, maxValue field a b = .ok v ∧ (v = a ∨ v = b) := by
  obtain ⟨o, ho⟩ := Option.isSome_iff_exists.mp h
  rw [maxValue, ho]
  rcases o with _ | _ | _
  · exact ⟨b, rfl, .inr rfl⟩
  · exact ⟨b, rfl, .inr rfl⟩
  · exact ⟨a, rfl, .inl rfl⟩

/-! ## Setting fields -/

section Fields

variable {op : String → Value → Value → Except Error Value} {current merged r : Row}
  {fields : List String} {f : String}

theorem mergeFields_cons {field : String} {v : Value}
    (h : op field (current.valueAt field) (merged.valueAt field) = .ok v) (fields : List String) :
    mergeFields op current (field :: fields) merged
      = mergeFields op current fields (merged.set field v) := by
  rw [mergeFields, h]
  rfl

theorem exists_mergeFields_cons {field : String}
    (h : mergeFields op current (field :: fields) merged = .ok r) :
    ∃ v, op field (current.valueAt field) (merged.valueAt field) = .ok v ∧
      mergeFields op current fields (merged.set field v) = .ok r := by
  rw [mergeFields] at h
  rcases hop : op field (current.valueAt field) (merged.valueAt field) with e | v <;> rw [hop] at h
  · cases h
  · exact ⟨v, rfl, h⟩

/-- The other fields keep their values. -/
theorem valueAt_mergeFields (h : mergeFields op current fields merged = .ok r) (hf : f ∉ fields) :
    r.valueAt f = merged.valueAt f := by
  induction fields generalizing merged with
  | nil => exact Except.ok.inj h ▸ rfl
  | cons field fields ih =>
    obtain ⟨v, -, hrest⟩ := exists_mergeFields_cons h
    obtain ⟨hne, hf⟩ := not_or.mp (mt List.mem_cons.mpr hf)
    rw [ih hrest hf, Row.valueAt_set, if_neg hne]

/-- **What holds of the values of the fields**, and goes on to hold when one is set, holds in the
end, however often a field is named. -/
theorem exists_mergeFields {P : String → Value → Prop}
    (hop : ∀ f ∈ fields, ∀ v, P f v → ∃ v', op f (current.valueAt f) v = .ok v' ∧ P f v')
    (hmerged : ∀ f, P f (merged.valueAt f)) :
    ∃ r, mergeFields op current fields merged = .ok r ∧ ∀ f, P f (r.valueAt f) := by
  induction fields generalizing merged with
  | nil => exact ⟨merged, rfl, hmerged⟩
  | cons field fields ih =>
    obtain ⟨hfield, hfields⟩ := List.forall_mem_cons.mp hop
    obtain ⟨v, hv, hP⟩ := hfield _ (hmerged field)
    rw [mergeFields_cons hv]
    refine ih hfields fun f => ?_
    rw [Row.valueAt_set]
    split_ifs with hf
    · exact hf ▸ hP
    · exact hmerged f

/-- Fields that are named once are set once. -/
theorem exists_mergeFields_of_nodup {P : String → Value → Prop} (hnodup : fields.Nodup)
    (hop : ∀ f ∈ fields, ∃ v, op f (current.valueAt f) (merged.valueAt f) = .ok v ∧ P f v) :
    ∃ r, mergeFields op current fields merged = .ok r ∧ ∀ f ∈ fields, P f (r.valueAt f) := by
  induction fields generalizing merged with
  | nil => exact ⟨merged, rfl, by simp⟩
  | cons field fields ih =>
    obtain ⟨⟨v, hv, hP⟩, hfields⟩ := List.forall_mem_cons.mp hop
    obtain ⟨hnot, hnodup⟩ := List.nodup_cons.mp hnodup
    have hset : ∀ f ∈ fields, (merged.set field v).valueAt f = merged.valueAt f :=
      fun f hf => by rw [Row.valueAt_set, if_neg (ne_of_mem_of_not_mem hf hnot)]
    have hrest : ∀ f ∈ fields, ∃ v',
        op f (current.valueAt f) ((merged.set field v).valueAt f) = .ok v' ∧ P f v' :=
      fun f hf => hset f hf ▸ hfields f hf
    obtain ⟨r, hr, hvalues⟩ := ih hnodup hrest
    have hfield : r.valueAt field = v := by
      rw [valueAt_mergeFields hr hnot, Row.valueAt_set, if_pos rfl]
    rw [mergeFields_cons hv]
    exact ⟨r, hr, List.forall_mem_cons.mpr ⟨hfield ▸ hP, hvalues⟩⟩

end Fields

/-! ## Groups -/

/-- The summed fields are named once, and for nothing else. -/
structure Separate (a : FieldAggregation) : Prop where
  nodup : a.sum.Nodup
  not_max : ∀ f ∈ a.sum, f ∉ a.max
  not_groupBy : ∀ f ∈ a.sum, f ∉ a.groupBy

/-- Rows with counts in the summed fields, whose absolute values add up to no more than the greatest
64-bit integer, and with values in the `max` fields that compare. -/
structure Summable (a : FieldAggregation) (rows : List Row) : Prop where
  counts : ∀ f ∈ a.sum, ∀ r ∈ rows, (r.valueAt f).IsCount
  fits : ∀ f ∈ a.sum,
    ((rows.map fun r => (r.valueAt f).amount.natAbs).sum : Nat) ≤ Number.maxInt64
  compares : ∀ f ∈ a.max, ∀ r ∈ rows, ∀ r' ∈ rows,
    (compareValues? (r.valueAt f) (r'.valueAt f)).isSome

/-- `x` is a group of rows: in the summed fields it has the sum of their counts, in each other field
the value of one of them. -/
structure Aggregated (a : FieldAggregation) (members : List Row) (x : Row) : Prop where
  count : ∀ f ∈ a.sum, (x.valueAt f).IsCount
  amount : ∀ f ∈ a.sum, (x.valueAt f).amount = (members.map fun m => (m.valueAt f).amount).sum
  null_iff : ∀ f ∈ a.sum, x.valueAt f = .null ↔ ∀ m ∈ members, m.valueAt f = .null
  other : ∀ f, f ∉ a.sum → ∃ m ∈ members, x.valueAt f = m.valueAt f

variable {a : FieldAggregation} {rows members : List Row} {x r : Row} {k : String}

/-- A part of what can be added can be added. -/
theorem Summable.subperm (h : a.Summable rows) (hsub : members.Subperm rows) :
    a.Summable members where
  counts f hf r hr := h.counts f hf r (hsub.subset hr)
  fits f hf := by
    obtain ⟨l, hperm, hl⟩ := hsub
    have hle := (hl.map fun r => (r.valueAt f).amount.natAbs).sum_le_sum (by simp)
    rw [(hperm.map _).sum_eq] at hle
    exact le_trans (Int.ofNat_le.mpr hle) (h.fits f hf)
  compares f hf r hr r' hr' := h.compares f hf r (hsub.subset hr) r' (hsub.subset hr')

theorem natAbs_sum_le (l : List Int) : l.sum.natAbs ≤ (l.map Int.natAbs).sum := by
  induction l with
  | nil => exact le_rfl
  | cons n l ih =>
    rw [List.sum_cons, List.map_cons, List.sum_cons]
    exact (Int.natAbs_add_le _ _).trans (Nat.add_le_add_left ih _)

/-- One row is its own total. -/
theorem Aggregated.single (h : a.Summable [r]) : a.Aggregated [r] r where
  count f hf := h.counts f hf r (List.mem_singleton_self r)
  amount f hf := by simp
  null_iff f hf := by simp
  other f _ := ⟨r, List.mem_singleton_self r, rfl⟩

/-- The count of a group and that of one more row do not leave 64 bits. -/
theorem Aggregated.fits (h : a.Aggregated members x) (hs : a.Summable (members ++ [r])) {f : String}
    (hf : f ∈ a.sum) :
    ((x.valueAt f).amount.natAbs + (r.valueAt f).amount.natAbs : Nat) ≤ Number.maxInt64 := by
  have hle := natAbs_sum_le (members.map fun m => (m.valueAt f).amount)
  rw [← h.amount f hf, List.map_map] at hle
  have hfits := hs.fits f hf
  rw [List.map_append, List.sum_append, List.map_singleton, List.sum_singleton] at hfits
  exact le_trans (Int.ofNat_le.mpr (Nat.add_le_add_right hle _)) hfits

/-- The counts of a group and of one more row add up. -/
theorem Aggregated.exists_sumValues (h : a.Aggregated members x)
    (hs : a.Summable (members ++ [r])) :
    ∀ f ∈ a.sum, ∃ v, sumValues f (x.valueAt f) (r.valueAt f) = .ok v ∧ v.IsCount ∧
      v.amount = (x.valueAt f).amount + (r.valueAt f).amount ∧
      (v = .null ↔ x.valueAt f = .null ∧ r.valueAt f = .null) :=
  fun f hf => sumValues_counts (h.count f hf) (hs.counts f hf r (by simp)) (h.fits hs hf) f

/-- A `max` field of a group compares with its own value and with that of one more row; `merged` is
the row with its summed fields set. -/
theorem Aggregated.exists_maxValue (hsep : a.Separate) (h : a.Aggregated members x)
    (hs : a.Summable (members ++ [r])) {merged : Row}
    (hkept : ∀ f, f ∉ a.sum → merged.valueAt f = r.valueAt f) :
    ∀ f ∈ a.max, ∀ v, (v = merged.valueAt f ∨ f ∉ a.sum ∧ v = x.valueAt f) →
      ∃ v', maxValue f (x.valueAt f) v = .ok v' ∧
        (v' = merged.valueAt f ∨ f ∉ a.sum ∧ v' = x.valueAt f) := by
  intro f hf v hv
  have hnot : f ∉ a.sum := fun hsum => hsep.not_max f hsum hf
  obtain ⟨m, hm, hxm⟩ := h.other f hnot
  replace hm : m ∈ members ++ [r] := List.mem_append_left _ hm
  have hcompares : (compareValues? (x.valueAt f) v).isSome := by
    rcases hv with rfl | ⟨-, rfl⟩
    · rw [hkept f hnot, hxm]
      exact hs.compares f hf m hm r (by simp)
    · rw [hxm]
      exact hs.compares f hf m hm m hm
  obtain ⟨v', hv', rfl | rfl⟩ := FieldAggregation.exists_maxValue hcompares f
  · exact ⟨_, hv', .inr ⟨hnot, rfl⟩⟩
  · exact ⟨_, hv', hv⟩

/-- **One more row** merges with a group. -/
theorem Aggregated.exists_merge (hsep : a.Separate) (h : a.Aggregated members x)
    (hs : a.Summable (members ++ [r])) :
    ∃ y, a.merge x r = .ok y ∧ a.Aggregated (members ++ [r]) y := by
  have hr : r ∈ members ++ [r] := by simp
  have hleft : ∀ {m}, m ∈ members → m ∈ members ++ [r] := fun hm => List.mem_append_left _ hm
  obtain ⟨r₁, hr₁, hsummed⟩ := exists_mergeFields_of_nodup hsep.nodup (h.exists_sumValues hs)
  have hkept : ∀ f, f ∉ a.sum → r₁.valueAt f = r.valueAt f := fun f => valueAt_mergeFields hr₁
  -- a field of `max` ends up with the value of the group or with that of the row
  obtain ⟨r₂, hr₂, hvalues⟩ :=
    exists_mergeFields (h.exists_maxValue hsep hs hkept) fun f => Or.inl rfl
  have hsum : ∀ f ∈ a.sum, r₂.valueAt f = r₁.valueAt f := fun f hf =>
    (hvalues f).resolve_right fun hnot => hnot.1 hf
  refine ⟨{ r₂ with timestamp := Max.max r₂.timestamp x.timestamp }, ?_, ?_, ?_, ?_, ?_⟩
  · simp only [merge, hr₁, hr₂, bind, Except.bind]
    rfl
  all_goals intro f hf
  · exact hsum f hf ▸ (hsummed f hf).1
  · rw [List.map_append, List.sum_append, ← h.amount f hf, List.map_singleton, List.sum_singleton]
    exact hsum f hf ▸ (hsummed f hf).2.1
  · rw [List.forall_mem_append, ← h.null_iff f hf, List.forall_mem_singleton]
    exact hsum f hf ▸ (hsummed f hf).2.2
  · rcases hvalues f with hv | ⟨-, hv⟩
    · exact ⟨r, hr, hv.trans (hkept f hf)⟩
    · obtain ⟨m, hm, hxm⟩ := h.other f hf
      exact ⟨m, hleft hm, hv.trans hxm⟩

/-! ## Keys -/

theorem key_eq_iff (a : FieldAggregation) (r r' : Row) :
    a.key r = a.key r' ↔ ∀ f ∈ a.groupBy, (r.valueAt f).chars = (r'.valueAt f).chars := by
  have hlength : (r.project a.groupBy).length = (r'.project a.groupBy).length := by
    simp [Row.project]
  rw [key, key, Value.text, Value.text, String.ofList_inj, Value.chars, Value.chars,
    List.cons.injEq, eq_self, true_and, List.append_left_inj, Value.itemsChars_eq_iff hlength,
    Row.project, Row.project, List.map_map, List.map_map, List.map_inj_left]
  rfl

/-- **A group has the key of its rows.** -/
theorem Aggregated.key_eq (hsep : a.Separate) (h : a.Aggregated members x) (hr : r ∈ members)
    (hkey : ∀ m ∈ members, a.key m = k) : a.key x = k := by
  rw [← hkey r hr, key_eq_iff]
  intro f hf
  obtain ⟨m, hm, hxm⟩ := h.other f fun hsum => hsep.not_groupBy f hsum hf
  rw [hxm]
  exact (key_eq_iff a m r).mp ((hkey m hm).trans (hkey r hr).symm) f hf

theorem merge_of_toGroupBy {y : Row} (h : a.toGroupBy.merge x r = .ok y) : a.merge x r = .ok y := by
  simp only [toGroupBy] at h
  rcases hm : a.merge x r with e | z <;> rw [hm] at h
  · cases h
  · exact congrArg _ (Except.ok.inj h)

/-- **What a stage makes of rows is a group of them**, with their key. -/
theorem aggregated_of_makes (hsep : a.Separate) (h : a.toGroupBy.Makes k members x)
    (hs : a.Summable members) :
    a.Aggregated members x ∧ members ≠ [] ∧ ∀ m ∈ members, a.key m = k := by
  induction h with
  | @single r hk => exact ⟨.single hs, by simp, by simpa using Except.ok.inj hk⟩
  | @snoc members x r y _ hk hm ih =>
    obtain ⟨hx, -, hkey⟩ := ih (hs.subperm (List.sublist_append_left _ _).subperm)
    obtain ⟨y', hy', hagg⟩ := hx.exists_merge hsep hs
    obtain rfl := Except.ok.inj ((merge_of_toGroupBy hm).symm.trans hy')
    refine ⟨hagg, by simp, List.forall_mem_append.mpr ⟨hkey, ?_⟩⟩
    simpa using Except.ok.inj hk

end FieldAggregation

end Ingest
