import Ingest.Proofs.Aggregation.Merging
import Mathlib.Data.List.Induction

/-!
# Proofs/Aggregation/FieldWise — merging is field by field

Two rows merge exactly if their values merge at every field, and the merged row then has the merged
values (`merge_eq_ok_iff`, `exists_merge_iff`). At a field, the sums come first and the maxima
after, each as often as the configuration names the field (`mergeValues`): the row in between is
shared by all fields, yet no field sees another one. So rows merge associatively if their values do
(`merge_assoc_of_values`).
-/

namespace Ingest

theorem bind_eq_ok_iff {ε α β : Type} {m : Except ε α} {k : α → Except ε β} {b : β} :
    m >>= k = .ok b ↔ ∃ x, m = .ok x ∧ k x = .ok b := by
  cases m with
  | error e => exact ⟨nofun, fun ⟨_, h, _⟩ => nomatch h⟩
  | ok x => exact ⟨fun h => ⟨x, rfl, h⟩, fun ⟨_, h, hk⟩ => Except.ok.inj h ▸ hk⟩

/-- What is found after a field was set. -/
theorem Row.get?_set (r : Row) (field f : String) (v : Value) :
    (r.set field v).get? f = if f = field then some v else r.get? f := by
  rw [get?, set, OrderedMap.get?_insert]
  split <;> rfl

namespace FieldAggregation

/-! ## Setting one field several times -/

/-- `op`, applied so often with the same first value. -/
def repeated (op : Value → Value → Except Error Value) (u : Value) :
    Nat → Value → Except Error Value
  | 0, v => .ok v
  | k + 1, v => op u v >>= repeated op u k

section Fields

variable {op : String → Value → Value → Except Error Value} {current merged r : Row}
  {fields : List String} {f : String}

theorem repeated_succ_of_ok {g : Value → Value → Except Error Value} {u v w : Value}
    (h : g u v = .ok w) (k : Nat) : repeated g u (k + 1) v = repeated g u k w := by
  rw [repeated, h]
  rfl

/-- **A field is set as often as it is named.** -/
theorem repeated_of_mergeFields (h : mergeFields op current fields merged = .ok r) (f : String) :
    repeated (op f) (current.valueAt f) (fields.count f) (merged.valueAt f) =
      .ok (r.valueAt f) := by
  induction fields generalizing merged with
  | nil => exact Except.ok.inj h ▸ rfl
  | cons field fields ih =>
    obtain ⟨v, hv, hrest⟩ := exists_mergeFields_cons h
    have hset := ih hrest
    rw [Row.valueAt_set] at hset
    by_cases hf : f = field
    · subst hf
      rw [if_pos rfl] at hset
      rw [List.count_cons_self, repeated_succ_of_ok hv, hset]
    · rw [if_neg hf] at hset
      rwa [List.count_cons_of_ne (Ne.symm hf)]

theorem exists_mergeFields_of_repeated (h : ∀ f ∈ fields, ∃ v,
    repeated (op f) (current.valueAt f) (fields.count f) (merged.valueAt f) = .ok v) :
    ∃ r, mergeFields op current fields merged = .ok r := by
  induction fields generalizing merged with
  | nil => exact ⟨merged, rfl⟩
  | cons field fields ih =>
    obtain ⟨w, hw⟩ := h field (List.mem_cons_self ..)
    rw [List.count_cons_self] at hw
    obtain ⟨v, hv, hleft⟩ := bind_eq_ok_iff.mp hw
    rw [mergeFields_cons hv]
    refine ih fun f hf => ?_
    rw [Row.valueAt_set]
    by_cases hfield : f = field
    · subst hfield
      rw [if_pos rfl]
      exact ⟨w, hleft⟩
    · rw [if_neg hfield, ← List.count_cons_of_ne (Ne.symm hfield)]
      exact h f (List.mem_cons_of_mem _ hf)

/-- The fields that are set are there; the others are as they were. -/
theorem get?_mergeFields (h : mergeFields op current fields merged = .ok r) (f : String) :
    r.get? f = if f ∈ fields then some (r.valueAt f) else merged.get? f := by
  induction fields generalizing merged with
  | nil => exact Except.ok.inj h ▸ rfl
  | cons field fields ih =>
    obtain ⟨v, -, hrest⟩ := exists_mergeFields_cons h
    have hset := ih hrest
    rw [Row.get?_set] at hset
    by_cases hf : f ∈ fields
    · rw [if_pos hf] at hset
      rw [if_pos (List.mem_cons_of_mem field hf), hset]
    · rw [if_neg hf] at hset
      by_cases hfield : f = field
      · rw [if_pos hfield] at hset
        rw [if_pos (hfield ▸ List.mem_cons_self ..), Row.valueAt, hset]
        rfl
      · rw [if_neg hfield] at hset
        rw [if_neg (by simp [hfield, hf]), hset]

end Fields

/-! ## Merging the values of a field -/

/-- How the values of a field merge. -/
def mergeValues (a : FieldAggregation) (f : String) (u v : Value) : Except Error Value :=
  repeated (sumValues f) u (a.sum.count f) v >>= repeated (maxValue f) u (a.max.count f)

variable {a : FieldAggregation} {m x y z : Row} {f : String}

theorem mergeValues_eq_ok_iff {u v w : Value} : a.mergeValues f u v = .ok w ↔
    ∃ v', repeated (sumValues f) u (a.sum.count f) v = .ok v' ∧
      repeated (maxValue f) u (a.max.count f) v' = .ok w :=
  bind_eq_ok_iff

/-- A merge is its sums, then its maxima, then the later timestamp. -/
theorem merge_eq_ok_iff_exists : a.merge x y = .ok z ↔
    ∃ s, mergeFields sumValues x a.sum y = .ok s ∧ ∃ m, mergeFields maxValue x a.max s = .ok m ∧
      { m with timestamp := Max.max m.timestamp x.timestamp } = z := by
  rw [merge, bind_eq_ok_iff]
  simp only [bind_eq_ok_iff, pure, Except.pure, Except.ok.injEq]

theorem mergeValues_of_merge (h : a.merge x y = .ok z) (f : String) :
    a.mergeValues f (x.valueAt f) (y.valueAt f) = .ok (z.valueAt f) := by
  obtain ⟨s, hs, m, hm, rfl⟩ := merge_eq_ok_iff_exists.mp h
  exact mergeValues_eq_ok_iff.mpr
    ⟨s.valueAt f, repeated_of_mergeFields hs f, repeated_of_mergeFields hm f⟩

/-- **Two rows merge exactly if their values do.** -/
theorem exists_merge_iff :
    (∃ z, a.merge x y = .ok z) ↔ ∀ f, ∃ v, a.mergeValues f (x.valueAt f) (y.valueAt f) = .ok v := by
  refine ⟨fun ⟨z, h⟩ f => ⟨_, mergeValues_of_merge h f⟩, fun h => ?_⟩
  simp only [mergeValues_eq_ok_iff] at h
  obtain ⟨s, hs⟩ : ∃ s, mergeFields sumValues x a.sum y = .ok s :=
    exists_mergeFields_of_repeated fun f _ =>
      have ⟨_, v', hv', _⟩ := h f
      ⟨v', hv'⟩
  obtain ⟨m, hm⟩ : ∃ m, mergeFields maxValue x a.max s = .ok m := by
    refine exists_mergeFields_of_repeated fun f _ => ?_
    obtain ⟨v, v', hv', hv⟩ := h f
    obtain rfl := Except.ok.inj ((repeated_of_mergeFields hs f).symm.trans hv')
    exact ⟨v, hv⟩
  exact ⟨_, merge_eq_ok_iff_exists.mpr ⟨s, hs, m, hm, rfl⟩⟩

/-- The fields that the configuration names are there; the others are those of the later row. -/
theorem get?_merge (h : a.merge x y = .ok z) (f : String) :
    z.get? f = if f ∈ a.sum ∨ f ∈ a.max then some (z.valueAt f) else y.get? f := by
  obtain ⟨s, hs, m, hm, rfl⟩ := merge_eq_ok_iff_exists.mp h
  change m.get? f = if f ∈ a.sum ∨ f ∈ a.max then some (m.valueAt f) else y.get? f
  have hmax := get?_mergeFields hm f
  by_cases hf : f ∈ a.max
  · rw [if_pos (.inr hf), hmax, if_pos hf]
  · rw [if_neg hf] at hmax
    have hsum := get?_mergeFields hs f
    rw [Row.valueAt, hmax, hsum]
    by_cases hf' : f ∈ a.sum <;> simp [hf, hf']

theorem timestamp_merge (h : a.merge x y = .ok z) :
    z.timestamp = Max.max y.timestamp x.timestamp := by
  obtain ⟨s, hs, m, hm, rfl⟩ := merge_eq_ok_iff_exists.mp h
  change Max.max m.timestamp x.timestamp = _
  rw [mergeFields_timestamp hm, mergeFields_timestamp hs]

/-- **The merged row has the merged values**, in the fields of the later row and those that the
configuration names. -/
theorem merge_eq_ok_iff :
    a.merge x y = .ok z ↔ z.timestamp = Max.max y.timestamp x.timestamp ∧
      (∀ f, z.get? f = if f ∈ a.sum ∨ f ∈ a.max then some (z.valueAt f) else y.get? f) ∧
      ∀ f, a.mergeValues f (x.valueAt f) (y.valueAt f) = .ok (z.valueAt f) := by
  refine ⟨fun h => ⟨timestamp_merge h, get?_merge h, mergeValues_of_merge h⟩,
    fun ⟨htime, hget, hvalues⟩ => ?_⟩
  obtain ⟨z', hz'⟩ := exists_merge_iff.mpr fun f => ⟨_, hvalues f⟩
  have hvalue : ∀ f, z'.valueAt f = z.valueAt f := fun f =>
    Except.ok.inj ((mergeValues_of_merge hz' f).symm.trans (hvalues f))
  have hfields : z'.fields = z.fields := by
    refine OrderedMap.ext_get? fun f => ?_
    change z'.get? f = z.get? f
    rw [get?_merge hz', hget, hvalue]
  have hrow : z' = z := by
    cases z'
    cases z
    exact congrArg₂ Row.mk ((timestamp_merge hz').trans htime.symm) hfields
  rwa [hrow] at hz'

theorem mergeValues_null_left (a : FieldAggregation) (f : String) (v : Value) :
    a.mergeValues f .null v = .ok v := by
  have hsum : ∀ k, repeated (sumValues f) .null k v = .ok v := fun k => by
    induction k with
    | zero => rfl
    | succ k ih => exact ih
  have hmax : ∀ k, repeated (maxValue f) .null k v = .ok v := fun k => by
    induction k with
    | zero => rfl
    | succ k ih => exact ih
  exact mergeValues_eq_ok_iff.mpr ⟨v, hsum _, hmax _⟩

/-! ## Two merges -/

variable {n r : Row}

theorem toOption_eq_some_iff {ε α : Type} {m : Except ε α} {x : α} :
    m.toOption = some x ↔ m = .ok x := by
  cases m <;> simp [Except.toOption]

theorem exists_merge_right (hm : a.merge x y = .ok m) (hr : a.merge m z = .ok r)
    (h : ∀ f, ∃ v, a.mergeValues f (y.valueAt f) (z.valueAt f) = .ok v ∧
      a.mergeValues f (x.valueAt f) v = .ok (r.valueAt f)) :
    ∃ n, a.merge y z = .ok n ∧ a.merge x n = .ok r := by
  obtain ⟨n, hn⟩ := exists_merge_iff.mpr fun f => (h f).imp fun _ => And.left
  refine ⟨n, hn, merge_eq_ok_iff.mpr ⟨?_, fun f => ?_, fun f => ?_⟩⟩
  · rw [timestamp_merge hr, timestamp_merge hm, timestamp_merge hn, max_assoc]
  · rw [get?_merge hr, get?_merge hn]
    split_ifs <;> rfl
  · obtain ⟨v, hv, hrow⟩ := h f
    rwa [← Except.ok.inj ((mergeValues_of_merge hn f).symm.trans hv)] at hrow

theorem exists_merge_left (hn : a.merge y z = .ok n) (hr : a.merge x n = .ok r)
    (h : ∀ f, ∃ v, a.mergeValues f (x.valueAt f) (y.valueAt f) = .ok v ∧
      a.mergeValues f v (z.valueAt f) = .ok (r.valueAt f)) :
    ∃ m, a.merge x y = .ok m ∧ a.merge m z = .ok r := by
  obtain ⟨m, hm⟩ := exists_merge_iff.mpr fun f => (h f).imp fun _ => And.left
  refine ⟨m, hm, merge_eq_ok_iff.mpr ⟨?_, fun f => ?_, fun f => ?_⟩⟩
  · rw [timestamp_merge hr, timestamp_merge hn, timestamp_merge hm, max_assoc]
  · rw [get?_merge hr, get?_merge hn]
    split_ifs <;> rfl
  · obtain ⟨v, hv, hrow⟩ := h f
    rwa [← Except.ok.inj ((mergeValues_of_merge hm f).symm.trans hv)] at hrow

/-- **Merging is associative on three rows if it is at every field.** -/
theorem merge_assoc_of_values (h : ∀ f w,
    (∃ v, a.mergeValues f (x.valueAt f) (y.valueAt f) = .ok v ∧
      a.mergeValues f v (z.valueAt f) = .ok w) ↔
    ∃ v, a.mergeValues f (y.valueAt f) (z.valueAt f) = .ok v ∧
      a.mergeValues f (x.valueAt f) v = .ok w) :
    (a.merge x y >>= fun m => a.merge m z).toOption = (a.merge y z >>= a.merge x).toOption := by
  refine Option.ext fun r => ?_
  rw [toOption_eq_some_iff, toOption_eq_some_iff, bind_eq_ok_iff, bind_eq_ok_iff]
  constructor
  · rintro ⟨m, hm, hr⟩
    exact exists_merge_right hm hr fun f => (h f _).mp
      ⟨_, mergeValues_of_merge hm f, mergeValues_of_merge hr f⟩
  · rintro ⟨n, hn, hr⟩
    exact exists_merge_left hn hr fun f => (h f _).mpr
      ⟨_, mergeValues_of_merge hn f, mergeValues_of_merge hr f⟩

/-! ## Merging many rows -/

/-- Rows of one group as one row, merged one after the other. -/
def fold (a : FieldAggregation) (first : Row) (rest : List Row) : Except Error Row :=
  rest.foldlM a.merge first

/-- The values of a field, merged one after the other. -/
def foldValues (a : FieldAggregation) (f : String) (first : Value) (rest : List Value) :
    Except Error Value :=
  rest.foldlM (a.mergeValues f) first

variable {first : Row} {rest : List Row} {u v w : Value} {vs : List Value}

theorem fold_snoc_eq_ok_iff : a.fold first (rest ++ [r]) = .ok x ↔
    ∃ m, a.fold first rest = .ok m ∧ a.merge m r = .ok x := by
  rw [fold, List.foldlM_append, bind_eq_ok_iff]
  simp [fold]

theorem foldValues_snoc_eq_ok_iff : a.foldValues f u (vs ++ [v]) = .ok w ↔
    ∃ m, a.foldValues f u vs = .ok m ∧ a.mergeValues f m v = .ok w := by
  rw [foldValues, List.foldlM_append, bind_eq_ok_iff]
  simp [foldValues]

/-- A field of merged rows is merged from the field of each. -/
theorem foldValues_of_fold (h : a.fold first rest = .ok x) (f : String) :
    a.foldValues f (first.valueAt f) (rest.map (·.valueAt f)) = .ok (x.valueAt f) := by
  induction rest using List.reverseRecOn generalizing x with
  | nil => exact Except.ok.inj h ▸ rfl
  | append_singleton rest r ih =>
    obtain ⟨m, hm, hx⟩ := fold_snoc_eq_ok_iff.mp h
    rw [List.map_append]
    exact foldValues_snoc_eq_ok_iff.mpr ⟨_, ih hm, mergeValues_of_merge hx f⟩

/-- **Many rows merge exactly if their values do.** -/
theorem exists_fold_iff : (∃ x, a.fold first rest = .ok x) ↔
    ∀ f, ∃ v, a.foldValues f (first.valueAt f) (rest.map (·.valueAt f)) = .ok v := by
  refine ⟨fun ⟨x, hx⟩ f => ⟨_, foldValues_of_fold hx f⟩, fun h => ?_⟩
  induction rest using List.reverseRecOn with
  | nil => exact ⟨first, rfl⟩
  | append_singleton rest r ih =>
    simp only [List.map_append, List.map_cons, List.map_nil, foldValues_snoc_eq_ok_iff] at h
    obtain ⟨m, hm⟩ := ih fun f =>
      have ⟨_, v, hv, _⟩ := h f
      ⟨v, hv⟩
    obtain ⟨x, hx⟩ : ∃ x, a.merge m r = .ok x := by
      refine exists_merge_iff.mpr fun f => ?_
      obtain ⟨w, v, hv, hw⟩ := h f
      obtain rfl := Except.ok.inj ((foldValues_of_fold hm f).symm.trans hv)
      exact ⟨w, hw⟩
    exact ⟨x, fold_snoc_eq_ok_iff.mpr ⟨m, hm, hx⟩⟩

end FieldAggregation

end Ingest
