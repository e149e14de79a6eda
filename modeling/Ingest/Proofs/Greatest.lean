import Ingest.Proofs.Aggregation.Maxima
import Ingest.Proofs.Aggregation.Runs

/-!
# Proofs/Greatest — whether a `max` field keeps the greatest integer

A `max` field never makes rows of integers and nulls fail to merge, and it ends as one of the
integers, but not always as the greatest: integers are compared after rounding, so beyond `2 ^ 53`
a smaller one takes the place of a greater one that came before (`max_greatest_iff`). Up to there
the greatest prevails (`prevails_of_natAbs_le`).
-/

namespace Ingest.FieldAggregation

variable {a : FieldAggregation} {f : String} {u v w : Value} {vs : List Value}

/-! ## The values of a `max` field -/

theorem mergeValues_max (hmax : f ∈ a.max) (hsum : f ∉ a.sum) (huu : Alike u u) (huv : Alike u v) :
    a.mergeValues f u v = .ok (larger u v) := by
  obtain ⟨k, hk⟩ := Nat.exists_eq_add_one_of_ne_zero (List.count_pos_iff.mpr hmax).ne'
  rw [mergeValues_eq_ok_iff, List.count_eq_zero.mpr hsum, hk]
  exact ⟨v, rfl, repeated_maxValue_of_alike huu huv k⟩

/-- **Values that compare merge**, and the last that no other is above is left. -/
theorem exists_foldValues_max (hmax : f ∈ a.max) (hsum : f ∉ a.sum)
    (hrange : ∀ v ∈ u :: vs, v.InRange) (halike : ∀ v ∈ u :: vs, ∀ w ∈ u :: vs, Alike v w) :
    ∃ w, a.foldValues f u vs = .ok w ∧ LastGreatest (u :: vs) w := by
  induction vs using List.reverseRecOn with
  | nil => exact ⟨u, rfl, .single u⟩
  | append_singleton vs v ih =>
    rw [← List.cons_append] at hrange halike ⊢
    obtain ⟨w, hw, hlast⟩ := ih (fun v hv => hrange v (List.mem_append_left _ hv))
      fun v hv w hw => halike v (List.mem_append_left _ hv) w (List.mem_append_left _ hw)
    have hmem : w ∈ u :: vs ++ [v] := by
      obtain ⟨before, after, heq, -, -⟩ := hlast
      simp [heq]
    have hmerge := mergeValues_max hmax hsum (halike w hmem w hmem) (halike w hmem v (by simp))
    exact ⟨_, foldValues_snoc_eq_ok_iff.mpr ⟨w, hw, hmerge⟩, hlast.snoc hrange halike⟩

/-! ## Integers -/

/-- No value is above the greatest integer. -/
theorem not_above_greatest {g : Int} (hv : v.IsCount) (hrange : v.InRange)
    (hg : (Value.ofInt g).InRange) (hle : ∀ n, v = .ofInt n → n ≤ g) : ¬Above v (.ofInt g) := by
  obtain rfl | ⟨n, rfl⟩ := hv
  · exact not_above_null _
  · exact not_above_ofInt hrange hg (hle n rfl)

/-- After one `g`, all integers are below it when they are rounded. -/
def Prevails (g : Int) (vs : List Value) : Prop :=
  ∃ before after, vs = before ++ .ofInt g :: after ∧
    ∀ n, .ofInt n ∈ after → Float.ofInt n < Float.ofInt g

/-- **The last of the greatest values is the greatest integer exactly if that prevails.** -/
theorem LastGreatest.eq_iff_prevails {g : Int} (h : LastGreatest vs v)
    (hints : ∀ v ∈ vs, v.IsCount ∧ v.InRange) (hg : IsGreatest {n | .ofInt n ∈ vs} g) :
    v = .ofInt g ↔ Prevails g vs := by
  obtain ⟨before, after, rfl, hbefore, hafter⟩ := h
  have hgrange := (hints _ hg.1).2
  constructor
  · rintro rfl
    refine ⟨before, after, rfl, fun n hn => (above_ofInt_iff hgrange ?_).mp (hafter _ hn)⟩
    exact (hints (.ofInt n) (by simp [hn])).2
  rintro ⟨before', after', hsplit, hbelow⟩
  have hv : v ∈ before ++ v :: after := by simp
  have hnot : ¬Above v (.ofInt g) := not_above_greatest (hints v hv).1 (hints v hv).2 hgrange
    fun n hn => hg.2 (hn ▸ hv)
  obtain ⟨mid, rfl, rfl⟩ | ⟨mid, rfl, hmid⟩ := append_eq_append_cons hsplit
  · have habove : Above (.ofInt g) v := by
      obtain rfl | ⟨n, rfl⟩ := (hints v hv).1
      · exact above_null nofun
      · exact (above_ofInt_iff hgrange (hints _ hv).2).mpr (hbelow n (by simp))
    exact absurd habove (hbefore _ (by simp))
  · cases mid with
    | nil => exact (List.cons.inj hmid).1
    | cons w mid =>
      obtain ⟨-, rfl⟩ := List.cons.inj hmid
      exact absurd (hafter _ (by simp)) hnot

/-- **Integers of 53 bits are told apart**, so the greatest of them prevails. -/
theorem prevails_of_natAbs_le {g : Int} (hg : IsGreatest {n | .ofInt n ∈ vs} g)
    (hsmall : ∀ n, .ofInt n ∈ vs → n.natAbs ≤ 2 ^ 53) : Prevails g vs := by
  have hmem : Value.ofInt g ∈ vs.reverse := List.mem_reverse.mpr hg.1
  obtain ⟨after, before, hvs, hlast⟩ := List.eq_append_cons_of_mem hmem
  obtain rfl : vs = before.reverse ++ .ofInt g :: after.reverse := by
    rw [← List.reverse_reverse vs, hvs]
    simp
  refine ⟨_, _, rfl, fun n hn => ?_⟩
  have hn' : .ofInt n ∈ before.reverse ++ .ofInt g :: after.reverse := by simp [hn]
  have hne : n ≠ g := fun h => hlast (h ▸ List.mem_reverse.mp hn)
  have hlt : n < g := lt_of_le_of_ne (hg.2 hn') hne
  exact Binary64.ofInt_lt_ofInt (hsmall n hn') (hsmall g hg.1) hlt

/-! ## Rows -/

/-- The configuration without a `max` field. -/
def withoutMax (a : FieldAggregation) (f : String) : FieldAggregation :=
  { a with max := a.max.filter (· ≠ f) }

theorem mergeValues_withoutMax_of_ne {g : String} (h : g ≠ f) :
    (a.withoutMax f).mergeValues g = a.mergeValues g := by
  funext u v
  rw [mergeValues, mergeValues, withoutMax, List.count_filter (by simpa using h)]

theorem mergeValues_withoutMax (hsum : f ∉ a.sum) : (a.withoutMax f).mergeValues f u v = .ok v := by
  rw [mergeValues_eq_ok_iff, withoutMax, List.count_eq_zero.mpr hsum,
    List.count_eq_zero.mpr (by simp)]
  exact ⟨v, rfl, rfl⟩

theorem exists_foldValues_withoutMax (hsum : f ∉ a.sum) :
    ∃ w, (a.withoutMax f).foldValues f u vs = .ok w := by
  induction vs generalizing u with
  | nil => exact ⟨u, rfl⟩
  | cons v vs ih =>
    rw [foldValues, List.foldlM_cons, mergeValues_withoutMax hsum]
    exact ih

variable {first x : Row} {rest : List Row} {g : Int}

/-- **A `max` field keeps the greatest integer exactly if that prevails**: if after one row with it
all integers are below it even when they are rounded. Whether the rows merge does not depend on the
field. -/
theorem max_greatest_iff (hmax : f ∈ a.max) (hsum : f ∉ a.sum)
    (hints : ∀ v ∈ (first :: rest).map (·.valueAt f), v.IsCount ∧ v.InRange)
    (hg : IsGreatest {n | .ofInt n ∈ (first :: rest).map (·.valueAt f)} g) :
    ((∃ x, a.fold first rest = .ok x) ↔ ∃ x, (a.withoutMax f).fold first rest = .ok x) ∧
      ∀ x, a.fold first rest = .ok x →
        (x.valueAt f = .ofInt g ↔ Prevails g ((first :: rest).map (·.valueAt f))) := by
  obtain ⟨v, hv, hlast⟩ := exists_foldValues_max hmax hsum (fun v hv => (hints v hv).2)
    fun v hv w hw => alike_of_isCount (hints v hv).1 (hints w hw).1
  constructor
  · rw [exists_fold_iff, exists_fold_iff]
    refine forall_congr' fun name => ?_
    by_cases hname : name = f
    · subst hname
      exact iff_of_true ⟨v, hv⟩ (exists_foldValues_withoutMax hsum)
    · simp only [foldValues, mergeValues_withoutMax_of_ne hname]
  · intro x hx
    obtain rfl := Except.ok.inj (hv.symm.trans (foldValues_of_fold hx f))
    exact hlast.eq_iff_prevails hints hg

/-- Rows with an identifier, of which the highest is kept. -/
def highest : FieldAggregation where
  groupBy := ["k"]
  max := ["id"]

/-- A row with an identifier. -/
def idRow (second : Int) (id : Value) : Row := ⟨.atSecond second, .ofList [("id", id)]⟩

/-- The last of four rows has the least identifier, and the one before it has the greatest. -/
theorem max_greatest_iff_ids :
    let first := idRow 1 (.ofInt (2 ^ 53))
    let rest := [idRow 2 .null, idRow 3 (.ofInt (2 ^ 53 + 1)), idRow 4 (.ofInt (-1))]
    let ids := (first :: rest).map (·.valueAt "id")
    (∀ v ∈ ids, v.IsCount ∧ v.InRange) ∧ IsGreatest {n | .ofInt n ∈ ids} (2 ^ 53 + 1) ∧
      ((∃ x, highest.fold first rest = .ok x) ↔
        ∃ x, (highest.withoutMax "id").fold first rest = .ok x) ∧
      ∀ x, highest.fold first rest = .ok x →
        (x.valueAt "id" = .ofInt (2 ^ 53 + 1) ↔ Prevails (2 ^ 53 + 1) ids) := by
  intro first rest ids
  have hids : ids = [.ofInt (2 ^ 53), .null, .ofInt (2 ^ 53 + 1), .ofInt (-1)] := rfl
  have hints : ∀ v ∈ ids, v.IsCount ∧ v.InRange := by
    simp [hids, Value.IsCount, Value.ofInt, Value.InRange, Number.InRange, Number.minInt64,
      Number.maxUInt64]
  have hg : IsGreatest {n | .ofInt n ∈ ids} (2 ^ 53 + 1) := by
    refine ⟨by simp [hids], fun n hn => ?_⟩
    obtain rfl | rfl | rfl : n = 2 ^ 53 ∨ n = 2 ^ 53 + 1 ∨ n = -1 := by
      simpa [hids, Value.ofInt] using hn
    all_goals decide
  exact ⟨hints, hg, max_greatest_iff (by decide) (by decide) hints hg⟩

/-- **Beyond 53 bits the greatest integer is lost**: the one below it rounds to the same number. -/
theorem greatest_lost_ids :
    let first := idRow 1 (.ofInt (2 ^ 53 + 1))
    let next := idRow 2 (.ofInt (2 ^ 53))
    IsGreatest {n | .ofInt n ∈ [first, next].map (·.valueAt "id")} (2 ^ 53 + 1) ∧
      ∃ x, highest.fold first [next] = .ok x ∧ x.valueAt "id" = .ofInt (2 ^ 53) := by
  intro first next
  have hids : [first, next].map (·.valueAt "id") = [.ofInt (2 ^ 53 + 1), .ofInt (2 ^ 53)] := rfl
  constructor
  · refine ⟨by simp [hids], fun n hn => ?_⟩
    obtain rfl | rfl : n = 2 ^ 53 + 1 ∨ n = 2 ^ 53 := by simpa [hids, Value.ofInt] using hn
    all_goals decide
  have hequal : compareFloats (Float.ofInt (2 ^ 53 + 1)) (Float.ofInt (2 ^ 53)) = .eq := by
    decide +kernel
  have hlarger : larger (first.valueAt "id") (next.valueAt "id") = .ofInt (2 ^ 53) :=
    larger_of_not_above fun habove =>
      absurd (hequal.symm.trans (Option.some_inj.mp habove)) (by decide)
  have hsame : maxValue "id" (first.valueAt "id") (next.valueAt "id") = .ok (.ofInt (2 ^ 53)) :=
    maxValue_eq_ok_iff.mpr ⟨rfl, hlarger⟩
  obtain ⟨x, hx⟩ : ∃ x, highest.merge first next = .ok x :=
    ⟨_, merge_eq_ok_iff_exists.mpr ⟨next, rfl, _, mergeFields_cons hsame [], rfl⟩⟩
  have hvalue := (mergeValues_of_merge hx "id").symm.trans
    (mergeValues_max (by decide) (by decide) rfl rfl)
  have hfold : highest.fold first ([] ++ [next]) = .ok x :=
    fold_snoc_eq_ok_iff.mpr ⟨first, rfl, hx⟩
  exact ⟨x, hfold, (Except.ok.inj hvalue).trans hlarger⟩

end Ingest.FieldAggregation
