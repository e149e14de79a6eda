/-!
# OrderedMap — finite maps with one written form

An `OrderedMap κ α` holds its entries in strictly ascending key order, so a map has exactly one
list of entries. Main statements:

* `get?_insert`, `get?_erase` — what each operation does to a look-up.
* `ext_get?` — two maps that answer every look-up alike are equal.
-/

namespace Ingest

open Std

universe u v w

/-- A finite map from `κ` to `α`, listed in strictly ascending key order. -/
structure OrderedMap (κ : Type u) (α : Type v) [Ord κ] where
  /-- The entries, least key first. -/
  entries : List (κ × α)
  /-- Keys ascend strictly, so no key occurs twice. -/
  ascending : entries.Pairwise fun a b => compare a.1 b.1 = .lt

namespace OrderedMap

section Entries

variable {κ : Type u} {α : Type v} [Ord κ]

/-- The entries after `k` was bound to `x`. -/
def insertEntry (k : κ) (x : α) : List (κ × α) → List (κ × α)
  | [] => [(k, x)]
  | (j, y) :: rest =>
    match compare k j with
    | .lt => (k, x) :: (j, y) :: rest
    | .eq => (k, x) :: rest
    | .gt => (j, y) :: insertEntry k x rest

/-- The first value bound to `k`. -/
def findEntry (k : κ) : List (κ × α) → Option α
  | [] => none
  | (j, y) :: rest => if compare k j = .eq then some y else findEntry k rest

theorem mem_insertEntry {k : κ} {x : α} {e : κ × α} {l : List (κ × α)}
    (h : e ∈ insertEntry k x l) : e = (k, x) ∨ e ∈ l := by
  induction l with
  | nil => simpa [insertEntry] using h
  | cons hd tl ih =>
    obtain ⟨j, y⟩ := hd
    unfold insertEntry at h
    split at h <;> simp only [List.mem_cons] at h ⊢ <;> grind

end Entries

variable {κ : Type u} {α : Type v} [Ord κ] [TransOrd κ] [LawfulEqOrd κ]

theorem pairwise_insertEntry (k : κ) (x : α) {l : List (κ × α)}
    (h : l.Pairwise fun a b => compare a.1 b.1 = .lt) :
    (insertEntry k x l).Pairwise fun a b => compare a.1 b.1 = .lt := by
  induction l with
  | nil => simp [insertEntry]
  | cons hd tl ih =>
    obtain ⟨j, y⟩ := hd
    rw [List.pairwise_cons] at h
    unfold insertEntry
    split
    · rename_i hlt
      refine List.pairwise_cons.2 ⟨fun e he => ?_, List.pairwise_cons.2 h⟩
      rcases List.mem_cons.1 he with rfl | he
      · exact hlt
      · exact TransCmp.lt_trans hlt (h.1 e he)
    · rename_i heq
      obtain rfl := LawfulEqCmp.eq_of_compare heq
      exact List.pairwise_cons.2 h
    · rename_i hgt
      refine List.pairwise_cons.2 ⟨fun e he => ?_, ih h.2⟩
      rcases mem_insertEntry he with rfl | he
      · exact OrientedCmp.gt_iff_lt.1 hgt
      · exact h.1 e he

/-- The map with no entry. -/
def empty : OrderedMap κ α := ⟨[], List.Pairwise.nil⟩

instance : EmptyCollection (OrderedMap κ α) := ⟨empty⟩

instance : Inhabited (OrderedMap κ α) := ⟨empty⟩

/-- The value bound to `k`, if there is one. -/
def get? (m : OrderedMap κ α) (k : κ) : Option α := findEntry k m.entries

/-- The map with `k` bound to `x`, whatever it was bound to before. -/
def insert (m : OrderedMap κ α) (k : κ) (x : α) : OrderedMap κ α :=
  ⟨insertEntry k x m.entries, pairwise_insertEntry k x m.ascending⟩

/-- The map without a binding of `k`. -/
def erase (m : OrderedMap κ α) (k : κ) : OrderedMap κ α :=
  ⟨m.entries.filter fun e => compare k e.1 != .eq, m.ascending.filter _⟩

/-- The keys, ascending. -/
def keys (m : OrderedMap κ α) : List κ := m.entries.map (·.1)

/-- The values, in the order of their keys. -/
def values (m : OrderedMap κ α) : List α := m.entries.map (·.2)

/-- The map of a list of bindings; the last binding of a key wins. -/
def ofList (l : List (κ × α)) : OrderedMap κ α :=
  l.foldl (fun m e => m.insert e.1 e.2) empty

/-! ## Look-ups -/

omit [TransOrd κ] in
theorem findEntry_insertEntry [DecidableEq κ] (k j : κ) (x : α) (l : List (κ × α)) :
    findEntry j (insertEntry k x l) = if j = k then some x else findEntry j l := by
  induction l with
  | nil => simp [insertEntry, findEntry]
  | cons hd tl ih =>
    obtain ⟨i, y⟩ := hd
    unfold insertEntry
    split
    · simp [findEntry]
    · rename_i heq
      obtain rfl := LawfulEqCmp.eq_of_compare heq
      simp only [findEntry, Std.compare_eq_iff_eq]
      split <;> rfl
    · rename_i hgt
      simp only [findEntry, Std.compare_eq_iff_eq, ih]
      by_cases hji : j = i
      · subst hji
        have hne : j ≠ k := by
          rintro rfl
          exact absurd (Std.compare_eq_iff_eq.2 rfl) (by rw [hgt]; decide)
        simp [hne]
      · simp [hji]

omit [TransOrd κ] in
theorem findEntry_filter [DecidableEq κ] (k j : κ) (l : List (κ × α)) :
    findEntry j (l.filter fun e => compare k e.1 != .eq) =
      if j = k then none else findEntry j l := by
  induction l with
  | nil => simp [findEntry]
  | cons hd tl ih =>
    obtain ⟨i, y⟩ := hd
    by_cases hki : k = i
    · subst hki
      simp only [List.filter_cons, ReflCmp.compare_self, bne_self_eq_false, Bool.false_eq_true,
        ↓reduceIte, ih, findEntry, Std.compare_eq_iff_eq]
      split <;> simp_all
    · have : (compare k i != .eq) = true := by simp [hki]
      simp only [List.filter_cons, this, ↓reduceIte, findEntry, Std.compare_eq_iff_eq, ih]
      by_cases hji : j = i
      · subst hji
        simp [Ne.symm hki]
      · simp [hji]

omit [TransOrd κ] [LawfulEqOrd κ] in
@[simp] theorem get?_empty (k : κ) : (empty : OrderedMap κ α).get? k = none := rfl

theorem get?_insert [DecidableEq κ] (m : OrderedMap κ α) (k j : κ) (x : α) :
    (m.insert k x).get? j = if j = k then some x else m.get? j :=
  findEntry_insertEntry k j x m.entries

omit [TransOrd κ] in
theorem get?_erase [DecidableEq κ] (m : OrderedMap κ α) (k j : κ) :
    (m.erase k).get? j = if j = k then none else m.get? j :=
  findEntry_filter k j m.entries

omit [TransOrd κ] in
theorem findEntry_eq_some_iff {k : κ} {x : α} {l : List (κ × α)}
    (h : l.Pairwise fun a b => compare a.1 b.1 = .lt) :
    findEntry k l = some x ↔ (k, x) ∈ l := by
  induction l with
  | nil => simp [findEntry]
  | cons hd tl ih =>
    obtain ⟨j, y⟩ := hd
    rw [List.pairwise_cons] at h
    simp only [findEntry, Std.compare_eq_iff_eq, List.mem_cons, Prod.mk.injEq]
    by_cases hkj : k = j
    · subst hkj
      have hnot : (k, x) ∉ tl := fun hmem => by
        have := h.1 _ hmem
        exact absurd (Std.compare_eq_iff_eq.2 (rfl : k = k)) (by rw [this]; decide)
      rw [if_pos (Std.compare_eq_iff_eq.2 rfl)]
      simp only [Option.some.injEq, true_and, hnot, or_false]
      exact eq_comm
    · simp [hkj, ih h.2]

omit [TransOrd κ] in
/-- A look-up answers `x` exactly when the entry is listed. -/
theorem get?_eq_some_iff {m : OrderedMap κ α} {k : κ} {x : α} :
    m.get? k = some x ↔ (k, x) ∈ m.entries :=
  findEntry_eq_some_iff m.ascending

theorem entries_eq_of_findEntry {l₁ l₂ : List (κ × α)}
    (h₁ : l₁.Pairwise fun a b => compare a.1 b.1 = .lt)
    (h₂ : l₂.Pairwise fun a b => compare a.1 b.1 = .lt)
    (h : ∀ e, e ∈ l₁ ↔ e ∈ l₂) : l₁ = l₂ := by
  induction l₁ generalizing l₂ with
  | nil =>
    cases l₂ with
    | nil => rfl
    | cons e tl => exact absurd ((h e).2 (by simp)) (by simp)
  | cons a tl ih =>
    cases l₂ with
    | nil => exact absurd ((h a).1 (by simp)) (by simp)
    | cons b tl₂ =>
      rw [List.pairwise_cons] at h₁ h₂
      have irrefl : ∀ c : κ × α, compare c.1 c.1 ≠ .lt := fun c => by
        rw [Std.compare_eq_iff_eq.2 rfl]
        exact Ordering.noConfusion
      have hab : a = b := by
        rcases List.mem_cons.1 ((h a).1 (by simp)) with hab | ha
        · exact hab
        · rcases List.mem_cons.1 ((h b).2 (by simp)) with hba | hb
          · exact hba.symm
          · exact absurd (TransCmp.lt_trans (h₁.1 b hb) (h₂.1 a ha)) (irrefl a)
      subst hab
      refine congrArg _ (ih h₁.2 h₂.2 fun e => ⟨fun he => ?_, fun he => ?_⟩)
      · rcases List.mem_cons.1 ((h e).1 (List.mem_cons_of_mem _ he)) with rfl | he'
        · exact absurd (h₁.1 e he) (irrefl e)
        · exact he'
      · rcases List.mem_cons.1 ((h e).2 (List.mem_cons_of_mem _ he)) with rfl | he'
        · exact absurd (h₂.1 e he) (irrefl e)
        · exact he'

/-- **One written form**: maps that answer every look-up alike are equal. -/
theorem ext_get? {m n : OrderedMap κ α} (h : ∀ k, m.get? k = n.get? k) : m = n := by
  have key : m.entries = n.entries :=
    entries_eq_of_findEntry m.ascending n.ascending fun e => by
      rw [← get?_eq_some_iff (k := e.1) (x := e.2), ← get?_eq_some_iff (k := e.1) (x := e.2), h]
  cases m
  cases n
  cases key
  rfl

end OrderedMap

end Ingest
