import Ingest.Proofs.Aggregation.Course
import Mathlib.Data.List.Nodup

/-!
# Proofs/Aggregation/Recency — what one act does to a cache

Whatever is done to a cache, the entries whose keys are touched are gone, the others stay in their
order, and the entry that is made stands behind them (`entries_after`). The hook of a computation
gets the oldest entry of a full cache, and only if the key is new (`Sound.handed_compute`).
-/

namespace Ingest

namespace RecencyCache

variable {κ α ε : Type} [DecidableEq κ] {c : RecencyCache κ α} {k : κ} {x : α}

/-! ## Acts -/

/-- What can be done to a cache. -/
inductive Act (κ α ε : Type) where
  | compute (k : κ) (f : Option α → Except ε α)
  | evictAll

/-- The cache after an act. -/
def after (c : RecencyCache κ α) : Act κ α ε → RecencyCache κ α
  | .compute k f => (c.compute k f).2
  | .evictAll => c.evictAll.2

/-- The entries that an act hands out, in order. -/
def handed (c : RecencyCache κ α) : Act κ α ε → List (κ × α)
  | .compute k f =>
    match (c.compute k f).1 with
    | .ok evicted => evicted.toList
    | .error _ => []
  | .evictAll => c.evictAll.1

/-- The entry that an act makes. -/
def made (c : RecencyCache κ α) : Act κ α ε → Option (κ × α)
  | .compute k f => (f (c.get? k)).toOption.map (k, ·)
  | .evictAll => none

/-- The keys that an act computes or hands out. -/
def touched (c : RecencyCache κ α) (a : Act κ α ε) : List κ :=
  match a with
  | .compute k _ => k :: (c.handed a).map (·.1)
  | .evictAll => (c.handed a).map (·.1)

/-- A cache that holds at most one entry for a key, and no more entries than it may. -/
structure Sound (c : RecencyCache κ α) (capacity : Nat) : Prop extends c.Fits capacity where
  positive : 0 < capacity
  nodup : (c.entries.map (·.1)).Nodup

omit [DecidableEq κ] in
/-- An empty cache is sound. -/
theorem sound_ofCapacity {capacity : Nat} (h : 1 ≤ capacity) :
    (ofCapacity capacity : RecencyCache κ α).Sound capacity where
  capacity_eq := max_eq_left h
  length_le := Nat.zero_le _
  positive := h
  nodup := .nil

/-! ## Keys -/

omit [DecidableEq κ] in
/-- Of a key there is one entry. -/
theorem eq_of_key_eq (hnodup : (c.entries.map (·.1)).Nodup) {e e' : κ × α} (he : e ∈ c.entries)
    (he' : e' ∈ c.entries) (hkey : e.1 = e'.1) : e = e' :=
  List.inj_on_of_nodup_map hnodup he he' hkey

theorem filter_key_eq {es : List (κ × α)} (hnodup : (es.map (·.1)).Nodup) (hx : (k, x) ∈ es) :
    es.filter (fun e => e.1 = k) = [(k, x)] := by
  obtain ⟨front, back, rfl⟩ := List.append_of_mem hx
  rw [List.map_append, List.map_cons, List.nodup_middle, List.nodup_cons, List.mem_append] at hnodup
  have hnone : ∀ rest : List (κ × α), k ∉ rest.map (·.1) → rest.filter (fun e => e.1 = k) = [] := by
    refine fun rest hrest => List.filter_eq_nil_iff.mpr fun e he => ?_
    simpa using fun hkey : e.1 = k => hrest (hkey ▸ List.mem_map_of_mem he)
  rw [List.filter_append, List.filter_cons_of_pos (by simp),
    hnone front (fun h => hnodup.1 (.inl h)), hnone back (fun h => hnodup.1 (.inr h)),
    List.nil_append]

/-- A look-up finds what is held. -/
theorem get?_eq_some_iff (hnodup : (c.entries.map (·.1)).Nodup) :
    c.get? k = some x ↔ (k, x) ∈ c.entries := by
  rw [get?, Option.map_eq_some_iff]
  constructor
  · rintro ⟨e, hfind, rfl⟩
    obtain rfl : e.1 = k := by simpa using List.find?_some hfind
    exact List.mem_of_find?_eq_some hfind
  · intro hmem
    obtain ⟨e, hfind⟩ : ∃ e, c.entries.find? (fun e => e.1 = k) = some e :=
      Option.isSome_iff_exists.mp (List.find?_isSome.mpr ⟨(k, x), hmem, by simp⟩)
    have hkey : e.1 = k := by simpa using List.find?_some hfind
    obtain rfl := eq_of_key_eq hnodup (List.mem_of_find?_eq_some hfind) hmem hkey
    exact ⟨_, hfind, rfl⟩

/-! ## One act -/

section Compute

variable {f : Option α → Except ε α}

/-- What a computation does that succeeds: at most the oldest of the other entries leaves. -/
theorem compute_ok (hf : f (c.get? k) = .ok x) :
    ∃ evicted stay, (c.erase k).entries = Option.toList evicted ++ stay ∧
      c.compute k f = (.ok evicted, { c with entries := stay ++ [(k, x)] }) := by
  obtain ⟨evicted, stay, hentries, hpush⟩ := (c.erase k).push_cases k x
  refine ⟨evicted, stay, hentries, ?_⟩
  rw [compute, hf]
  simp only [hpush]
  rfl

theorem compute_error {e : ε} (hf : f (c.get? k) = .error e) :
    c.compute k f = (.error e, c.erase k) := by
  rw [compute, hf]

end Compute

/-- What is left of the entries of a cache if the first of them leaves. -/
theorem filter_not_mem_keys (left stay : List (κ × α))
    (hnodup : ((left ++ stay).map (·.1)).Nodup) :
    (left ++ stay).filter (fun e => e.1 ∉ left.map (·.1)) = stay := by
  rw [List.map_append, List.nodup_append] at hnodup
  obtain ⟨-, -, hne⟩ := hnodup
  rw [List.filter_append, List.filter_eq_nil_iff.mpr, List.nil_append, List.filter_eq_self]
  · intro e he
    have hnot : e.1 ∉ left.map (·.1) := fun hmem => hne _ hmem _ (List.mem_map_of_mem he) rfl
    simpa using hnot
  · intro e he
    simpa only [decide_not, Bool.not_eq_true', decide_eq_false_iff_not, not_not] using
      List.mem_map_of_mem he

/-- **One act** keeps the entries that it does not touch, and puts the one it makes behind them. -/
theorem entries_after (hnodup : (c.entries.map (·.1)).Nodup) (a : Act κ α ε) :
    (c.after a).entries =
      (c.entries.filter fun e => e.1 ∉ c.touched a) ++ (c.made a).toList := by
  cases a with
  | compute k f =>
    rcases hf : f (c.get? k) with e | x
    · simp only [after, touched, handed, made, compute_error hf, hf, Except.toOption]
      simp [erase]
    · obtain ⟨evicted, stay, hentries, hcompute⟩ := compute_ok hf
      have hrest : ((Option.toList evicted ++ stay).map (·.1)).Nodup := by
        rw [← hentries]
        exact hnodup.sublist (List.filter_sublist.map _)
      have hstay : c.entries.filter (fun e => e.1 ∉ k :: evicted.toList.map (·.1)) = stay := by
        rw [← filter_not_mem_keys _ _ hrest, ← hentries, erase, List.filter_filter]
        refine List.filter_congr fun e _ => ?_
        simp only [List.mem_cons, not_or, Bool.decide_and, Bool.and_comm]
      simp only [after, touched, handed, made, hcompute, hf, Except.toOption, hstay]
      rfl
  | evictAll =>
    have hstay := filter_not_mem_keys c.entries [] (by rwa [List.append_nil])
    rw [List.append_nil] at hstay
    simp only [after, touched, handed, made, evictAll, Option.toList_none, List.append_nil]
    exact hstay.symm

/-- The keys that an act touches. -/
theorem mem_touched_iff {a : Act κ α ε} :
    k ∈ c.touched a ↔ (∃ f, a = .compute k f) ∨ ∃ x, (k, x) ∈ c.handed a := by
  cases a with
  | compute k' f => simp [touched, eq_comm]
  | evictAll => simp [touched]

/-- An act makes what its function returns. -/
theorem made_eq_some_iff {a : Act κ α ε} :
    c.made a = some (k, x) ↔ ∃ f, a = .compute k f ∧ f (c.get? k) = .ok x := by
  cases a with
  | compute k' f =>
    rw [made, Option.map_eq_some_iff]
    constructor
    · rintro ⟨y, hy, heq⟩
      obtain ⟨rfl, rfl⟩ := Prod.mk.inj heq
      rcases hf : f (c.get? k') with e | z
      · simp [hf, Except.toOption] at hy
      · obtain rfl : z = y := by simpa [hf, Except.toOption] using hy
        exact ⟨f, rfl, hf⟩
    · rintro ⟨f', heq, hf⟩
      obtain ⟨rfl, rfl⟩ := Act.compute.inj heq
      exact ⟨x, by rw [hf, Except.toOption], rfl⟩
  | evictAll => simp [made]

theorem made_touched {a : Act κ α ε} (h : c.made a = some (k, x)) : k ∈ c.touched a := by
  obtain ⟨f, rfl, -⟩ := made_eq_some_iff.mp h
  exact List.mem_cons_self

/-- A computation hands out no entry of its own key. -/
theorem handed_compute_sublist (c : RecencyCache κ α) (k : κ) (f : Option α → Except ε α) :
    (c.handed (.compute k f)).Sublist (c.erase k).entries := by
  rcases hf : f (c.get? k) with e | x
  · simp only [handed, compute_error hf, List.nil_sublist]
  · obtain ⟨evicted, stay, hentries, hcompute⟩ := compute_ok hf
    simp only [handed, hcompute, hentries]
    exact List.sublist_append_left _ _

/-- What is handed out was resident, and is handed out in its order. -/
theorem handed_sublist (c : RecencyCache κ α) (a : Act κ α ε) : (c.handed a).Sublist c.entries := by
  cases a with
  | compute k f => exact (c.handed_compute_sublist k f).trans List.filter_sublist
  | evictAll => exact .refl _

omit [DecidableEq κ] in
/-- The entry that has to leave for a new one is the oldest one of a full cache. -/
theorem push_fst (c : RecencyCache κ α) (k : κ) (x : α) :
    (c.push k x).1 = if c.capacity ≤ c.entries.length then c.entries.head? else none := by
  rcases hentries : c.entries with _ | ⟨oldest, rest⟩
  · simp [push, hentries]
  · simp only [push, hentries, List.head?_cons]
    split_ifs <;> rfl

namespace Sound

variable {capacity : Nat}

/-- **Every act** keeps the cache sound. -/
theorem after (h : c.Sound capacity) (a : Act κ α ε) : (c.after a).Sound capacity where
  toFits := by
    cases a with
    | compute k f =>
      rcases hf : f (c.get? k) with e | x
      · simp only [RecencyCache.after, compute_error hf]
        exact h.erase k
      · simp only [RecencyCache.after, compute, hf]
        exact (h.erase k).push h.positive k x
    | evictAll => exact ⟨h.capacity_eq, Nat.zero_le _⟩
  positive := h.positive
  nodup := by
    rw [entries_after h.nodup a, List.map_append, List.nodup_append]
    refine ⟨h.nodup.sublist (List.filter_sublist.map _), ?_, ?_⟩
    · rcases c.made a with _ | e <;> simp
    · intro k hk k' hk' heq
      obtain ⟨e, he, rfl⟩ := List.mem_map.mp hk
      obtain ⟨⟨k', x⟩, hx, rfl⟩ := List.mem_map.mp hk'
      have hkept := of_decide_eq_true (List.mem_filter.mp he).2
      exact hkept (heq ▸ made_touched (Option.mem_toList.mp hx))

/-- **The hook of a computation** is called only for a new key in a full cache, with the oldest
entry. -/
theorem handed_compute (h : c.Sound capacity) {f : Option α → Except ε α}
    (hf : f (c.get? k) = .ok x) :
    c.handed (.compute k f) =
      if k ∉ c.entries.map (·.1) ∧ c.entries.length = capacity then c.entries.take 1 else [] := by
  have hhanded : c.handed (.compute k f) = ((c.erase k).push k x).1.toList := by
    simp only [handed, compute, hf]
  rw [hhanded, push_fst, List.take_one]
  change Option.toList (if c.capacity ≤ (c.erase k).entries.length then _ else _) = _
  rw [h.capacity_eq]
  have hlength := h.length_le
  by_cases hk : k ∈ c.entries.map (·.1)
  · have hless : (c.erase k).entries.length < c.entries.length := by
      obtain ⟨e, he, hkey⟩ := List.mem_map.mp hk
      exact List.length_filter_lt_length_iff_exists.mpr ⟨e, he, by simpa using hkey⟩
    rw [if_neg (by omega), if_neg fun hnew => hnew.1 hk, Option.toList_none]
  · have hsame : (c.erase k).entries = c.entries := List.filter_eq_self.mpr fun e he => by
      simpa using fun hkey => hk (List.mem_map.mpr ⟨e, he, hkey⟩)
    rw [hsame]
    by_cases hfull : c.entries.length = capacity
    · rw [if_pos hfull.ge, if_pos ⟨hk, hfull⟩]
    · rw [if_neg (by omega), if_neg fun hnew => hfull hnew.2, Option.toList_none]

end Sound

end RecencyCache

end Ingest
