import Ingest.Proofs.Aggregation.Recency

/-!
# Proofs/Aggregation/Lifetimes — what becomes of every value in a cache

A `Life` of a cache is everything that is done to it. The value of an entry is current until its key
is touched again (`Current`), and the entries of a cache are those with a current value, in the
order in which they were computed (`entries_eq`, `mem_stamped_iff`). Each value meets one fate.
Main statement: `lossless`.
-/

namespace Ingest

namespace RecencyCache

/-- A capacity and what is done to a cache that starts empty, act by act. -/
structure Life (κ α ε : Type) where
  capacity : Nat
  acts : Nat → Act κ α ε

namespace Life

variable {κ α ε : Type} [DecidableEq κ]

/-- The cache before an act. -/
def cache (l : Life κ α ε) : Nat → RecencyCache κ α
  | 0 => .ofCapacity l.capacity
  | n + 1 => (l.cache n).after (l.acts n)

/-- The entries that the hook is handed by an act, in order. -/
def handed (l : Life κ α ε) (n : Nat) : List (κ × α) := (l.cache n).handed (l.acts n)

/-- A computation succeeds and makes the value of a key. -/
def Makes (l : Life κ α ε) (n : Nat) (k : κ) (x : α) : Prop :=
  ∃ f, l.acts n = .compute k f ∧ f ((l.cache n).get? k) = .ok x

/-- A computation for a key fails. -/
def Fails (l : Life κ α ε) (n : Nat) (k : κ) : Prop :=
  ∃ f e, l.acts n = .compute k f ∧ f ((l.cache n).get? k) = .error e

/-- A key is computed, or its entry is handed to the hook. -/
def Touches (l : Life κ α ε) (n : Nat) (k : κ) : Prop :=
  (∃ f, l.acts n = .compute k f) ∨ ∃ x, (k, x) ∈ l.handed n

/-- Before the `n`-th act, the value that the `m`-th one made is the last of its key, and its entry
was neither handed to the hook nor removed since. -/
structure Current (l : Life κ α ε) (n m : Nat) (k : κ) (x : α) : Prop where
  earlier : m < n
  makes : l.Makes m k x
  untouched : ∀ j, m < j → j < n → ¬l.Touches j k

variable {l : Life κ α ε} {n m : Nat} {k : κ} {x : α}

theorem makes_iff : l.Makes n k x ↔ (l.cache n).made (l.acts n) = some (k, x) :=
  made_eq_some_iff.symm

theorem touches_iff : l.Touches n k ↔ k ∈ (l.cache n).touched (l.acts n) := mem_touched_iff.symm

/-- What is current after one more act. -/
theorem current_succ : l.Current (n + 1) m k x ↔
    (l.Current n m k x ∧ ¬l.Touches n k) ∨ (m = n ∧ l.Makes n k x) := by
  constructor
  · intro h
    rcases Nat.lt_succ_iff_lt_or_eq.mp h.earlier with hlt | rfl
    · exact .inl ⟨⟨hlt, h.makes, fun j hj hjn => h.untouched j hj (by omega)⟩,
        h.untouched n hlt (Nat.lt_succ_self n)⟩
    · exact .inr ⟨rfl, h.makes⟩
  · rintro (⟨h, hn⟩ | ⟨rfl, hmakes⟩)
    · refine ⟨Nat.lt_succ_of_lt h.earlier, h.makes, fun j hj hjn => ?_⟩
      rcases Nat.lt_succ_iff_lt_or_eq.mp hjn with hlt | rfl
      · exact h.untouched j hj hlt
      · exact hn
    · exact ⟨Nat.lt_succ_self m, hmakes, fun j hj hjn => by omega⟩

/-! ## Entries by age -/

/-- The entries of the cache before an act, each with the number of the act that made it. -/
def stamped (l : Life κ α ε) : Nat → List (Nat × κ × α)
  | 0 => []
  | n + 1 =>
    ((l.stamped n).filter fun h => h.2.1 ∉ (l.cache n).touched (l.acts n)) ++
      ((l.cache n).made (l.acts n)).toList.map (n, ·)

/-- **The entries with a current value** are those that were not touched since. -/
theorem mem_stamped_iff : (m, k, x) ∈ l.stamped n ↔ l.Current n m k x := by
  induction n with
  | zero => exact iff_of_false (by simp [stamped]) fun h => absurd h.earlier (Nat.not_lt_zero m)
  | succ n ih =>
    rw [stamped, List.mem_append, List.mem_filter, ih, current_succ, touches_iff, makes_iff]
    refine or_congr (and_congr_right fun _ => by rw [decide_eq_true_eq]) ?_
    simp only [List.mem_map, Option.mem_toList, Prod.mk.injEq]
    constructor
    · rintro ⟨_, hmade, rfl, rfl⟩
      exact ⟨rfl, hmade⟩
    · rintro ⟨rfl, hmade⟩
      exact ⟨_, hmade, rfl, rfl⟩

theorem pairwise_stamped (l : Life κ α ε) (n : Nat) :
    (l.stamped n).Pairwise fun h h' => h.1 < h'.1 := by
  induction n with
  | zero => exact .nil
  | succ n ih =>
    rw [stamped, List.pairwise_append]
    refine ⟨ih.filter _, ?_, ?_⟩
    · rcases (l.cache n).made (l.acts n) with _ | e <;> simp
    · rintro ⟨m, k, x⟩ hm h' hh'
      obtain ⟨e, -, rfl⟩ := List.mem_map.mp hh'
      exact (mem_stamped_iff.mp (List.mem_of_mem_filter hm)).earlier

section Positive

variable (hcapacity : 1 ≤ l.capacity)
include hcapacity

/-- The cache is sound all the time. -/
theorem sound (n : Nat) : (l.cache n).Sound l.capacity := by
  induction n with
  | zero => exact sound_ofCapacity hcapacity
  | succ n ih => exact ih.after (l.acts n)

/-- **The entries of a cache** stand in the order in which they were computed. -/
theorem entries_eq (n : Nat) : (l.cache n).entries = (l.stamped n).map (·.2) := by
  induction n with
  | zero => rfl
  | succ n ih =>
    rw [cache, entries_after (sound hcapacity n).nodup, ih, stamped, List.map_append,
      List.filter_map, List.map_map]
    exact congrArg _ (List.map_id _).symm

/-- **What the cache holds** is what is current. -/
theorem mem_entries_iff : (k, x) ∈ (l.cache n).entries ↔ ∃ m, l.Current n m k x := by
  rw [entries_eq hcapacity, List.mem_map]
  constructor
  · rintro ⟨⟨m, e⟩, hm, rfl⟩
    exact ⟨m, mem_stamped_iff.mp hm⟩
  · rintro ⟨m, hm⟩
    exact ⟨_, mem_stamped_iff.mpr hm, rfl⟩

end Positive

/-! ## Fates -/

/-- What can end the stay of a value. -/
inductive Ending where
  /-- A computation for its key succeeds. -/
  | superseded
  /-- A computation for its key fails. -/
  | removed
  /-- Its entry is handed to the hook. -/
  | handed

/-- An act ends the stay of a value of a key in some way. -/
def Ends (l : Life κ α ε) (n : Nat) (k : κ) (x : α) : Ending → Prop
  | .superseded => ∃ y, l.Makes n k y
  | .removed => l.Fails n k
  | .handed => (l.handed n).filter (fun e => e.1 = k) = [(k, x)]

/-- What can become of a value. -/
inductive Fate where
  | resident
  /-- An act ended its stay. -/
  | ended (n : Nat) (ending : Ending)

/-- What has become before the `n`-th act of the value that the `m`-th one made. -/
def Meets (l : Life κ α ε) (n m : Nat) (k : κ) (x : α) : Fate → Prop
  | .resident => l.Current n m k x ∧ (k, x) ∈ (l.cache n).entries
  | .ended j ending => j < n ∧ l.Current j m k x ∧ l.Ends j k x ending

theorem Makes.not_fails (h : l.Makes n k x) : ¬l.Fails n k := by
  rintro ⟨f', e, hacts', hf'⟩
  obtain ⟨f, hacts, hf⟩ := h
  obtain ⟨-, rfl⟩ := Act.compute.inj (hacts.symm.trans hacts')
  exact absurd (hf.symm.trans hf') (by simp)

theorem Ends.mem_handed (h : l.Ends n k x .handed) : (k, x) ∈ l.handed n := by
  have hmem : (k, x) ∈ (l.handed n).filter fun e => e.1 = k := by
    rw [h]
    exact List.mem_cons_self
  exact List.mem_of_mem_filter hmem

/-- A key that is computed is not handed out. -/
theorem Ends.not_compute (h : l.Ends n k x .handed) : ¬∃ f, l.acts n = .compute k f := by
  rintro ⟨f, hf⟩
  have hmem := h.mem_handed
  rw [handed, hf] at hmem
  have hrest := ((l.cache n).handed_compute_sublist k f).subset hmem
  exact of_decide_eq_true (List.mem_filter.mp hrest).2 rfl

theorem Makes.exists_compute (h : l.Makes n k x) : ∃ f, l.acts n = .compute k f :=
  h.imp fun _ => And.left

theorem Fails.exists_compute (h : l.Fails n k) : ∃ f, l.acts n = .compute k f :=
  h.imp fun _ ⟨_, hacts, _⟩ => hacts

/-- A lifetime ends when its key is touched. -/
theorem Ends.touches {ending : Ending} (h : l.Ends n k x ending) : l.Touches n k :=
  match ending, h with
  | .superseded, ⟨_, hmakes⟩ => .inl hmakes.exists_compute
  | .removed, hfails => .inl (Fails.exists_compute hfails)
  | .handed, hhanded => .inr ⟨x, Ends.mem_handed hhanded⟩

/-- One act ends the stay of a value in one way. -/
theorem Ends.unique {ending ending' : Ending} (h : l.Ends n k x ending)
    (h' : l.Ends n k x ending') : ending = ending' :=
  match ending, ending', h, h' with
  | .superseded, .superseded, _, _ => rfl
  | .superseded, .removed, ⟨_, hmakes⟩, hfails => absurd hfails hmakes.not_fails
  | .superseded, .handed, ⟨_, hmakes⟩, hhanded =>
    absurd hmakes.exists_compute (Ends.not_compute hhanded)
  | .removed, .superseded, hfails, ⟨_, hmakes⟩ => absurd hfails hmakes.not_fails
  | .removed, .removed, _, _ => rfl
  | .removed, .handed, hfails, hhanded =>
    absurd (Fails.exists_compute hfails) (Ends.not_compute hhanded)
  | .handed, .superseded, hhanded, ⟨_, hmakes⟩ =>
    absurd hmakes.exists_compute (Ends.not_compute hhanded)
  | .handed, .removed, hhanded, hfails =>
    absurd (Fails.exists_compute hfails) (Ends.not_compute hhanded)
  | .handed, .handed, _, _ => rfl

/-- **A value meets one fate**: once it is touched, it is never current again. -/
theorem Meets.unique {fate fate' : Fate} (h : l.Meets n m k x fate)
    (h' : l.Meets n m k x fate') : fate = fate' := by
  match fate, fate', h, h' with
  | .resident, .resident, _, _ => rfl
  | .resident, .ended j _, ⟨hn, _⟩, ⟨hj, hcurrent, hends⟩ =>
    exact absurd hends.touches (hn.untouched j hcurrent.earlier hj)
  | .ended j _, .resident, ⟨hj, hcurrent, hends⟩, ⟨hn, _⟩ =>
    exact absurd hends.touches (hn.untouched j hcurrent.earlier hj)
  | .ended j ending, .ended j' ending', ⟨_, hcurrent, hends⟩, ⟨_, hcurrent', hends'⟩ =>
    rcases Nat.lt_trichotomy j j' with hlt | rfl | hlt
    · exact absurd hends.touches (hcurrent'.untouched j hcurrent.earlier hlt)
    · rw [hends.unique hends']
    · exact absurd hends'.touches (hcurrent.untouched j' hcurrent'.earlier hlt)

section Positive

variable (hcapacity : 1 ≤ l.capacity)
include hcapacity

/-- No key is handed over twice at once. -/
theorem nodup_handed (n : Nat) : ((l.handed n).map (·.1)).Nodup :=
  (sound hcapacity n).nodup.sublist ((handed_sublist _ _).map _)

/-- An act that touches the key of a current value ends its stay. -/
theorem Current.exists_ends (h : l.Current n m k x) (htouches : l.Touches n k) :
    ∃ ending, l.Ends n k x ending := by
  rcases htouches with ⟨f, hacts⟩ | ⟨y, hy⟩
  · rcases hf : f ((l.cache n).get? k) with e | y
    · exact ⟨.removed, f, e, hacts, hf⟩
    · exact ⟨.superseded, y, f, hacts, hf⟩
  · have hx := (mem_entries_iff hcapacity).mpr ⟨m, h⟩
    obtain ⟨-, rfl⟩ := Prod.mk.inj
      (eq_of_key_eq (sound hcapacity n).nodup ((handed_sublist _ _).subset hy) hx rfl)
    exact ⟨.handed, filter_key_eq (nodup_handed hcapacity n) hy⟩

/-- **A value meets a fate.** -/
theorem Makes.exists_meets (h : l.Makes m k x) (hn : m < n) : ∃ fate, l.Meets n m k x fate := by
  induction n, hn using Nat.le_induction with
  | base =>
    have hcurrent : l.Current (m + 1) m k x := current_succ.mpr (.inr ⟨rfl, h⟩)
    exact ⟨.resident, hcurrent, (mem_entries_iff hcapacity).mpr ⟨m, hcurrent⟩⟩
  | succ n _ ih =>
    obtain ⟨fate, hfate⟩ := ih
    match fate, hfate with
    | .resident, ⟨hcurrent, _⟩ =>
      by_cases htouches : l.Touches n k
      · obtain ⟨ending, hends⟩ := hcurrent.exists_ends hcapacity htouches
        exact ⟨.ended n ending, Nat.lt_succ_self n, hcurrent, hends⟩
      · have hlater := current_succ.mpr (.inl ⟨hcurrent, htouches⟩)
        exact ⟨.resident, hlater, (mem_entries_iff hcapacity).mpr ⟨m, hlater⟩⟩
    | .ended j ending, ⟨hj, hcurrent, hends⟩ =>
      exact ⟨.ended j ending, Nat.lt_succ_of_lt hj, hcurrent, hends⟩

/-- **The hook of a computation**: the entry it is handed, if any. -/
theorem handed_of_compute {f : Option α → Except ε α} (hacts : l.acts n = .compute k f) :
    (l.handed n = [] ∨ l.handed n = (l.cache n).entries.take 1) ∧
      (l.handed n ≠ [] ↔ (∃ x, l.Makes n k x) ∧ (∀ x, (k, x) ∉ (l.cache n).entries) ∧
        (l.cache n).entries.length = l.capacity) := by
  rcases hf : f ((l.cache n).get? k) with e | x
  · have hnone : l.handed n = [] := by
      rw [handed, hacts]
      simp only [RecencyCache.handed, compute_error hf]
    refine ⟨.inl hnone, iff_of_false (absurd hnone) ?_⟩
    rintro ⟨⟨x, hmakes⟩, -⟩
    exact hmakes.not_fails ⟨f, e, hacts, hf⟩
  · have hmakes : l.Makes n k x := ⟨f, hacts, hf⟩
    have hhanded := (sound hcapacity n).handed_compute hf
    rw [← hacts] at hhanded
    change l.handed n = _ at hhanded
    have hkey : k ∉ (l.cache n).entries.map (·.1) ↔ ∀ x, (k, x) ∉ (l.cache n).entries := by simp
    split_ifs at hhanded with hnew
    · have hfirst : (l.cache n).entries.take 1 ≠ [] := by
        rw [Ne, List.take_eq_nil_iff]
        rintro (hone | hnil)
        · exact absurd hone Nat.one_ne_zero
        · rw [hnil, List.length_nil] at hnew
          omega
      exact ⟨.inr hhanded, iff_of_true (hhanded ▸ hfirst) ⟨⟨x, hmakes⟩, hkey.mp hnew.1, hnew.2⟩⟩
    · refine ⟨.inl hhanded, iff_of_false (absurd hhanded) fun h => ?_⟩
      exact hnew ⟨hkey.mpr h.2.1, h.2.2⟩

/-- The first entry is the one that was computed first. -/
theorem exists_oldest {e : κ × α} (he : e ∈ (l.cache n).entries.take 1) :
    ∃ m, l.Current n m e.1 e.2 ∧ ∀ m' k x, l.Current n m' k x → m ≤ m' := by
  rw [entries_eq hcapacity, ← List.map_take] at he
  have hage := pairwise_stamped l n
  rcases hstamped : l.stamped n with _ | ⟨h, rest⟩
  · rw [hstamped] at he
    cases he
  rw [hstamped] at he hage
  obtain rfl : e = h.2 := by simpa using he
  refine ⟨h.1, mem_stamped_iff.mp (hstamped ▸ List.mem_cons_self), fun m' k x hm' => ?_⟩
  have hmem := mem_stamped_iff.mpr hm'
  rw [hstamped] at hmem
  rcases List.mem_cons.mp hmem with heq | hrest
  · exact heq ▸ le_rfl
  · exact ((List.pairwise_cons.mp hage).1 _ hrest).le

/-- The entries stand in the order in which they were computed. -/
theorem exists_ages (n : Nat) : ∃ ages : List Nat, ages.Pairwise (· < ·) ∧
    List.Forall₂ (fun m e => l.Current n m e.1 e.2) ages (l.cache n).entries := by
  refine ⟨(l.stamped n).map (·.1), List.pairwise_map.mpr (pairwise_stamped l n), ?_⟩
  rw [entries_eq hcapacity, List.forall₂_map_left_iff, List.forall₂_map_right_iff,
    List.forall₂_same]
  exact fun h hh => mem_stamped_iff.mp hh

end Positive

/-- To evict all hands over everything. -/
theorem handed_of_evictAll (hacts : l.acts n = .evictAll) : l.handed n = (l.cache n).entries := by
  rw [handed, hacts]
  rfl

/-- To evict all leaves nothing. -/
theorem cache_of_evictAll (hacts : l.acts n = .evictAll) : (l.cache (n + 1)).entries = [] := by
  rw [cache, hacts]
  rfl

/-! ## What a life guarantees -/

/-- What is resident, what a computation is given, what the hook is handed and what becomes of
every value. -/
structure Lossless (l : Life κ α ε) : Prop where
  bounded : ∀ n, (l.cache n).entries.length ≤ l.capacity
  resident_iff : ∀ n k x, (k, x) ∈ (l.cache n).entries ↔ ∃ m, l.Current n m k x
  /-- The function of a computation is given the current value of the key. -/
  given : ∀ n k f, l.acts n = .compute k f → ∃ seen : Option α,
    (∀ x, seen = some x ↔ ∃ m, l.Current n m k x) ∧
      (l.cache n).compute k f = (l.cache n).compute k fun _ => f seen
  /-- A computation calls the hook once at most. -/
  hooked_once : ∀ n k f, l.acts n = .compute k f → (l.handed n).length ≤ 1
  /-- It does so if it succeeds for a new key in a full cache, and not otherwise. -/
  hooked_iff : ∀ n k f, l.acts n = .compute k f → (l.handed n ≠ [] ↔ (∃ x, l.Makes n k x) ∧
    (∀ x, (k, x) ∉ (l.cache n).entries) ∧ (l.cache n).entries.length = l.capacity)
  /-- It hands out the entry that was computed first. -/
  oldest : ∀ n k f, l.acts n = .compute k f → ∀ e ∈ l.handed n,
    ∃ m, l.Current n m e.1 e.2 ∧ ∀ m' k' x', l.Current n m' k' x' → m ≤ m'
  /-- Evicting everything hands out all entries in the order in which they were computed. -/
  emptied : ∀ n, l.acts n = .evictAll → (l.cache (n + 1)).entries = [] ∧
    (∀ e, e ∈ l.handed n ↔ e ∈ (l.cache n).entries) ∧
    ∃ ages : List Nat, ages.Pairwise (· < ·) ∧
      List.Forall₂ (fun m e => l.Current n m e.1 e.2) ages (l.handed n)
  /-- A value is resident, or its stay ended once, in one way. -/
  fate : ∀ m k x, l.Makes m k x → ∀ n, m < n → ∃! fate, l.Meets n m k x fate

/-- **A cache loses nothing**, whatever is done to it. -/
theorem lossless (l : Life κ α ε) (hcapacity : 1 ≤ l.capacity) : l.Lossless where
  bounded n := (sound hcapacity n).length_le
  resident_iff n k x := mem_entries_iff hcapacity
  given n k f _ :=
    ⟨(l.cache n).get? k, fun x => (get?_eq_some_iff (sound hcapacity n).nodup).trans
      (mem_entries_iff hcapacity), rfl⟩
  hooked_once n k f hacts := by
    rcases (handed_of_compute hcapacity hacts).1 with hnone | hfirst
    · simp [hnone]
    · rw [hfirst]
      exact List.length_take_le _ _
  hooked_iff n k f hacts := (handed_of_compute hcapacity hacts).2
  oldest n k f hacts e he := by
    rcases (handed_of_compute hcapacity hacts).1 with hnone | hfirst
    · rw [hnone] at he
      cases he
    · exact exists_oldest hcapacity (hfirst ▸ he)
  emptied n hacts := by
    rw [handed_of_evictAll hacts]
    exact ⟨cache_of_evictAll hacts, fun e => Iff.rfl, exists_ages hcapacity n⟩
  fate m k x hmakes n hn := by
    obtain ⟨fate, hfate⟩ := hmakes.exists_meets hcapacity hn
    exact ⟨fate, hfate, fun fate' hfate' => hfate'.unique hfate⟩

/-- A full cache whose oldest value has a key that is computed again. -/
def touchedAgain : Life String Nat String where
  capacity := 2
  acts
    | 0 | 2 => .compute "a" fun n => .ok (n.getD 0 + 1)
    | 1 => .compute "b" fun n => .ok (n.getD 0 + 1)
    | 3 => .compute "c" fun n => .ok (n.getD 0 + 1)
    | 4 => .compute "a" fun _ => .error "no value"
    | _ => .evictAll

/-- Of the two keys, `b` has to leave, and the failure removes `a`. -/
theorem lossless_touchedAgain :
    1 ≤ touchedAgain.capacity ∧ touchedAgain.handed 3 = [("b", 1)] ∧
      (touchedAgain.cache 4).entries = [("a", 2), ("c", 1)] ∧
      touchedAgain.handed 5 = [("c", 1)] ∧ touchedAgain.Lossless :=
  ⟨by decide, by decide, by decide, by decide, lossless touchedAgain (by decide)⟩

end Life

end RecencyCache

end Ingest
