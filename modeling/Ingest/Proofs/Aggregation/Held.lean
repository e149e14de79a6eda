import Ingest.Proofs.Aggregation.Clock
import Ingest.Proofs.Staged

/-!
# Proofs/Aggregation/Held — what has left a stage and what it holds

The rows that a stage has read are, in some order, the members of the groups that left it and of the
groups that it still holds (`Holding.account`). The floor of a held group is the latest timestamp
before its first member (`Held.Floored`), so no member of it lies at or before the floor, and a
bound below every floor is one up to which everything has left. Main statements: `Holding.absorb` —
one more row; `Floors.Of.drain_split`, `drain_backed` — groups that leave.
-/

namespace Ingest

variable {κ ρ : Type}

/-! ## Groups and their members -/

namespace GroupBy

/-- `x` is what the rows `members` of the key `k` make, merged one after the other. -/
inductive Makes (g : GroupBy κ ρ) (k : κ) : List ρ → ρ → Prop where
  | single {r : ρ} (hk : g.key r = .ok k) : Makes g k [r] r
  | snoc {members : List ρ} {x r y : ρ} (h : Makes g k members x) (hk : g.key r = .ok k)
      (hm : g.merge x r = .ok y) : Makes g k (members ++ [r]) y

variable [Timed ρ] {g : GroupBy κ ρ} {k : κ} {members : List ρ} {x : ρ}

/-- A merged row has the later timestamp of the two. -/
def KeepsLater (g : GroupBy κ ρ) : Prop :=
  ∀ a b c, g.merge a b = .ok c → time c = max (time a) (time b)

/-- **A group has the timestamp of its latest member.** -/
theorem Makes.time_mem (hg : g.KeepsLater) (h : g.Makes k members x) :
    (∃ m ∈ members, time m = time x) ∧ ∀ m ∈ members, time m ≤ time x := by
  induction h with
  | single hk => simp
  | @snoc members x r y h hk hm ih =>
    obtain ⟨⟨m, hmem, hmx⟩, hle⟩ := ih
    have hy := hg x r y hm
    constructor
    · rcases max_cases (time x) (time r) with ⟨hmax, -⟩ | ⟨hmax, -⟩
      · exact ⟨m, List.mem_append_left _ hmem, by rw [hmx, hy, hmax]⟩
      · exact ⟨r, by simp, by rw [hy, hmax]⟩
    · intro n hn
      rw [hy]
      rcases List.mem_append.mp hn with hn | hn
      · exact (hle n hn).trans (le_max_left _ _)
      · obtain rfl := List.mem_singleton.mp hn
        exact le_max_right _ _

omit [Timed ρ] in
/-- A group of a total merge is the left fold of its members. -/
theorem Makes.foldl (h : g.Makes k members x) {merge : ρ → ρ → ρ}
    (hmerge : ∀ x r, g.merge x r = .ok (merge x r)) :
    ∃ first more, members = first :: more ∧ x = more.foldl merge first := by
  induction h with
  | @single r hk => exact ⟨r, [], rfl, rfl⟩
  | @snoc members x r y h hk hm ih =>
    obtain ⟨first, more, rfl, rfl⟩ := ih
    obtain rfl := Except.ok.inj ((hmerge _ r).symm.trans hm)
    exact ⟨first, more ++ [r], rfl, by simp⟩

/-- The clock and the key of a row that a stage takes in. -/
theorem enter_eq_ok {c c' : InputClock} {r : ρ} (h : g.enter c r = .ok (c', k)) :
    c.advance (time r) = .ok c' ∧ g.key r = .ok k := by
  unfold GroupBy.enter at h
  rcases hc : c.advance (time r) with e | c'' <;> rw [hc] at h
  · cases h
  rcases hk : g.key r with p | k' <;> rw [hk] at h
  · cases h
  · obtain ⟨rfl, rfl⟩ := Prod.mk.inj (Except.ok.inj h)
    exact ⟨rfl, rfl⟩

/-- A row enters if the clock can advance to it and it has a key. -/
theorem enter_of_advance {c c' : InputClock} {r : ρ} (hadv : c.advance (time r) = .ok c')
    (hkey : g.key r = .ok k) : g.enter c r = .ok (c', k) := by
  rw [enter, hadv, hkey]
  rfl

omit [Timed ρ] in
/-- A total merge extends every group. -/
theorem exists_extend {merge : ρ → ρ → ρ} (hmerge : ∀ x r, g.merge x r = .ok (merge x r))
    (c : InputClock) (r : ρ) (group : Option (Pending ρ)) : ∃ p, g.extend c r group = .ok p := by
  rcases group with _ | q
  · exact ⟨_, rfl⟩
  · exact ⟨_, by rw [extend, hmerge]; rfl⟩

omit [Timed ρ] in
/-- A new group is its first row, with the floor of the clock. -/
theorem eq_of_extend_none {c : InputClock} {r : ρ} {p : Pending ρ}
    (h : g.extend c r none = .ok p) : ⟨r, c.floor⟩ = p := Except.ok.inj h

omit [Timed ρ] in
/-- A group keeps its floor. -/
theorem merge_of_extend_some {c : InputClock} {r : ρ} {q p : Pending ρ}
    (h : g.extend c r (some q) = .ok p) : ∃ y, g.merge q.row r = .ok y ∧ ⟨y, q.floor⟩ = p := by
  rw [GroupBy.extend] at h
  rcases hm : g.merge q.row r with e | y <;> rw [hm] at h
  · cases h
  · exact ⟨y, rfl, Except.ok.inj h⟩

end GroupBy

/-- Merging fields leaves the timestamp alone. -/
theorem FieldAggregation.mergeFields_timestamp {op : String → Value → Value → Except Error Value}
    {current : Row} {fields : List String} {merged r : Row}
    (h : mergeFields op current fields merged = .ok r) : r.timestamp = merged.timestamp := by
  induction fields generalizing merged with
  | nil => exact Except.ok.inj h ▸ rfl
  | cons field fields ih =>
    rw [mergeFields] at h
    rcases hop : op field (current.valueAt field) (merged.valueAt field) with e | v <;>
      rw [hop] at h
    · cases h
    · have hrest : mergeFields op current fields (merged.set field v) = .ok r := h
      exact @ih (merged.set field v) hrest

/-- **Merging by fields keeps the later timestamp.** -/
theorem FieldAggregation.keepsLater (a : FieldAggregation) : a.toGroupBy.KeepsLater := by
  intro current next r h
  simp only [toGroupBy, merge] at h
  rcases hsum : mergeFields sumValues current a.sum next with e | summed <;> rw [hsum] at h
  · cases h
  simp only [bind, Except.bind] at h
  rcases hmax : mergeFields maxValue current a.max summed with e | merged <;> rw [hmax] at h
  · cases h
  obtain rfl := Except.ok.inj h
  change Max.max merged.timestamp current.timestamp = Max.max current.timestamp next.timestamp
  rw [mergeFields_timestamp hmax, mergeFields_timestamp hsum, max_comm]

/-- A held group, its key and the rows it was made of. -/
structure Held (κ ρ : Type) where
  /-- The key. -/
  key : κ
  /-- The rows, in the order in which they were read. -/
  members : List ρ
  /-- The group. -/
  group : Pending ρ

namespace Held

/-- The entry of the map of groups. -/
def entry (h : Held κ ρ) : κ × Pending ρ := (h.key, h.group)

/-- The floor of the group. -/
def floor (h : Held κ ρ) : Instant := h.group.floor

/-- The least floor of some groups, or no bound if there are none. -/
def settled (held : List (Held κ ρ)) : Option Instant := (held.map floor).min?

/-- The held group of a key, as a map of the groups has it. -/
def lookup [DecidableEq κ] (held : List (Held κ ρ)) (k : κ) : Option (Pending ρ) :=
  ((held.map Held.entry).find? fun e => e.1 = k).map (·.2)

end Held

section Lookup

variable [DecidableEq κ] {held : List (Held κ ρ)} {k : κ}

/-- The held group of a key, in front of the others. -/
theorem exists_perm_cons_filter (nodup : (held.map Held.key).Nodup) {p : Pending ρ}
    (h : Held.lookup held k = some p) :
    ∃ h₀ ∈ held, h₀.key = k ∧ h₀.group = p ∧
      held.Perm (h₀ :: held.filter fun h => h.key ≠ k) := by
  induction held with
  | nil => simp [Held.lookup] at h
  | cons head tail ih =>
    rw [List.map_cons, List.nodup_cons] at nodup
    by_cases hk : head.key = k
    · have hrest : tail.filter (fun h => h.key ≠ k) = tail :=
        List.filter_eq_self.mpr fun t ht => by
          have : t.key ≠ head.key := fun heq => nodup.1 (heq ▸ List.mem_map_of_mem ht)
          simpa [← hk] using this
      refine ⟨head, List.mem_cons_self, hk, by simpa [Held.lookup, Held.entry, hk] using h, ?_⟩
      rw [List.filter_cons_of_neg (by simp [hk]), hrest]
    · obtain ⟨h₀, hmem, hkey, hgroup, hperm⟩ :=
        ih nodup.2 (by simpa [Held.lookup, Held.entry, hk] using h)
      refine ⟨h₀, List.mem_cons_of_mem _ hmem, hkey, hgroup, ?_⟩
      rw [List.filter_cons_of_pos (by simpa using hk)]
      exact (hperm.cons head).trans (.swap _ _ _)

/-- What replaces the entry of its key keeps the keys apart. -/
theorem nodup_filter_append {α : Type} {key : α → κ} {entries : List α}
    (nodup : (entries.map key).Nodup) {x : α} (hk : key x = k) :
    (((entries.filter fun y => key y ≠ k) ++ [x]).map key).Nodup := by
  rw [List.map_append, List.nodup_append]
  refine ⟨nodup.sublist (List.filter_sublist.map _), by simp, ?_⟩
  intro j hj j' hj'
  obtain ⟨y, hmem, rfl⟩ := List.mem_map.mp hj
  obtain rfl : j' = k := by simpa [hk] using hj'
  simpa using (List.mem_filter.mp hmem).2

/-- If there is no group of a key, no group that is held has it. -/
theorem key_ne_of_lookup_eq_none (h : Held.lookup held k = none) : ∀ t ∈ held, t.key ≠ k :=
  fun t ht => by
    have hne : ¬decide (t.key = k) = true :=
      List.find?_eq_none.mp (Option.map_eq_none_iff.mp h) t.entry (List.mem_map_of_mem ht)
    simpa using hne

/-- If there is no group of a key, all groups are those of other keys. -/
theorem filter_key_of_lookup_eq_none
    (h : Held.lookup held k = none) :
    held.filter (fun h => h.key ≠ k) = held :=
  List.filter_eq_self.mpr fun t ht => by simpa using key_ne_of_lookup_eq_none h t ht

theorem filter_key_eq_nil (h : Held.lookup held k = none) :
    held.filter (fun h => h.key = k) = [] :=
  List.filter_eq_nil_iff.mpr fun t ht => by simpa using key_ne_of_lookup_eq_none h t ht

/-- What is held of a key is one group. -/
theorem filter_key_eq_singleton {h₀ : Held κ ρ} (hkey : h₀.key = k)
    (hperm : held.Perm (h₀ :: held.filter fun h => h.key ≠ k)) :
    held.filter (fun h => h.key = k) = [h₀] := by
  refine List.perm_singleton.mp ((hperm.filter _).trans ?_)
  rw [List.filter_cons_of_pos (by simpa using hkey), List.filter_filter]
  simp

/-- Of a key there is nothing held, or one group. -/
theorem filter_key_cases (nodup : (held.map Held.key).Nodup) (k : κ) :
    held.filter (fun h => h.key = k) = [] ∨
      ∃ h ∈ held, h.key = k ∧ held.filter (fun h => h.key = k) = [h] := by
  rcases hfind : Held.lookup held k with _ | p
  · exact .inl (filter_key_eq_nil hfind)
  · obtain ⟨h₀, hmem, hkey, -, hperm⟩ := exists_perm_cons_filter nodup hfind
    exact .inr ⟨h₀, hmem, hkey, filter_key_eq_singleton hkey hperm⟩

/-- `h'` is what the row `r` makes of the group that is held of its key, if there is one. -/
structure Held.Joined (g : GroupBy κ ρ) (c : InputClock) (held : List (Held κ ρ)) (r : ρ)
    (h' : Held κ ρ) : Prop where
  key : g.key r = .ok h'.key
  members : h'.members = (held.filter fun x => x.key = h'.key).flatMap (·.members) ++ [r]
  group : g.extend c r (Held.lookup held h'.key) = .ok h'.group

namespace Held.Joined

variable {g : GroupBy κ ρ} {c : InputClock} {r : ρ} {x y : Held κ ρ}

theorem mem (h : Joined g c held r x) : r ∈ x.members := by simp [h.members]

/-- A row joins one group. -/
theorem unique (hx : Joined g c held r x) (hy : Joined g c held r y) : x = y := by
  obtain ⟨k, members, group⟩ := x
  obtain ⟨k', members', group'⟩ := y
  obtain rfl : k = k' := Except.ok.inj (hx.key.symm.trans hy.key)
  obtain rfl : members = members' := hx.members.trans hy.members.symm
  obtain rfl : group = group' := Except.ok.inj (hx.group.symm.trans hy.group)
  rfl

end Held.Joined

end Lookup

/-! ## What has left and what is held -/

variable [Timed ρ]

/-- A held group is made of its members, and all of them are later than its floor. -/
structure Held.Sound (g : GroupBy κ ρ) (h : Held κ ρ) : Prop where
  makes : g.Makes h.key h.members h.group.row
  floor_lt : ∀ m ∈ h.members, .earliest < time m → h.floor < time m

/-- A group of one row is sound. -/
theorem Held.Sound.single {g : GroupBy κ ρ} {k : κ} {r : ρ} {f : Instant} (hk : g.key r = .ok k)
    (hf : .earliest < time r → f < time r) : Held.Sound g ⟨k, [r], ⟨r, f⟩⟩ where
  makes := .single hk
  floor_lt m hm hlt := by
    obtain rfl := List.mem_singleton.mp hm
    exact hf hlt

/-- A sound group stays sound with one more row. -/
theorem Held.Sound.snoc {g : GroupBy κ ρ} {h : Held κ ρ} (hs : h.Sound g) {r y : ρ}
    (hk : g.key r = .ok h.key) (hy : g.merge h.group.row r = .ok y)
    (hf : .earliest < time r → h.floor < time r) :
    Held.Sound g ⟨h.key, h.members ++ [r], ⟨y, h.group.floor⟩⟩ where
  makes := .snoc hs.makes hk hy
  floor_lt m hm hlt := by
    rcases List.mem_append.mp hm with hm | hm
    · exact hs.floor_lt m hm hlt
    · obtain rfl := List.mem_singleton.mp hm
      exact hf hlt

/-- The floor of a group is the latest timestamp before its first row, among the rows read. -/
structure Held.Floored (read : List ρ) (h : Held κ ρ) : Prop where
  attained : h.floor = .earliest ∨ ∃ x ∈ read, time x = h.floor
  first : ∃ first ∈ h.members, ∀ x ∈ read, time x ≤ h.floor ∨ time first ≤ time x

namespace Held.Floored

variable {read : List ρ} {c : InputClock} {k : κ} {r : ρ} {h h' : Held κ ρ}

/-- The latest row starts a group. -/
theorem single (hclock : c.Reads (read ++ [r])) : Floored (read ++ [r]) ⟨k, [r], ⟨r, c.floor⟩⟩ where
  attained := hclock.attained
  first := by
    have hcur : c.current = some (time r) := by simp [hclock.current]
    refine ⟨r, List.mem_singleton_self r, fun x hx => (hclock.apart x hx).imp_right fun ht => ?_⟩
    exact (Option.some.inj (hcur.symm.trans ht)).le

/-- A floor stays below what is read later. -/
theorem read_more (hf : h.Floored read) (hsub : h.members ⊆ read)
    (hr : ∀ x ∈ read, time x ≤ time r) : h.Floored (read ++ [r]) where
  attained := hf.attained.imp_right fun ⟨x, hx, heq⟩ => ⟨x, List.mem_append_left _ hx, heq⟩
  first := by
    obtain ⟨first, hmem, hall⟩ := hf.first
    refine ⟨first, hmem, fun x hx => ?_⟩
    rcases List.mem_append.mp hx with hx | hx
    · exact hall x hx
    · exact .inr (List.mem_singleton.mp hx ▸ hr first (hsub hmem))

/-- Only the floor and the first row of a group matter. -/
theorem grow (hf : h.Floored read) (hfloor : h'.floor = h.floor)
    (hmembers : h.members ⊆ h'.members) : h'.Floored read where
  attained := hfloor ▸ hf.attained
  first := by
    obtain ⟨first, hmem, hall⟩ := hf.first
    exact ⟨first, hmembers hmem, hfloor ▸ hall⟩

end Held.Floored

/-- After `read` was read, `left` has left in groups and the groups `held` are held. -/
structure Holding (g : GroupBy κ ρ) (c : InputClock) (read left : List ρ)
    (held : List (Held κ ρ)) : Prop where
  sound : ∀ h ∈ held, h.Sound g
  floored : ∀ h ∈ held, h.Floored read
  floor_le : ∀ h ∈ held, h.floor ≤ c.before
  account : read.Perm (left ++ held.flatMap (·.members))

namespace Holding

variable {g : GroupBy κ ρ} {c c' : InputClock} {read todo left : List ρ} {held : List (Held κ ρ)}

/-- Before anything is read nothing is held. -/
theorem start (g : GroupBy κ ρ) : Holding g .start [] [] [] :=
  ⟨by simp, by simp, by simp, by simp⟩

/-- The order in which groups are held does not matter. -/
theorem perm (h : Holding g c read left held) {held' : List (Held κ ρ)} (hp : held.Perm held') :
    Holding g c read left held' where
  sound x hx := h.sound x (hp.mem_iff.mpr hx)
  floored x hx := h.floored x (hp.mem_iff.mpr hx)
  floor_le x hx := h.floor_le x (hp.mem_iff.mpr hx)
  account := h.account.trans ((hp.flatMap_right _).append_left _)

/-- A group leaves. -/
theorem emit {h₀ : Held κ ρ} (h : Holding g c read left (h₀ :: held)) :
    Holding g c read (left ++ h₀.members) held where
  sound x hx := h.sound x (List.mem_cons_of_mem _ hx)
  floored x hx := h.floored x (List.mem_cons_of_mem _ hx)
  floor_le x hx := h.floor_le x (List.mem_cons_of_mem _ hx)
  account := by simpa [List.append_assoc] using h.account

/-- Groups that leave take their rows with them. -/
theorem emitAll {leaving : List (Held κ ρ)} (h : Holding g c read left (leaving ++ held)) :
    Holding g c read (left ++ leaving.flatMap (·.members)) held := by
  induction leaving generalizing left with
  | nil => simpa using h
  | cons h₀ leaving ih =>
    rw [List.flatMap_cons, ← List.append_assoc]
    exact ih h.emit

/-- **Everything up to a bound below the floors has left.** -/
theorem covered (h : Holding g c read left held) {b : Instant} (hb : ∀ x ∈ held, b ≤ x.floor)
    (htodo : ∀ x ∈ todo, .earliest < time x → b < time x) :
    (Window.rows ⟨.earliest, b⟩ (read ++ todo)).Subperm left := by
  have hnone : ∀ rows : List ρ, (∀ x ∈ rows, .earliest < time x → b < time x) →
      Window.rows ⟨.earliest, b⟩ rows = [] := fun rows hrows => by
    refine List.eq_nil_iff_forall_not_mem.mpr fun x hx => ?_
    obtain ⟨hmem, hlt, hle⟩ := Window.mem_rows.mp hx
    exact absurd (hrows x hmem hlt) (not_lt.mpr hle)
  have hheld : Window.rows ⟨.earliest, b⟩ (held.flatMap (·.members)) = [] :=
    hnone _ fun x hx hlt => by
      obtain ⟨h₀, hmem, hx⟩ := List.mem_flatMap.mp hx
      exact (hb h₀ hmem).trans_lt ((h.sound h₀ hmem).floor_lt x hx hlt)
  have hread := h.account.filter fun r => Window.contains ⟨.earliest, b⟩ (time r)
  rw [List.filter_append] at hread
  have hall : (Window.rows ⟨.earliest, b⟩ (read ++ todo)).Perm
      (Window.rows ⟨.earliest, b⟩ left) := by
    rw [Window.rows, List.filter_append, ← Window.rows, ← Window.rows, hnone todo htodo,
      List.append_nil]
    refine hread.trans ?_
    rw [← Window.rows, ← Window.rows, hheld, List.append_nil]
  exact hall.subperm.trans List.filter_sublist.subperm

/-- No row is in two groups. -/
theorem members_subperm {h₀ : Held κ ρ} (h : Holding g c read left (h₀ :: held)) :
    (left ++ h₀.members).Subperm (read ++ todo) := by
  have := h.emit.account
  exact (List.sublist_append_left _ _).subperm.trans
    (this.symm.subperm.trans (List.sublist_append_left _ _).subperm)

/-- What is held was read. -/
theorem mem_read (h : Holding g c read left held) {x : Held κ ρ} (hx : x ∈ held) {m : ρ}
    (hm : m ∈ x.members) : m ∈ read :=
  h.account.mem_iff.mpr (List.mem_append_right _ (List.mem_flatMap.mpr ⟨x, hx, hm⟩))

/-- A held group is not later than the latest row read. -/
theorem time_le (h : Holding g c read left held) (hlater : g.KeepsLater) {x : Held κ ρ}
    (hx : x ∈ held) {t : Instant} (ht : ∀ m ∈ read, time m ≤ t) : time x.group.row ≤ t := by
  obtain ⟨⟨m, hm, heq⟩, -⟩ := (h.sound x hx).makes.time_mem hlater
  exact heq ▸ ht m (h.mem_read hx hm)

/-- **A group with one more row** takes the place of one that had the others, or of none. -/
theorem join (h : Holding g c read left held) (hc : c.before ≤ c'.before)
    {kept : List (Held κ ρ)} (hkept : kept ⊆ held) {h' : Held κ ρ} (hsound : h'.Sound g) {r : ρ}
    (hr : ∀ x ∈ read, time x ≤ time r) (hfloored : h'.Floored (read ++ [r]))
    (hfloor : h'.floor ≤ c'.before)
    (hmembers : (held.flatMap (·.members) ++ [r]).Perm
      (kept.flatMap (·.members) ++ h'.members)) :
    Holding g c' (read ++ [r]) left (kept ++ [h']) where
  sound x hx := by
    rcases List.mem_append.mp hx with hx | hx
    · exact h.sound x (hkept hx)
    · exact List.mem_singleton.mp hx ▸ hsound
  floored x hx := by
    rcases List.mem_append.mp hx with hx | hx
    · exact (h.floored x (hkept hx)).read_more (fun _ => h.mem_read (hkept hx)) hr
    · exact List.mem_singleton.mp hx ▸ hfloored
  floor_le x hx := by
    rcases List.mem_append.mp hx with hx | hx
    · exact (h.floor_le x (hkept hx)).trans hc
    · exact List.mem_singleton.mp hx ▸ hfloor
  account := by
    refine (h.account.append_right [r]).trans ?_
    rw [List.append_assoc, List.flatMap_append, List.flatMap_singleton]
    exact hmembers.append_left left

/-- **One more row** joins the rows held of its key, or starts a group with the floor of the clock.
-/
theorem absorb [DecidableEq κ] (h : Holding g c read left held)
    (nodup : (held.map Held.key).Nodup) {r : ρ} {k : κ} {p : Pending ρ}
    (hclock : c'.Reads (read ++ [r])) (hc : c.before ≤ c'.before) (hk : g.key r = .ok k)
    (hp : g.extend c' r (Held.lookup held k) = .ok p) :
    ∃ h' : Held κ ρ, h'.entry = (k, p) ∧ Held.Joined g c' held r h' ∧
      Holding g c' (read ++ [r]) left ((held.filter fun x => x.key ≠ k) ++ [h']) := by
  have hcur : time r ∈ c'.current := by simp [hclock.current]
  have hlt : ∀ f ≤ c'.before, .earliest < time r → f < time r := fun f hf hlt =>
    hf.trans_lt (hclock.before_lt hcur le_rfl hlt)
  have hr : ∀ x ∈ read, time x ≤ time r := fun x hx =>
    hclock.le_current hcur (List.mem_append_left _ hx)
  have hext := hp
  rcases hfind : Held.lookup held k with _ | q <;> rw [hfind] at hext
  · obtain rfl := GroupBy.eq_of_extend_none hext
    rw [filter_key_of_lookup_eq_none hfind]
    refine ⟨⟨k, [r], ⟨r, c'.floor⟩⟩, rfl, ⟨hk, by rw [filter_key_eq_nil hfind]; rfl, hp⟩, ?_⟩
    exact h.join hc (fun _ => id) (.single hk (hlt _ le_rfl)) hr (.single hclock) le_rfl (.refl _)
  · obtain ⟨h₀, hmem, rfl, rfl, hperm⟩ := exists_perm_cons_filter nodup hfind
    obtain ⟨y, hy, rfl⟩ := GroupBy.merge_of_extend_some hext
    have hfloor : h₀.floor ≤ c'.before := (h.floor_le h₀ hmem).trans hc
    refine ⟨⟨h₀.key, h₀.members ++ [r], ⟨y, h₀.group.floor⟩⟩, rfl, ⟨hk, ?_, hp⟩, ?_⟩
    · rw [filter_key_eq_singleton rfl hperm, List.flatMap_singleton]
    have hfloored := (h.floored h₀ hmem).read_more (fun _ => h.mem_read hmem) hr
    refine h.join hc List.filter_sublist.subset ((h.sound h₀ hmem).snoc hk hy (hlt _ hfloor)) hr
      (hfloored.grow rfl (List.subset_append_left _ _)) hfloor ?_
    have hheld := hperm.flatMap_right Held.members
    rw [List.flatMap_cons] at hheld
    refine (hheld.append_right [r]).trans ?_
    rw [List.append_assoc]
    exact List.perm_append_comm_assoc _ _ _

end Holding

/-! ## Groups that leave -/

section Drain

variable {g : GroupBy κ ρ} {c : InputClock} {read todo left : List ρ}
  {leaving held : List (Held κ ρ)} {f : Floors} {out : List (Except Error (Staged ρ))}

/-- The floors of a stage are those of the groups that it holds. -/
def Floors.Of (f : Floors) (held : List (Held κ ρ)) : Prop := f.held.Perm (held.map (·.floor))

omit [Timed ρ] in
/-- The floor of a group that leaves is given up. -/
theorem Floors.Of.release {h₀ : Held κ ρ} (hf : f.Of (h₀ :: held)) :
    (f.release h₀.group.floor).Of held := by
  have := hf.erase h₀.floor
  rwa [List.map_cons, List.erase_cons_head] at this

omit [Timed ρ] in
/-- One more row brings one more floor exactly if it starts a group. -/
theorem Floors.Of.absorb [DecidableEq κ] (hf : f.Of held) (nodup : (held.map Held.key).Nodup)
    {r : ρ} {k : κ} {h' : Held κ ρ}
    (hp : g.extend c r (Held.lookup held k) = .ok h'.group) :
    Floors.Of
      (if (Held.lookup held k).isNone then f.hold c.floor else f)
      ((held.filter fun x => x.key ≠ k) ++ [h']) := by
  have hswap : ∀ l : List (Held κ ρ), Floors.Of ⟨h'.floor :: l.map (·.floor)⟩ (l ++ [h']) :=
    fun l => by simpa [Floors.Of] using (List.perm_append_singleton _ _).symm
  rcases hfind : Held.lookup held k with _ | q <;> rw [hfind] at hp
  · have hfloor : c.floor = h'.floor := by rw [Held.floor, ← GroupBy.eq_of_extend_none hp]
    rw [filter_key_of_lookup_eq_none hfind, Option.isNone_none, if_pos rfl, Floors.hold, hfloor]
    exact (List.Perm.cons _ hf).trans (hswap held)
  · obtain ⟨h₀, -, -, rfl, hperm⟩ := exists_perm_cons_filter nodup hfind
    obtain ⟨y, -, hy⟩ := GroupBy.merge_of_extend_some hp
    have hfloor : h₀.floor = h'.floor := by rw [Held.floor, Held.floor, ← hy]
    rw [Option.isNone_some, if_neg Bool.false_ne_true]
    refine List.Perm.trans hf ((hperm.map _).trans ?_)
    rw [List.map_cons, hfloor]
    exact hswap _

/-- A row that is sent while groups are held is bounded by the floor of each. -/
theorem Floors.Of.bound_le (hf : f.Of held) {h₀ : Held κ ρ} (hmem : h₀ ∈ held) (r : ρ) :
    (⟨r, f.settled⟩ : Staged ρ).bound ≤ h₀.floor := by
  have hfloor : h₀.floor ∈ f.held := hf.mem_iff.mpr (List.mem_map_of_mem hmem)
  obtain ⟨m, hm⟩ : ∃ m, f.settled = some m := by
    rw [← Option.ne_none_iff_exists', ne_eq, Floors.settled, List.min?_eq_none_iff]
    exact List.ne_nil_of_mem hfloor
  have hle := (List.min?_eq_some_iff.mp hm).2 _ hfloor
  simpa [Staged.bound, hm] using Or.inr hle

omit [Timed ρ] in
/-- Groups that leave give up their floors. -/
theorem Floors.Of.drain (hf : f.Of (leaving ++ held)) :
    (f.drain (leaving.map (·.group))).1.Of held := by
  induction leaving generalizing f with
  | nil => exact hf
  | cons h₀ leaving ih => exact ih hf.release

omit [Timed ρ] in
/-- Groups leave in the order in which they are told. -/
theorem Floors.drain_rows (f : Floors) (groups : List (Pending ρ)) :
    (f.drain groups).2.map (·.row) = groups.map (·.row) := by
  induction groups generalizing f with
  | nil => rfl
  | cons p groups ih => exact congrArg (p.row :: ·) (ih _)

omit [Timed ρ] in
/-- What is settled is what the lowest floor says. -/
theorem Floors.Of.settled_eq (hf : f.Of held) : f.settled = Held.settled held := by
  rcases hmin : Held.settled held with _ | m
  · have hnil : held = [] := by simpa [Held.settled] using hmin
    subst hnil
    rw [Floors.settled, List.Perm.eq_nil hf]
    rfl
  · obtain ⟨hmem, hle⟩ := List.min?_eq_some_iff.mp hmin
    exact List.min?_eq_some_iff.mpr ⟨hf.mem_iff.mpr hmem, fun x hx => hle x (hf.mem_iff.mp hx)⟩

omit [Timed ρ] in
/-- The order of the groups does not matter for what is settled. -/
theorem Held.settled_perm {held' : List (Held κ ρ)} (h : held.Perm held') :
    Held.settled held = Held.settled held' := by
  have hf : Floors.Of ⟨held.map (·.floor)⟩ held' := h.map _
  exact hf.settled_eq

omit [Timed ρ] in
/-- **What is sent for a group** among those that leave carries the least floor of the groups that
have not left by then. -/
theorem Floors.Of.drain_split (hf : f.Of (leaving ++ held)) {front back : List (Staged ρ)}
    {it : Staged ρ} (h : (f.drain (leaving.map (·.group))).2 = front ++ it :: back) :
    ∃ sooner g later, leaving = sooner ++ g :: later ∧
      front.map (·.row) = sooner.map (·.group.row) ∧ it.row = g.group.row ∧
      back.map (·.row) = later.map (·.group.row) ∧ it.settled = Held.settled (later ++ held) := by
  induction leaving generalizing f front with
  | nil => simp [Floors.drain] at h
  | cons h₀ leaving ih =>
    have hrest := hf.release
    rw [List.map_cons, Floors.drain] at h
    rcases front with _ | ⟨first, front⟩
    · obtain ⟨rfl, rfl⟩ := List.cons.inj h
      refine ⟨[], h₀, leaving, rfl, rfl, rfl, ?_, hrest.settled_eq⟩
      rw [Floors.drain_rows, List.map_map]
      rfl
    · obtain ⟨rfl, htail⟩ := List.cons.inj h
      obtain ⟨sooner, g, later, rfl, hfront, hit⟩ := ih hrest htail
      exact ⟨h₀ :: sooner, g, later, rfl, by simp [hfront], hit⟩

omit [Timed ρ] in
/-- The last group to leave has no bound. -/
theorem Floors.Of.drain_getLast? (hf : f.Of leaving) :
    ∀ it ∈ (f.drain (leaving.map (·.group))).2.getLast?, it.settled = none := by
  intro it hit
  obtain ⟨front, hsplit⟩ := List.getLast?_eq_some_iff.mp hit
  have hall : f.Of (leaving ++ []) := (List.append_nil leaving).symm ▸ hf
  obtain ⟨_, _, later, -, -, -, hback, hsettled⟩ := hall.drain_split hsplit
  obtain rfl := List.map_eq_nil_iff.mp hback.symm
  exact hsettled

/-- **Groups that leave are backed** by the rows read. While others stay, their floors keep each
bound low; of the last group to leave, if none stay, `hlast` says that no row up to it is to come.
-/
theorem drain_backed (h : Holding g c read left (leaving ++ held)) (hf : f.Of (leaving ++ held))
    (htodo : ∀ x ∈ todo, .earliest < time x → c.before < time x)
    (hlast : held = [] → ∀ h₀ ∈ leaving.getLast?, (⟨h₀.group.row, none⟩ : Staged ρ).NextLater out →
      ∀ x ∈ todo, .earliest < time x → time h₀.group.row < time x)
    (hout : Backed (fun ms r => ∃ k, g.Makes k ms r) (read ++ todo)
      (left ++ leaving.flatMap (·.members)) out) :
    Backed (fun ms r => ∃ k, g.Makes k ms r) (read ++ todo) left
      ((f.drain (leaving.map (·.group))).2.map .ok ++ out) := by
  induction leaving generalizing left f with
  | nil => simpa [Floors.drain] using hout
  | cons h₀ leaving ih =>
    refine ⟨h₀.members, ⟨h₀.key, (h.sound h₀ (by simp)).makes⟩, h.members_subperm, ?_, ?_⟩
    · intro hnext
      rcases hstay : leaving ++ held with _ | ⟨h₁, stay⟩
      · obtain ⟨rfl, rfl⟩ := List.append_eq_nil_iff.mp hstay
        refine h.emit.covered (by simp) fun x hx hlt => ?_
        exact (Staged.bound_le _).trans_lt (hlast rfl h₀ rfl hnext x hx hlt)
      · have hbound : ∀ x ∈ leaving ++ held, _ ≤ x.floor := fun x hx =>
          hf.release.bound_le hx h₀.group.row
        refine h.emit.covered hbound fun x hx hlt => ?_
        have hmem : h₁ ∈ leaving ++ held := hstay ▸ List.mem_cons_self
        have hle := (hbound h₁ hmem).trans (h.emit.floor_le h₁ hmem)
        exact hle.trans_lt (htodo x hx hlt)
    · refine ih h.emit hf.release (fun hheld h₁ hh₁ => hlast hheld h₁ ?_) ?_
      · rw [List.getLast?_cons, hh₁]
        rfl
      · simpa [List.append_assoc] using hout

end Drain

end Ingest
