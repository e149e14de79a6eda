import Ingest.Aggregation.Grouping
import Ingest.Proofs.Aggregation.Held
import Mathlib.Data.List.Perm.Basic

/-!
# Proofs/Aggregation/Grouping — flushes in the middle of a timestamp

The last group of a flush is sent without a bound, although rows with its timestamp may still be to
come. That does no harm as long as the next group sent has this timestamp too, since a loader ends
no batch between the two. A stage is *tidy* on its input if this is so after every flush. Main
statements: `Keeps.backed` — a tidy stage loses nothing; `Keeps.exists_tear` — what happens
otherwise.
-/

namespace Ingest

variable {κ ρ : Type}

/-- A list that is a permutation of images is the image of a permutation. -/
theorem exists_perm_of_perm_map {α β : Type} {f : α → β} {l : List α} {l₁ : List β}
    (h : l₁.Perm (l.map f)) : ∃ l' : List α, l'.map f = l₁ ∧ l'.Perm l := by
  obtain ⟨l', rfl, hp⟩ : Relation.Comp (· = List.map f ·) List.Perm l₁ l := by
    rw [List.eq_map_comp_perm]
    exact h
  exact ⟨l', rfl, hp⟩

namespace GroupingAggregation

/-- The map gives out every group once. -/
def Reorders (a : GroupingAggregation κ ρ) : Prop :=
  ∀ n groups, (groups.map (·.1)).Nodup → (a.order n groups).Perm groups

variable [Timed ρ]

/-! ## Flushes -/

/-- The groups `leaving` are sent by timestamp, as `out`. -/
structure Flushes (leaving : List (Held κ ρ)) (out : List (Staged ρ)) : Prop where
  sorted : leaving.Pairwise fun x y => time x.group.row ≤ time y.group.row
  out_eq : out = (Floors.drain ⟨leaving.map (·.floor)⟩ (leaving.map (·.group))).2

variable {a : GroupingAggregation κ ρ} {s s' : State κ ρ} {read todo left : List ρ} {r : ρ}
  {held leaving : List (Held κ ρ)} {x : Held κ ρ} {out : List (Staged ρ)}

/-- Sorted groups are in the order of their times. -/
theorem pairwise_mergeSort_time (groups : List (Pending ρ)) :
    (groups.mergeSort fun x y => decide (time x.row ≤ time y.row)).Pairwise
      fun x y => time x.row ≤ time y.row := by
  have hsorted : (groups.mergeSort fun x y => decide (time x.row ≤ time y.row)).Pairwise
      fun x y => decide (time x.row ≤ time y.row) := List.pairwise_mergeSort
    (fun x y z hxy hyz => by simp only [decide_eq_true_eq] at *; exact hxy.trans hyz)
    (fun x y => by simpa using le_total (time x.row) (time y.row)) groups
  exact hsorted.imp of_decide_eq_true

/-- **A flush** sends all groups that are held, in the order of their times. -/
theorem flushes (horder : a.Reorders) (hgroups : s.groups = held.map Held.entry)
    (nodup : (held.map Held.key).Nodup) :
    ∃ leaving : List (Held κ ρ), leaving.Perm held ∧ Flushes leaving (a.flush s).2 := by
  have hkeys : (s.groups.map (·.1)).Nodup := by
    rw [hgroups, List.map_map]
    exact nodup
  have hheld : s.groups.map (·.2) = held.map (·.group) := by
    rw [hgroups, List.map_map]
    rfl
  have hperm := (List.mergeSort_perm ((a.order s.flushes s.groups).map (·.2))
    fun x y => decide (time x.row ≤ time y.row)).trans ((horder s.flushes s.groups hkeys).map _)
  rw [hheld] at hperm
  obtain ⟨leaving, hmap, hleaving⟩ := exists_perm_of_perm_map hperm
  refine ⟨leaving, hleaving, ?_, ?_⟩
  · have hsorted := pairwise_mergeSort_time ((a.order s.flushes s.groups).map (·.2))
    rwa [← hmap, List.pairwise_map] at hsorted
  · rw [flush, emit, ← hmap, List.map_map]
    rfl

namespace Flushes

/-- A flush sends the rows of its groups. -/
theorem rows (h : Flushes leaving out) :
    out.map (·.row) = leaving.map fun x => x.group.row := by
  rw [h.out_eq, Floors.drain_rows, List.map_map]
  rfl

theorem ne_nil (h : Flushes leaving out) (hne : leaving ≠ []) : out ≠ [] := by
  have hrows : out.map (·.row) ≠ [] := by simpa [h.rows] using hne
  exact List.map_eq_nil_iff.not.mp hrows

/-- A flush is ascending. -/
theorem ascending (h : Flushes leaving out) :
    out.Pairwise fun x y => time x.row ≤ time y.row := by
  have hrows : (out.map (·.row)).Pairwise fun x y => time x ≤ time y := by
    rw [h.rows, List.pairwise_map]
    exact h.sorted
  rwa [List.pairwise_map] at hrows

/-- The last group of a flush has no bound. -/
theorem settled_getLast? (h : Flushes leaving out) : ∀ it ∈ out.getLast?, it.settled = none := by
  rw [h.out_eq]
  exact Floors.Of.drain_getLast? (List.Perm.refl _)

/-- The group that the latest row joined has the latest timestamp, and so does the last to leave. -/
theorem time_getLast? (h : Flushes leaving out) {c : InputClock}
    (hholding : Holding a.toGroupBy c read left leaving) (hlater : a.KeepsLater)
    (hle : ∀ m ∈ read, time m ≤ time r) (hr : ∃ x ∈ leaving, r ∈ x.members) :
    ∃ front last, leaving = front ++ [last] ∧ time last.group.row = time r := by
  obtain ⟨x, hx, hmem⟩ := hr
  rcases List.eq_nil_or_concat leaving with rfl | ⟨front, last, rfl⟩
  · simp at hx
  rw [List.concat_eq_append] at *
  refine ⟨front, last, rfl, le_antisymm (hholding.time_le hlater (by simp) hle) ?_⟩
  have hxr : time r ≤ time x.group.row := ((hholding.sound x hx).makes.time_mem hlater).2 r hmem
  rcases List.mem_append.mp hx with hx | hx
  · exact hxr.trans ((List.pairwise_append.mp h.sorted).2.2 x hx last (by simp))
  · obtain rfl := List.mem_singleton.mp hx
    exact hxr

/-- The last group to leave is sent last, without a bound. -/
theorem exists_last (h : Flushes (leaving ++ [x]) out) :
    ∃ sooner last, out = sooner ++ [last] ∧ last.row = x.group.row ∧ last.settled = none := by
  have hrows := h.rows
  rw [List.map_append, List.map_singleton] at hrows
  obtain ⟨sooner, final, rfl, -, hfinal⟩ := List.map_eq_append_iff.mp hrows
  obtain ⟨last, rfl, hrow⟩ := List.map_eq_singleton_iff.mp hfinal
  exact ⟨sooner, last, rfl, hrow, h.settled_getLast? last (by simp)⟩

end Flushes

/-! ## One row -/

variable [DecidableEq κ]

/-- The stage has read `read`, has sent `left` in groups and holds the groups `held`. -/
structure Keeps (a : GroupingAggregation κ ρ) (s : State κ ρ) (read left : List ρ)
    (held : List (Held κ ρ)) : Prop where
  groups : s.groups = held.map Held.entry
  nodup : (held.map Held.key).Nodup
  clock : s.clock.Reads read
  holding : Holding a.toGroupBy s.clock read left held

omit [DecidableEq κ] in
theorem keeps_start (a : GroupingAggregation κ ρ) : a.Keeps start [] [] [] :=
  ⟨rfl, .nil, InputClock.reads_start, .start _⟩

omit [DecidableEq κ] in
/-- There is one group of a key. -/
theorem Keeps.nodup_keys (h : a.Keeps s read left held) : (s.groups.map (·.1)).Nodup := by
  rw [h.groups, List.map_map]
  exact h.nodup

/-- Puts one input row into its group. -/
def put (a : GroupingAggregation κ ρ) (s : State κ ρ) (row : ρ) : Attempt (State κ ρ) := do
  let (clock, k) ← a.enter s.clock row
  let group ← a.extend clock row (find? s.groups k)
  return { s with groups := (s.groups.filter fun e => e.1 ≠ k) ++ [(k, group)], clock := clock }

omit [DecidableEq κ] in
/-- Emits everything if there are too many groups. -/
def relieve (a : GroupingAggregation κ ρ) (s : State κ ρ) : State κ ρ × List (Staged ρ) :=
  if a.threshold < s.groups.length then a.flush s else (s, [])

/-- **A step, taken apart.** -/
theorem step_eq (a : GroupingAggregation κ ρ) (s : State κ ρ) (r : ρ) :
    a.step s r = (a.put s r).map a.relieve := by
  simp only [GroupingAggregation.step, put, bind, Except.bind, pure, Except.pure]
  rcases a.enter s.clock r with e | ⟨c', k⟩
  · rfl
  dsimp only
  rcases a.extend c' r (find? s.groups k) with e | p
  · rfl
  · simp only [Except.map, relieve]
    split <;> rfl

/-- A step that succeeds took its row in. -/
theorem exists_put_of_step (hs : a.step s r = .ok (s', out)) :
    ∃ s₁, a.put s r = .ok s₁ ∧ a.relieve s₁ = (s', out) := by
  rw [step_eq] at hs
  rcases hput : a.put s r with f | s₁ <;> rw [hput] at hs
  · cases hs
  · exact ⟨s₁, rfl, Except.ok.inj hs⟩

/-- What a row is put into. -/
theorem exists_extend_of_put (hs : a.put s r = .ok s') :
    ∃ c' k p, s.clock.advance (time r) = .ok c' ∧ a.key r = .ok k ∧
      a.extend c' r (find? s.groups k) = .ok p ∧
      s' = { s with groups := (s.groups.filter fun e => e.1 ≠ k) ++ [(k, p)], clock := c' } := by
  unfold put at hs
  rcases henter : a.enter s.clock r with e | ⟨c', k⟩ <;> rw [henter] at hs
  · cases hs
  obtain ⟨hadv, hkey⟩ := GroupBy.enter_eq_ok henter
  rcases hext : a.extend c' r (find? s.groups k) with e | p
  · simp [hext, bind, Except.bind] at hs
  · simp only [hext, bind, Except.bind] at hs
    exact ⟨c', k, p, hadv, hkey, hext, (Except.ok.inj hs).symm⟩

/-- A row is taken in if it enters and its group can be extended. -/
theorem put_of_extend {c' : InputClock} {k : κ} {p : Pending ρ}
    (hadv : s.clock.advance (time r) = .ok c') (hkey : a.key r = .ok k)
    (hext : a.extend c' r (find? s.groups k) = .ok p) :
    a.put s r = .ok { s with
      groups := (s.groups.filter fun e => e.1 ≠ k) ++ [(k, p)], clock := c' } := by
  simp only [GroupingAggregation.put, GroupBy.enter_of_advance hadv hkey, hext, bind, Except.bind]
  rfl

/-- A row that does not descend is taken in, unless its key or its merge fails. -/
theorem Keeps.exists_put (h : a.Keeps s read left held) {key : ρ → κ} {merge : ρ → ρ → ρ}
    (hkey : ∀ r, a.key r = .ok (key r)) (hmerge : ∀ x r, a.merge x r = .ok (merge x r))
    (hr : ∀ x ∈ read, time x ≤ time r) : ∃ s', a.put s r = .ok s' := by
  obtain ⟨c', hadv⟩ := h.clock.exists_advance hr
  obtain ⟨p, hext⟩ := GroupBy.exists_extend hmerge c' r (find? s.groups (key r))
  exact ⟨_, put_of_extend hadv (hkey r) hext⟩

/-- **One row** joins what is held of its key. -/
theorem Keeps.put (h : a.Keeps s read left held) (hs : a.put s r = .ok s') :
    ∃ h', Held.Joined a.toGroupBy s'.clock held r h' ∧
      a.Keeps s' (read ++ [r]) left ((held.filter fun x => x.key ≠ h'.key) ++ [h']) := by
  obtain ⟨c', k, p, hadv, hkey, hext, rfl⟩ := exists_extend_of_put hs
  obtain ⟨hreads, hbefore⟩ := h.clock.advance hadv
  rw [find?, h.groups, ← Held.lookup] at hext
  obtain ⟨h', hentry, hjoined, hholding⟩ := h.holding.absorb h.nodup hreads hbefore hkey hext
  obtain ⟨rfl, rfl⟩ := Prod.mk.inj hentry
  refine ⟨h', hjoined, ?_, nodup_filter_append h.nodup rfl, hreads, hholding⟩
  rw [List.map_append, h.groups, List.filter_map]
  rfl

omit [DecidableEq κ] in
/-- **A flush** sends all groups. -/
theorem Keeps.flush (h : a.Keeps s read left held) (horder : a.Reorders) :
    ∃ leaving : List (Held κ ρ), leaving.Perm held ∧ Flushes leaving (a.flush s).2 ∧
      a.Keeps (a.flush s).1 read (left ++ leaving.flatMap (·.members)) [] := by
  obtain ⟨leaving, hperm, hflush⟩ := flushes horder h.groups h.nodup
  have hleaving : Holding a.toGroupBy s.clock read left (leaving ++ []) := by
    simpa using h.holding.perm hperm.symm
  exact ⟨leaving, hperm, hflush, rfl, .nil, h.clock, hleaving.emitAll⟩

/-- **One row** joins its group. Then all groups stay or all groups leave. -/
theorem Keeps.step (h : a.Keeps s read left held) (horder : a.Reorders)
    (hs : a.step s r = .ok (s', out)) :
    ∃ held', (∃ x ∈ held', r ∈ x.members) ∧ Holding a.toGroupBy s'.clock (read ++ [r]) left held' ∧
      (out = [] ∧ a.Keeps s' (read ++ [r]) left held' ∨
        Flushes held' out ∧ a.Keeps s' (read ++ [r]) (left ++ held'.flatMap (·.members)) []) := by
  obtain ⟨s₁, hput, hrelieve⟩ := exists_put_of_step hs
  obtain ⟨h', hjoined, hkeeps⟩ := h.put hput
  unfold relieve at hrelieve
  split_ifs at hrelieve with hfull
  · obtain ⟨leaving, hperm, hflush, hflushed⟩ := hkeeps.flush horder
    have hleaving := hkeeps.holding.perm hperm.symm
    rw [hrelieve] at hflush hflushed
    obtain ⟨rfl, rfl⟩ := Prod.mk.inj hrelieve
    exact ⟨leaving, ⟨h', hperm.mem_iff.mpr (by simp), hjoined.mem⟩, hleaving,
      .inr ⟨hflush, hflushed⟩⟩
  · obtain ⟨rfl, rfl⟩ := Prod.mk.inj hrelieve
    exact ⟨_, ⟨h', by simp, hjoined.mem⟩, hkeeps.holding, .inl ⟨rfl, hkeeps⟩⟩

/-- As long as a group is held or a row is to come, something is to be sent. -/
theorem Keeps.fold_ne_nil (h : a.Keeps s read left held) (horder : a.Reorders)
    (hmore : held ≠ [] ∨ todo ≠ []) : Stage.fold a.step a.finish s (todo.map .ok) ≠ [] := by
  induction todo generalizing read left held s with
  | nil =>
    obtain ⟨leaving, hperm, hflush⟩ := flushes horder h.groups h.nodup
    have hne : leaving ≠ [] := fun hnil =>
      hmore.resolve_right (by simp) (List.Perm.eq_nil (hnil ▸ hperm).symm)
    simpa [Stage.fold, finish] using hflush.ne_nil hne
  | cons r todo ih =>
    rw [List.map_cons, Stage.fold]
    rcases hs : a.step s r with f | ⟨s', out⟩
    · simp
    obtain ⟨held', ⟨x, hx, -⟩, -, ⟨rfl, hkeeps⟩ | ⟨hflush, -⟩⟩ := h.step horder hs
    · simpa using ih hkeeps (.inl (List.ne_nil_of_mem hx))
    · simp [hflush.ne_nil (List.ne_nil_of_mem hx)]

/-! ## Tidy stages -/

/-- The first row of a stream, if the stream starts with a row, is not later than `t`. -/
def StartsBy (t : Instant) : List (Except Error (Staged ρ)) → Prop
  | .ok it :: _ => time it.row ≤ t
  | _ => True

/-- What does not start by an instant starts with a row that is later. -/
theorem not_startsBy {t : Instant} {items : List (Except Error (Staged ρ))} :
    ¬StartsBy t items ↔ ∃ it rest, items = .ok it :: rest ∧ t < time it.row := by
  rcases items with _ | ⟨e | it, rest⟩ <;> simp [StartsBy]

instance (t : Instant) : (items : List (Except Error (Staged ρ))) → Decidable (StartsBy t items)
  | [] => .isTrue trivial
  | .error _ :: _ => .isTrue trivial
  | .ok it :: _ => inferInstanceAs (Decidable (time it.row ≤ t))

/-- From the state `s` on, after a flush in the middle of a timestamp the next group sent is not
later. Rows at the earliest instant do not matter, as they lie in no window. -/
def TidyFrom (a : GroupingAggregation κ ρ) : State κ ρ → List ρ → Prop
  | _, [] => True
  | s, r :: rest =>
    match a.step s r with
    | .error _ => True
    | .ok (s', out) =>
      (out ≠ [] → .earliest < time r → (∃ next ∈ rest.head?, time next = time r) →
        StartsBy (time r) (Stage.fold a.step a.finish s' (rest.map .ok))) ∧ TidyFrom a s' rest

instance decidableTidyFrom (a : GroupingAggregation κ ρ) :
    (s : State κ ρ) → (rows : List ρ) → Decidable (a.TidyFrom s rows)
  | _, [] => .isTrue trivial
  | s, r :: rest =>
    match h : a.step s r with
    | .error _ => .isTrue (by rw [TidyFrom, h]; trivial)
    | .ok (s', out) =>
      have := decidableTidyFrom a s' rest
      decidable_of_iff
        ((¬out = [] → .earliest < time r → (∃ next ∈ rest.head?, time next = time r) →
          StartsBy (time r) (Stage.fold a.step a.finish s' (rest.map .ok))) ∧ a.TidyFrom s' rest)
        (by rw [TidyFrom, h])

/-- After a flush in the middle of a timestamp the next group sent is not later. -/
def Tidy (a : GroupingAggregation κ ρ) (rows : List ρ) : Prop := a.TidyFrom start rows

instance (a : GroupingAggregation κ ρ) (rows : List ρ) : Decidable (a.Tidy rows) :=
  inferInstanceAs (Decidable (a.TidyFrom start rows))

/-- **Without ties a stage is tidy.** -/
theorem tidyFrom_of_pairwise_lt (hlt : todo.Pairwise fun x y => time x < time y) :
    a.TidyFrom s todo := by
  induction todo generalizing s with
  | nil => trivial
  | cons r todo ih =>
    obtain ⟨hr, htodo⟩ := List.pairwise_cons.mp hlt
    rw [TidyFrom]
    rcases a.step s r with f | ⟨s', out⟩
    · trivial
    refine ⟨fun _ _ ⟨next, hnext, heq⟩ => ?_, ih htodo⟩
    exact absurd heq (hr next (List.mem_of_mem_head? hnext)).ne'

/-- After a flush at `t` that leaves no group of `t` to come, a later group means later rows. -/
theorem Keeps.lt_of_nextLater (h : a.Keeps s read left held) (horder : a.Reorders) {t : Instant}
    (asc : Ascending todo) (hle : ∀ x ∈ todo, t ≤ time x)
    (htidy : .earliest < t → (∃ next ∈ todo.head?, time next = t) →
      StartsBy t (Stage.fold a.step a.finish s (todo.map .ok)))
    {it : Staged ρ} (hit : time it.row = t)
    (hlater : it.NextLater (Stage.fold a.step a.finish s (todo.map .ok))) :
    ∀ x ∈ todo, .earliest < time x → t < time x := by
  intro x hx hearliest
  refine (hle x hx).lt_of_ne fun heq => ?_
  -- `x` has the timestamp of the flush, and so has the next row
  obtain ⟨y, rest, rfl⟩ := List.exists_cons_of_ne_nil (List.ne_nil_of_mem hx)
  have hy : time y = t := by
    refine le_antisymm ?_ (hle y List.mem_cons_self)
    rcases List.mem_cons.mp hx with rfl | hx
    · exact heq.ge
    · exact heq ▸ (List.pairwise_cons.mp asc).1 x hx
  obtain ⟨entry, others, hfold⟩ := List.exists_cons_of_ne_nil
    (h.fold_ne_nil horder (.inr (List.cons_ne_nil y rest)))
  rw [hfold] at hlater htidy
  obtain ⟨next, rfl, hgt⟩ := hlater entry rfl
  have hnext : time next.row ≤ t := htidy (heq ▸ hearliest) ⟨y, rfl, hy⟩
  exact absurd hgt (not_lt.mpr (hit ▸ hnext))

/-- **Nothing gets lost.** What a tidy stage sends for ascending rows is backed by them. -/
theorem Keeps.backed (h : a.Keeps s read left held) (horder : a.Reorders) (hlater : a.KeepsLater)
    (asc : Ascending (read ++ todo)) (tidy : a.TidyFrom s todo) :
    Backed (fun ms r => ∃ k, a.Makes k ms r) (read ++ todo) left
      (Stage.fold a.step a.finish s (todo.map .ok)) := by
  induction todo generalizing read left held s with
  | nil =>
    obtain ⟨leaving, hperm, hflush⟩ := flushes horder h.groups h.nodup
    have hholding : Holding a.toGroupBy s.clock read left (leaving ++ []) := by
      simpa using h.holding.perm hperm.symm
    have hfloors : Floors.Of ⟨leaving.map (·.floor)⟩ (leaving ++ []) := by simp [Floors.Of]
    have hnext : ∀ x ∈ ([] : List ρ), .earliest < time x → s.clock.before < time x := by simp
    have hback := drain_backed hholding hfloors hnext (by simp) Backed.nil
    simpa [Stage.fold, finish, hflush.out_eq] using hback
  | cons r todo ih =>
    rw [TidyFrom] at tidy
    rw [List.map_cons, Stage.fold]
    rcases hs : a.step s r with f | ⟨s', out⟩
    · trivial
    rw [hs] at tidy
    obtain ⟨htidy, tidy⟩ := tidy
    have hxs : read ++ r :: todo = (read ++ [r]) ++ todo := by simp
    rw [hxs] at asc ⊢
    obtain ⟨held', hr, hholding, ⟨rfl, hkeeps⟩ | ⟨hflush, hkeeps⟩⟩ := h.step horder hs
    · simpa using ih hkeeps asc tidy
    have hread : ∀ m ∈ read ++ [r], time m ≤ time r := fun m hm =>
      (asc.sublist (List.sublist_append_left _ _)).le_getLast (by simp) hm
    have hnext : ∀ x ∈ todo, time r ≤ time x := (List.pairwise_append.mp asc).2.2 r (by simp)
    obtain ⟨front, last, hheld, hlast⟩ := hflush.time_getLast? hholding hlater hread hr
    have hout : out ≠ [] := hflush.ne_nil (by simp [hheld])
    have htodo := asc.sublist (List.sublist_append_right (read ++ [r]) todo)
    simp only [hflush.out_eq]
    have hleaving : Holding a.toGroupBy s'.clock (read ++ [r]) left (held' ++ []) := by
      simpa using hholding
    refine drain_backed hleaving (by simp [Floors.Of])
      (fun x hx hlt => ?_) (fun _ h₀ hh₀ hlater₀ x hx hlt => ?_) (ih hkeeps asc tidy)
    · exact hkeeps.clock.before_lt (by simp [hkeeps.clock.current]) (hnext x hx) hlt
    · obtain rfl : last = h₀ := by simpa [hheld] using hh₀
      rw [hlast]
      exact hkeeps.lt_of_nextLater horder htodo hnext (htidy hout) hlast hlater₀ x hx hlt

/-! ## Stages that are not tidy -/

/-- A row made of rows that were read. -/
def MadeOf (a : GroupingAggregation κ ρ) (read : List ρ) (r : ρ) : Prop :=
  ∃ k members, a.Makes k members r ∧ members ⊆ read

/-- What was sent ascends, and it does not descend to what is held. -/
structure Sends (a : GroupingAggregation κ ρ) (read : List ρ) (held : List (Held κ ρ))
    (sent : List (Staged ρ)) : Prop where
  ascending : sent.Pairwise fun x y => time x.row ≤ time y.row
  made : ∀ x ∈ sent, a.MadeOf read x.row
  le_held : ∀ x ∈ sent, ∀ m ∈ held.flatMap (·.members), time x.row ≤ time m

/-- A timestamp `t` that is torn: of all groups made of `read`, the last one sent has the timestamp
`t` and no bound, and the group `it` that follows is later. -/
structure Tear (a : GroupingAggregation κ ρ) (read : List ρ) (t : Instant) (sent : List (Staged ρ))
    (it : Staged ρ) : Prop where
  earliest_lt : .earliest < t
  ascending : sent.Pairwise fun x y => time x.row ≤ time y.row
  made : ∀ x ∈ sent, a.MadeOf read x.row
  last : ∃ front last, sent = front ++ [last] ∧ time last.row = t ∧ last.settled = none
  later : t < time it.row

omit [DecidableEq κ] in
/-- Nothing was sent that is later than the timestamp that is torn apart. -/
theorem Tear.le_time {sent : List (Staged ρ)} {it : Staged ρ} {t : Instant}
    (h : a.Tear read t sent it) : ∀ x ∈ sent, time x.row ≤ t := by
  obtain ⟨front, last, rfl, rfl, -⟩ := h.last
  intro x hx
  rcases List.mem_append.mp hx with hx | hx
  · exact (List.pairwise_append.mp h.ascending).2.2 x hx last (by simp)
  · exact (congrArg (time ·.row) (List.mem_singleton.mp hx)).le

variable {sent : List (Staged ρ)} {c c' : InputClock} {held' : List (Held κ ρ)}

omit [DecidableEq κ] in
/-- Nothing is sent when a row joins the groups that are held. -/
theorem Sends.join (h : a.Sends read held sent) (hlater : a.KeepsLater)
    (hholding : Holding a.toGroupBy c read left held)
    (hholding' : Holding a.toGroupBy c' (read ++ [r]) left held')
    (hle : ∀ m ∈ read, time m ≤ time r) : a.Sends (read ++ [r]) held' sent where
  ascending := h.ascending
  made x hx := by
    obtain ⟨k, members, hmakes, hsub⟩ := h.made x hx
    exact ⟨k, members, hmakes, fun m hm => List.mem_append_left _ (hsub hm)⟩
  le_held x hx m hm := by
    have hheld : (held.flatMap (·.members) ++ [r]).Perm (held'.flatMap (·.members)) := by
      rw [← List.perm_append_left_iff left, ← List.append_assoc]
      exact (hholding.account.symm.append_right [r]).trans hholding'.account
    rcases List.mem_append.mp (hheld.mem_iff.mpr hm) with hm | hm
    · exact h.le_held x hx m hm
    · obtain rfl := List.mem_singleton.mp hm
      obtain ⟨k, members, hmakes, hsub⟩ := h.made x hx
      obtain ⟨⟨n, hn, heq⟩, -⟩ := hmakes.time_mem hlater
      exact heq ▸ hle n (hsub hn)

omit [DecidableEq κ] in
/-- After a flush nothing is held. -/
theorem Sends.flush (h : a.Sends read held sent) (hlater : a.KeepsLater)
    (hholding : Holding a.toGroupBy c read left held) (hflush : Flushes held out) :
    a.Sends read [] (sent ++ out) := by
  have hout : ∀ y ∈ out, ∃ x ∈ held, x.group.row = y.row := fun y hy =>
    List.mem_map.mp (hflush.rows ▸ List.mem_map_of_mem hy)
  refine ⟨List.pairwise_append.mpr ⟨h.ascending, hflush.ascending, fun x hx y hy => ?_⟩,
    fun y hy => ?_, by simp⟩
  · obtain ⟨g, hg, hrow⟩ := hout y hy
    obtain ⟨⟨m, hm, heq⟩, -⟩ := (hholding.sound g hg).makes.time_mem hlater
    rw [← hrow, ← heq]
    exact h.le_held x hx m (List.mem_flatMap.mpr ⟨g, hg, hm⟩)
  · rcases List.mem_append.mp hy with hy | hy
    · exact h.made y hy
    · obtain ⟨g, hg, hrow⟩ := hout y hy
      exact ⟨g.key, g.members, hrow ▸ (hholding.sound g hg).makes, fun m => hholding.mem_read hg⟩

/-- **A stage that is not tidy tears a timestamp.** -/
theorem Keeps.exists_tear (h : a.Keeps s read left held) (hsent : a.Sends read held sent)
    (horder : a.Reorders) (hlater : a.KeepsLater) (asc : Ascending (read ++ todo))
    (htorn : ¬a.TidyFrom s todo) :
    ∃ front next back more it rest, todo = front ++ next :: back ∧
      Stage.fold a.step a.finish s (todo.map .ok) = more.map .ok ++ .ok it :: rest ∧
      a.Tear (read ++ front) (time next) (sent ++ more) it := by
  induction todo generalizing read left held s sent with
  | nil => exact absurd trivial htorn
  | cons r todo ih =>
    rw [TidyFrom] at htorn
    rw [List.map_cons, Stage.fold]
    rcases hs : a.step s r with f | ⟨s', out⟩ <;> rw [hs] at htorn
    · exact absurd trivial htorn
    have hxs : read ++ r :: todo = (read ++ [r]) ++ todo := by simp
    rw [hxs] at asc
    have hread : ∀ m ∈ read ++ [r], time m ≤ time r := fun m hm =>
      (asc.sublist (List.sublist_append_left _ _)).le_getLast (by simp) hm
    obtain ⟨held', hr, hholding, hcase⟩ := h.step horder hs
    have hjoin := hsent.join hlater h.holding hholding fun m hm =>
      hread m (List.mem_append_left _ hm)
    rcases hcase with ⟨rfl, hkeeps⟩ | ⟨hflush, hkeeps⟩
    · obtain ⟨front, next, back, more, it, rest, rfl, hfold, htear⟩ :=
        ih hkeeps hjoin asc fun htidy => htorn ⟨fun hnil => absurd rfl hnil, htidy⟩
      exact ⟨r :: front, next, back, more, it, rest, rfl, by simpa using hfold,
        by simpa using htear⟩
    have hsent' := hjoin.flush hlater hholding hflush
    by_cases htidy : a.TidyFrom s' todo
    · simp only [htidy, and_true, Classical.not_imp] at htorn
      obtain ⟨-, hearliest, ⟨next, hnext, htime⟩, hstart⟩ := htorn
      obtain ⟨back, rfl⟩ := List.head?_eq_some_iff.mp hnext
      obtain ⟨it, rest, hfold, hlt⟩ := not_startsBy.mp hstart
      refine ⟨[r], next, back, out, it, rest, rfl, congrArg (out.map .ok ++ ·) hfold, ?_⟩
      obtain ⟨front, last, rfl, hlast⟩ := hflush.time_getLast? hholding hlater hread hr
      obtain ⟨sooner, final, rfl, hrow, hsettled⟩ := hflush.exists_last
      exact ⟨htime ▸ hearliest, hsent'.ascending, hsent'.made,
        ⟨sent ++ sooner, final, (List.append_assoc ..).symm, by rw [hrow, hlast, htime], hsettled⟩,
        htime ▸ hlt⟩
    · obtain ⟨front, next, back, more, it, rest, rfl, hfold, htear⟩ :=
        ih hkeeps hsent' asc htidy
      have hsplit : out.map .ok ++ Stage.fold a.step a.finish s' ((front ++ next :: back).map .ok)
          = (out ++ more).map .ok ++ .ok it :: rest := by
        rw [hfold, List.map_append, List.append_assoc]
      exact ⟨r :: front, next, back, out ++ more, it, rest, rfl, hsplit, by simpa using htear⟩

end GroupingAggregation

end Ingest
