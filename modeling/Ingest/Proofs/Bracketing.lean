import Ingest.LoadResult
import Ingest.Proofs.TimeOrder
import Mathlib.Algebra.Order.Ring.Nat
import Mathlib.Data.List.Basic

/-!
# Proofs/Bracketing — results add up the same in any bracketing

What results add up to is said of the whole list (`Sums`), and determined by it (`Sums.unique`).
The sum of two lists is the sum of both (`Sums.append`), so each way of bracketing gives the sum of
its results, and so does a running total. Main statement: `bracketings_agree`.
-/

namespace Ingest

namespace LoadResult

/-! ## What results add up to -/

/-- Messages as one, if there are any. -/
def joinAll (messages : List String) : Option String :=
  if messages = [] then none else some ("; ".intercalate messages)

/-- Messages can be joined in any order of the joins. -/
theorem joinMessages_assoc (a b c : Option String) :
    joinMessages (joinMessages a b) c = joinMessages a (joinMessages b c) := by
  cases a <;> cases b <;> cases c <;> simp [joinMessages, String.append_assoc]

theorem joinAll_cons (m : String) (ms : List String) :
    joinAll (m :: ms) = joinMessages (some m) (joinAll ms) := by
  rcases eq_or_ne ms [] with rfl | hne
  · simp [joinAll, joinMessages]
  · simp [joinAll, joinMessages, hne, String.intercalate_cons_of_ne_nil]

/-- Messages are joined in their order. -/
theorem joinAll_append (ms ms' : List String) :
    joinAll (ms ++ ms') = joinMessages (joinAll ms) (joinAll ms') := by
  induction ms with
  | nil => rfl
  | cons m ms ih => rw [List.cons_append, joinAll_cons, ih, joinAll_cons, joinMessages_assoc]

theorem add_status (a b : LoadResult) :
    (a + b).status = if a.status = .failed ∨ b.status = .failed then .failed else b.status := by
  change (if a.isFailed || b.isFailed then Status.failed else b.status) = _
  simp only [isFailed, Bool.or_eq_true, decide_eq_true_eq]

/-- A sum is a failure exactly if one of its parts is. -/
theorem add_status_eq_failed_iff (a b : LoadResult) :
    (a + b).status = .failed ↔ a.status = .failed ∨ b.status = .failed := by
  rw [add_status, ite_eq_left_iff]
  constructor
  · intro h
    by_contra hnone
    exact hnone (.inr (h hnone))
  · exact fun h hnone => absurd h hnone

/-- What results add up to in their order. The sum failed if and only if one of them did, and has
the last status otherwise. -/
structure Sums (rs : List LoadResult) (r : LoadResult) : Prop where
  failed_iff : r.status = .failed ↔ ∃ x ∈ rs, x.status = .failed
  status : (∀ x ∈ rs, x.status ≠ .failed) → ∃ last ∈ rs.getLast?, r.status = last.status
  rows : r.rows = (rs.map (·.rows)).sum
  attained : ∃ x ∈ rs, r.upTo = x.upTo
  latest : ∀ x ∈ rs, x.upTo ≤ r.upTo
  duration : r.duration = (rs.map (·.duration)).sum
  message : r.message = joinAll (rs.filterMap (·.message))

variable {rs rs' : List LoadResult} {r r' : LoadResult}

theorem Sums.not_failed (h : Sums rs r) (hall : ∀ x ∈ rs, x.status ≠ .failed) :
    r.status ≠ .failed := fun hr => by
  obtain ⟨x, hx, hfailed⟩ := h.failed_iff.mp hr
  exact hall x hx hfailed

/-- **What results add up to** is determined by them. -/
theorem Sums.unique (h : Sums rs r) (h' : Sums rs r') : r = r' := by
  have hstatus : r.status = r'.status := by
    by_cases hall : ∀ x ∈ rs, x.status ≠ .failed
    · obtain ⟨last, hlast, hr⟩ := h.status hall
      obtain ⟨last', hlast', hr'⟩ := h'.status hall
      obtain rfl := Option.mem_unique hlast hlast'
      rw [hr, hr']
    · push Not at hall
      rw [h.failed_iff.mpr hall, h'.failed_iff.mpr hall]
  have hupTo : r.upTo = r'.upTo := by
    obtain ⟨x, hx, hr⟩ := h.attained
    obtain ⟨x', hx', hr'⟩ := h'.attained
    exact le_antisymm (hr ▸ h'.latest x hx) (hr' ▸ h.latest x' hx')
  have hrows := h.rows.trans h'.rows.symm
  have hduration := h.duration.trans h'.duration.symm
  have hmessage := h.message.trans h'.message.symm
  cases r
  cases r'
  simp only [mk.injEq]
  exact ⟨hstatus, hrows, hupTo, hduration, hmessage⟩

theorem sums_single (r : LoadResult) : Sums [r] r where
  failed_iff := by simp
  status _ := ⟨r, rfl, rfl⟩
  rows := by simp
  attained := ⟨r, by simp⟩
  latest := by simp
  duration := by simp
  message := by rcases h : r.message <;> simp [joinAll, h]

/-- **The sum of two lists** is the sum of both in one list. -/
theorem Sums.append (h : Sums rs r) (h' : Sums rs' r') : Sums (rs ++ rs') (r + r') where
  failed_iff := by
    rw [add_status_eq_failed_iff, h.failed_iff, h'.failed_iff]
    simp only [List.mem_append, or_and_right, exists_or]
  status hall := by
    obtain ⟨hrs, hrs'⟩ := List.forall_mem_append.mp hall
    obtain ⟨last, hlast, hr'⟩ := h'.status hrs'
    refine ⟨last, List.mem_getLast?_append_of_mem_getLast? hlast, ?_⟩
    rw [add_status, if_neg (not_or.mpr ⟨h.not_failed hrs, h'.not_failed hrs'⟩), hr']
  rows := by
    rw [List.map_append, List.sum_append, ← h.rows, ← h'.rows]
    rfl
  attained := by
    obtain ⟨x, hx, hr⟩ := h.attained
    obtain ⟨x', hx', hr'⟩ := h'.attained
    rcases max_choice r.upTo r'.upTo with hmax | hmax
    · exact ⟨x, List.mem_append_left _ hx, hmax.trans hr⟩
    · exact ⟨x', List.mem_append_right _ hx', hmax.trans hr'⟩
  latest := List.forall_mem_append.mpr
    ⟨fun x hx => (h.latest x hx).trans (le_max_left _ _),
      fun x hx => (h'.latest x hx).trans (le_max_right _ _)⟩
  duration := by
    rw [List.map_append, List.sum_append, ← h.duration, ← h'.duration]
    rfl
  message := by
    rw [List.filterMap_append, joinAll_append, ← h.message, ← h'.message]
    rfl

/-! ## Bracketings -/

/-- A way to add up results in their order. -/
inductive Bracketing where
  | single (r : LoadResult)
  | sum (before after : Bracketing)

/-- The results, in their order. -/
def Bracketing.results : Bracketing → List LoadResult
  | single r => [r]
  | sum before after => before.results ++ after.results

/-- What they are added up to. -/
def Bracketing.total : Bracketing → LoadResult
  | single r => r
  | sum before after => before.total + after.total

/-- **Every bracketing** is the sum of its results. -/
theorem Bracketing.sums (t : Bracketing) : Sums t.results t.total := by
  induction t with
  | single r => exact sums_single r
  | sum before after ihbefore ihafter => exact ihbefore.append ihafter

/-! ## Running totals -/

/-- **A running total** is the sum of its results. -/
theorem sums_accrue (h : Sums rs r) (more : List LoadResult) :
    Sums (rs ++ more) (more.forM accrue r).2 := by
  induction more generalizing rs r with
  | nil => rwa [List.append_nil]
  | cons b more ih =>
    rw [List.append_cons]
    exact ih (h.append (sums_single b))

/-- **Results add up the same in any bracketing**, and as a running total. -/
theorem bracketings_agree (first : LoadResult) (rest : List LoadResult) :
    ∃ r, Sums (first :: rest) r ∧ (rest.forM accrue first).2 = r ∧
      ∀ t : Bracketing, t.results = first :: rest → t.total = r := by
  have hrunning := sums_accrue (sums_single first) rest
  exact ⟨_, hrunning, rfl, fun t ht => (ht ▸ t.sums).unique hrunning⟩

/-- Statuses that were set from outside, and a failure without a message. -/
theorem bracketings_agree_silentFailure :
    let a : LoadResult := ⟨.success, 2, .epoch, 5, some "a"⟩
    let b : LoadResult := ⟨.failed, 0, .earliest, 0, none⟩
    let c : LoadResult := ⟨.neverRun, 3, .earliest, 7, some "c"⟩
    (a + b) + c = ⟨.failed, 5, .epoch, 12, some "a; c"⟩ ∧ a + (b + c) = (a + b) + c ∧
      ([b, c].forM accrue a).2 = (a + b) + c := by
  intro a b c
  obtain ⟨r, -, hrunning, hall⟩ := bracketings_agree a [b, c]
  have hleft : (a + b) + c = r := hall (.sum (.sum (.single a) (.single b)) (.single c)) rfl
  have hright : a + (b + c) = r := hall (.sum (.single a) (.sum (.single b) (.single c))) rfl
  exact ⟨by decide +kernel, hright.trans hleft.symm, hrunning.trans hleft.symm⟩

end LoadResult

end Ingest
