import Ingest.Row
import Ingest.Window
import Mathlib.Data.List.Basic
import Mathlib.Order.MinMax

/-!
# Proofs/TimeOrder — instants in a line, rows in ascending order

`Instant` is a linear order, so the rows of a table that lie up to an instant and the rows after it
are two halves of the table (`Ascending.filter_le_append_filter_lt`), and what precedes an instant
is a prefix (`Ascending.takeWhile_lt`). A window cuts such a half off on either side
(`Window.rows_filter_lt`).
-/

namespace Ingest

instance : LinearOrder Instant where
  le_refl := Instant.le_refl
  le_trans _ _ _ := Instant.le_trans
  lt_iff_le_not_ge a b := by
    rw [Instant.lt_iff_not_ge]
    exact ⟨fun h => ⟨(Instant.le_total a b).resolve_right h, h⟩, And.right⟩
  le_antisymm _ _ := Instant.le_antisymm
  le_total := Instant.le_total
  toDecidableLE := inferInstance
  toDecidableEq := inferInstance
  toDecidableLT := inferInstance
  min_def _ _ := Instant.min_def
  max_def _ _ := Instant.max_def

/-- The instant at a count of seconds from 1970, or the epoch if there is none. -/
def Instant.atSecond (second : Int) : Instant := (ofUnix? second 0).getD epoch

/-- Rows whose timestamps never decrease. -/
def Ascending {ρ : Type} [Timed ρ] (rows : List ρ) : Prop :=
  rows.Pairwise fun a b => time a ≤ time b

instance {ρ : Type} [Timed ρ] (rows : List ρ) : Decidable (Ascending rows) :=
  inferInstanceAs (Decidable (rows.Pairwise _))

namespace Ascending

variable {ρ : Type} [Timed ρ] {rows : List ρ}

theorem sublist (h : Ascending rows) {l : List ρ} (hl : l.Sublist rows) : Ascending l :=
  List.Pairwise.sublist hl h

theorem filter (h : Ascending rows) (p : ρ → Bool) : Ascending (rows.filter p) :=
  h.sublist List.filter_sublist

theorem le_getLast (h : Ascending rows) {last : ρ} (hl : rows.getLast? = some last) {r : ρ}
    (hr : r ∈ rows) : time r ≤ time last := by
  obtain ⟨front, rfl⟩ := List.getLast?_eq_some_iff.mp hl
  rcases List.mem_append.mp hr with hr | hr
  · exact (List.pairwise_append.mp h).2.2 r hr last (List.mem_singleton_self _)
  · obtain rfl := List.mem_singleton.mp hr
    exact le_rfl

/-- **The rows up to an instant, then the rows after it, are all rows.** -/
theorem filter_le_append_filter_lt (h : Ascending rows) (t : Instant) :
    rows.filter (fun r => time r ≤ t) ++ rows.filter (fun r => t < time r) = rows := by
  induction rows with
  | nil => rfl
  | cons r rest ih =>
    obtain ⟨hr, hrest⟩ := List.pairwise_cons.mp h
    by_cases hrt : time r ≤ t
    · rw [List.filter_cons_of_pos (by simpa using hrt),
        List.filter_cons_of_neg (by simpa using hrt), List.cons_append, ih hrest]
    · have hlt : t < time r := not_le.mp hrt
      rw [List.filter_cons_of_neg (by simpa using hlt),
        List.filter_cons_of_pos (by simpa using hlt),
        List.filter_eq_nil_iff.mpr fun s hs => by simpa using hlt.trans_le (hr s hs),
        List.filter_eq_self.mpr fun s hs => by simpa using hlt.trans_le (hr s hs), List.nil_append]

/-- The rows before the last timestamp, then the rows at it, are all rows. -/
theorem filter_lt_append_filter_eq (h : Ascending rows) {last : Instant}
    (hle : ∀ r ∈ rows, time r ≤ last) :
    rows.filter (fun r => time r < last) ++ rows.filter (fun r => time r = last) = rows := by
  induction rows with
  | nil => rfl
  | cons r rest ih =>
    obtain ⟨hr, hrest⟩ := List.pairwise_cons.mp h
    obtain ⟨hrlast, hle⟩ := List.forall_mem_cons.mp hle
    rcases hrlast.lt_or_eq with hlt | heq
    · rw [List.filter_cons_of_pos (by simpa using hlt),
        List.filter_cons_of_neg (by simpa using hlt.ne), List.cons_append, ih hrest hle]
    · have htied : ∀ s ∈ rest, time s = last := fun s hs => (hle s hs).antisymm (heq ▸ hr s hs)
      rw [List.filter_cons_of_neg (by simpa using heq.ge),
        List.filter_cons_of_pos (by simpa using heq),
        List.filter_eq_nil_iff.mpr fun s hs => by simpa using (htied s hs).ge,
        List.filter_eq_self.mpr fun s hs => by simpa using htied s hs, List.nil_append]

/-- The rows before an instant come first. -/
theorem takeWhile_lt (h : Ascending rows) (t : Instant) :
    rows.takeWhile (fun r => time r < t) = rows.filter fun r => time r < t := by
  induction rows with
  | nil => rfl
  | cons r rest ih =>
    obtain ⟨hr, hrest⟩ := List.pairwise_cons.mp h
    by_cases hrt : time r < t
    · rw [List.takeWhile_cons_of_pos (by simpa using hrt),
        List.filter_cons_of_pos (by simpa using hrt), ih hrest]
    · rw [List.takeWhile_cons_of_neg (by simpa using hrt), eq_comm, List.filter_eq_nil_iff]
      intro s hs
      rcases List.mem_cons.mp hs with rfl | hs
      · simpa using hrt
      · simpa using (not_lt.mp hrt).trans (hr s hs)

/-- The last of the rows before an instant bounds these rows. -/
theorem filter_lt_eq_filter_le (h : Ascending rows) {t : Instant} {top : ρ}
    (htop : (rows.filter fun r => time r < t).getLast? = some top) :
    rows.filter (fun r => time r < t) = rows.filter fun r => time r ≤ time top := by
  have hlt : time top < t := by simpa using (List.mem_filter.mp (List.mem_of_getLast? htop)).2
  refine List.filter_congr fun r hr => ?_
  rw [decide_eq_decide]
  constructor
  · intro hrt
    exact (h.filter _).le_getLast htop (List.mem_filter.mpr ⟨hr, by simpa using hrt⟩)
  · intro hle
    exact hle.trans_lt hlt

end Ascending

/-! ## Windows -/

/-- The rows of a table that lie in a window. -/
def Window.rows {ρ : Type} [Timed ρ] (w : Window) (table : List ρ) : List ρ :=
  table.filter fun r => w.contains (time r)

section Rows

variable {ρ : Type} [Timed ρ] {w : Window} {table : List ρ} {r : ρ}

theorem Window.mem_rows :
    r ∈ w.rows table ↔ r ∈ table ∧ w.since < time r ∧ time r ≤ w.upTo := by
  simp [Window.rows, Window.contains, List.mem_filter]

theorem Window.rows_filter_le_since :
    (w.rows table).filter (fun r => time r ≤ w.since) = [] :=
  List.filter_eq_nil_iff.mpr fun r hr => by simpa using (Window.mem_rows.mp hr).2.1

/-- A window that is empty has no rows. -/
theorem Window.rows_eq_nil (h : ¬w.since < w.upTo) : w.rows table = [] :=
  List.eq_nil_iff_forall_not_mem.mpr fun r hr => by
    obtain ⟨_, hs, hu⟩ := Window.mem_rows.mp hr
    exact h (hs.trans_le hu)

/-- The window after one that had no rows left has none if none came since. -/
theorem Window.rows_eq_nil_of_idle {table' : List ρ} {t u : Instant} (hleft : w.rows table = [])
    (hold : ∀ r ∈ table', time r ≤ w.upTo → r ∈ table)
    (hnew : Window.rows ⟨w.upTo, u⟩ table' = []) (ht : w.since ≤ t) :
    Window.rows ⟨t, u⟩ table' = [] := by
  refine List.eq_nil_iff_forall_not_mem.mpr fun r hr => ?_
  obtain ⟨hmem, hlt, hle⟩ := Window.mem_rows.mp hr
  rcases le_or_gt (time r) w.upTo with hbefore | hafter
  · exact List.eq_nil_iff_forall_not_mem.mp hleft r
      (Window.mem_rows.mpr ⟨hold r hmem hbefore, ht.trans_lt hlt, hbefore⟩)
  · exact List.eq_nil_iff_forall_not_mem.mp hnew r (Window.mem_rows.mpr ⟨hmem, hafter, hle⟩)

/-- Moving the start of a window forward keeps the later rows. -/
theorem Window.rows_filter_lt {t : Instant} (ht : w.since ≤ t) :
    (w.rows table).filter (fun r => t < time r) = Window.rows ⟨t, w.upTo⟩ table := by
  rw [Window.rows, Window.rows, List.filter_filter]
  refine List.filter_congr fun r _ => ?_
  by_cases htr : t < time r
  · simp [Window.contains, htr, ht.trans_lt htr]
  · simp [Window.contains, htr]

/-- Moving the end of a window back keeps the earlier rows. -/
theorem Window.rows_filter_le {t : Instant} (ht : t ≤ w.upTo) :
    (w.rows table).filter (fun r => time r ≤ t) = Window.rows ⟨w.since, t⟩ table := by
  rw [Window.rows, Window.rows, List.filter_filter]
  refine List.filter_congr fun r _ => ?_
  by_cases hr : time r ≤ t
  · simp [Window.contains, hr, hr.trans ht]
  · simp [Window.contains, hr]

/-- A window can be split at any instant in it. -/
theorem Window.filter_le_append_rows (asc : Ascending table) {t : Instant} (ht : w.since ≤ t) :
    (w.rows table).filter (fun r => time r ≤ t) ++ Window.rows ⟨t, w.upTo⟩ table
      = w.rows table := by
  have hrows : Ascending (w.rows table) := asc.filter _
  rw [← Window.rows_filter_lt ht]
  exact hrows.filter_le_append_filter_lt t

/-- **A window in two parts.** -/
theorem Window.rows_append (asc : Ascending table) {t : Instant} (hs : w.since ≤ t)
    (hu : t ≤ w.upTo) :
    Window.rows ⟨w.since, t⟩ table ++ Window.rows ⟨t, w.upTo⟩ table = w.rows table := by
  rw [← Window.filter_le_append_rows asc hs, Window.rows_filter_le hu]

end Rows

end Ingest
