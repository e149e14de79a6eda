import Ingest.Proofs.TimeOrder
import Ingest.Staged
import Mathlib.Data.List.Perm.Subperm

/-!
# Proofs/Staged — what a stage owes to the loader behind it

A stage may merge the rows of its input into groups and hold these back. What it sends is *backed*
by its input if every row sent is such a group, no input row is in two of them, and a loader that
meets a later timestamp may take the last bound it was given: all input up to there has left the
stage. Main statement: `Backed.groups` — what this says of any prefix of the stream.
-/

namespace Ingest

variable {ρ : Type} [Timed ρ]

/-! ## Staged rows -/

/-- How far a checkpoint may move once a row and everything before it is committed. -/
def Staged.bound (it : Staged ρ) : Instant := it.settled.elim (time it.row) (min (time it.row))

theorem Staged.bound_le (it : Staged ρ) : it.bound ≤ time it.row := by
  rcases it with ⟨row, _ | t⟩
  · exact le_rfl
  · exact min_le_left _ _

/-- What follows a row in a stream, if anything, is a row with a later timestamp. -/
def Staged.NextLater (it : Staged ρ) (rest : List (Except Error (Staged ρ))) : Prop :=
  ∀ entry ∈ rest.head?, ∃ next, entry = .ok next ∧ time it.row < time next.row

theorem Staged.nextLater_nil (it : Staged ρ) : it.NextLater [] := fun _ h => by simp at h

theorem Staged.nextLater_cons {it next : Staged ρ} {rest : List (Except Error (Staged ρ))} :
    it.NextLater (.ok next :: rest) ↔ time it.row < time next.row := by
  simp [Staged.NextLater]

/-! ## Backed streams -/

/-- A stream is backed by the rows `xs`, those in `left` having left before it: its rows are groups
of further rows of `xs`, and where a later row follows, everything up to the bound has left. -/
def Backed (makes : List ρ → ρ → Prop) (xs : List ρ) :
    List ρ → List (Except Error (Staged ρ)) → Prop
  | left, .ok it :: rest => ∃ members, makes members it.row ∧ (left ++ members).Subperm xs ∧
      (it.NextLater rest → (Window.rows ⟨.earliest, it.bound⟩ xs).Subperm (left ++ members)) ∧
      Backed makes xs (left ++ members) rest
  | _, _ => True

variable {makes : List ρ → ρ → Prop} {xs left : List ρ}

theorem Backed.nil : Backed makes xs left [] := trivial

/-- **The groups of a prefix.** They are disjoint in `xs`, and they hold everything up to the bound
of each row of the prefix that has a later successor. -/
theorem Backed.groups {done : List (Staged ρ)} {rest : List (Except Error (Staged ρ))}
    (h : Backed makes xs left (done.map .ok ++ rest)) (hleft : left.Subperm xs) :
    ∃ groups : List (List ρ × ρ), groups.map (·.2) = done.map (·.row) ∧
      (∀ g ∈ groups, makes g.1 g.2) ∧ (left ++ groups.flatMap (·.1)).Subperm xs ∧
      ∀ front it back, done = front ++ it :: back → it.NextLater (back.map .ok ++ rest) →
        (Window.rows ⟨.earliest, it.bound⟩ xs).Subperm (left ++ groups.flatMap (·.1)) := by
  induction done generalizing left with
  | nil => exact ⟨[], rfl, by simp, by simpa using hleft, by simp⟩
  | cons head tail ih =>
    obtain ⟨members, hmakes, hsub, hbound, htail⟩ := h
    obtain ⟨groups, hrows, hgroups, hall, hcover⟩ := ih htail hsub
    refine ⟨(members, head.row) :: groups, by simp [hrows], ?_, by simpa using hall, ?_⟩
    · rintro g (_ | ⟨_, hg⟩)
      · exact hmakes
      · exact hgroups g hg
    · intro front it back hsplit hnext
      rw [List.flatMap_cons, ← List.append_assoc]
      rcases front with _ | ⟨_, front⟩
      · obtain ⟨rfl, rfl⟩ : head = it ∧ tail = back := by simpa using hsplit
        exact (hbound hnext).trans (List.sublist_append_left _ _).subperm
      · obtain ⟨rfl, rfl⟩ : head = _ ∧ tail = front ++ it :: back := by simpa using hsplit
        exact hcover front it back rfl hnext

omit [Timed ρ] in
theorem Stage.direct_transform (xs : List ρ) :
    (Stage.direct ρ).transform (xs.map .ok) = (xs.map fun r => ⟨r, none⟩).map .ok := by
  simp only [Stage.direct, List.map_map]
  rfl

/-- A row that is passed on at once is a group of its own. -/
theorem Stage.direct_backed (asc : Ascending xs) :
    Backed (fun members r => members = [r]) xs [] ((Stage.direct ρ).transform (xs.map .ok)) := by
  suffices h : ∀ read todo, xs = read ++ todo → Backed (fun members r => members = [r]) xs read
      ((Stage.direct ρ).transform (todo.map .ok)) from h [] xs rfl
  intro read todo
  induction todo generalizing read with
  | nil => exact fun _ => Backed.nil
  | cons r todo ih =>
    intro hxs
    have hxs' : xs = (read ++ [r]) ++ todo := by simpa using hxs
    refine ⟨[r], rfl, hxs' ▸ (List.sublist_append_left _ _).subperm, fun hnext => ?_, ih _ hxs'⟩
    have hnone : Window.rows ⟨.earliest, time r⟩ todo = [] := by
      rcases todo with _ | ⟨s, todo⟩
      · rfl
      have hrs : time r < time s := Staged.nextLater_cons.mp hnext
      have hlater : ∀ x ∈ s :: todo, time s ≤ time x := by
        rw [hxs] at asc
        have hs := (List.pairwise_cons.mp (List.pairwise_append.mp asc).2.1).2
        rintro x (_ | ⟨_, hx⟩)
        · exact le_rfl
        · exact (List.pairwise_cons.mp hs).1 x hx
      refine List.eq_nil_iff_forall_not_mem.mpr fun x hx => ?_
      obtain ⟨hx, -, hle⟩ := Window.mem_rows.mp hx
      exact absurd (hrs.trans_le (hlater x hx)) (not_lt.mpr hle)
    have hrows : Window.rows ⟨.earliest, time r⟩ xs
        = Window.rows ⟨.earliest, time r⟩ (read ++ [r]) := by
      rw [hxs', Window.rows, List.filter_append, ← Window.rows, ← Window.rows, hnone,
        List.append_nil]
    change (Window.rows ⟨.earliest, time r⟩ xs).Subperm (read ++ [r])
    rw [hrows]
    exact List.filter_sublist.subperm

end Ingest
