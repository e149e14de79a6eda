import Ingest.Proofs.Loading.Breaking

/-!
# Proofs/Loading/Reach — how far a result reaches, and why

The books of a loader (`Books`) belong to a front of the stream that it read (`Reads.books`). On a
stream whose rows ascend they justify the result. Main statement: `upTo_justified` — a result that
moved is the bound of a row that was read, all wanted rows up to that row are committed, and all
rows after it are later.
-/

namespace Ingest

variable {ω ρ : Type}

/-- The rows of a stream, without its errors. -/
def rowsOf (items : List (Except Error (Staged ρ))) : List ρ :=
  items.filterMap fun entry => entry.toOption.map (·.row)

@[simp] theorem rowsOf_append (a b : List (Except Error (Staged ρ))) :
    rowsOf (a ++ b) = rowsOf a ++ rowsOf b := List.filterMap_append

@[simp] theorem rowsOf_cons_ok (item : Staged ρ) (rest : List (Except Error (Staged ρ))) :
    rowsOf (.ok item :: rest) = item.row :: rowsOf rest := rfl

@[simp] theorem rowsOf_cons_error (err : Error) (rest : List (Except Error (Staged ρ))) :
    rowsOf (.error err :: rest) = rowsOf rest := rfl

@[simp] theorem rowsOf_nil : rowsOf ([] : List (Except Error (Staged ρ))) = [] := rfl

@[simp] theorem rowsOf_map_ok (rows : List (Staged ρ)) :
    rowsOf (rows.map .ok) = rows.map (·.row) := by
  rw [rowsOf, List.filterMap_map]
  exact congrFun (List.filterMap_eq_map (f := fun it : Staged ρ => it.row)) rows

namespace Loading

variable [Timed ρ] {sink : Sink ω ρ} {e : Execution} {items front : List (Except Error (Staged ρ))}
  {s : State ρ} {w : ω} {v : ω × List (Commit ρ × Attempt CommitReply)}

/-- **The books while reading**: what was read is done, or opened after the last commit. -/
theorem Reads.books (h : Reads sink.logged e (w, []) front s v)
    (todo : List (Except Error (Staged ρ))) :
    ∃ done opened : List (Staged ρ), front = (done ++ opened).map .ok ∧
      Books sink.logged e (front ++ todo) done (opened.map .ok ++ todo) (committedBatches v.2)
        s.total.upTo ∧
      Reading sink.logged e done opened s := by
  induction h generalizing todo with
  | start =>
    exact ⟨[], [], rfl, ⟨rfl, rfl, le_rfl, by simp, fun h => absurd h (lt_irrefl _)⟩,
      ⟨rfl, rfl, rfl, by simp⟩⟩
  | @next front entry s s' v v' _ hstep ih =>
    obtain ⟨done, opened, hfront, hbooks, hreading⟩ := ih (entry :: todo)
    obtain ⟨commits, hperf, hcase⟩ := step_books (w := v) hbooks hreading
    rw [hstep] at hperf hcase
    rcases hcase with ⟨done', front', it, -, -, hbooks', hreading'⟩ | ⟨ending, hending, -⟩
    · rw [← committedBatches_append, ← hperf.logged.2, List.append_cons] at hbooks'
      refine ⟨done', front' ++ [it], ?_, hbooks', hreading'⟩
      have hsplit := hbooks'.split
      rw [← List.append_assoc, ← List.map_append] at hsplit
      exact List.append_cancel_right hsplit
    · cases hending

/-- A log leaves the books as they are. -/
theorem Books.of_logged {done : List (Staged ρ)} {rest : List (Except Error (Staged ρ))}
    {batches : List (List ρ)} {upTo : Instant}
    (h : Books sink.logged e items done rest batches upTo) :
    Books sink e items done rest batches upTo :=
  ⟨h.split, h.flatten_batches, h.since_le, h.bound_le, h.reached⟩

/-- **The books at the end of a run** are about rows that were read. -/
theorem run_reach (sink : Sink ω ρ) (e : Execution) (items : List (Except Error (Staged ρ)))
    (w : ω) :
    ∃ (done more : List (Staged ρ)) (rest : List (Except Error (Staged ρ))) (s s₀ : State ρ)
      (w₀ : ω) (ending : Ending), Reads sink e w ((done ++ more).map .ok) s₀ w₀ ∧
      (run sink e items w).1 = conclude s ending ∧
      ((∀ p, ending ≠ .panicked p) →
        Books sink e items done rest (committedBatches (handed sink e items w))
          s.total.upTo) := by
  obtain ⟨front, rest, s₀, v, rfl, hreads, hend⟩ := run_cases sink.logged e items (w, [])
  obtain ⟨w₀, hplain, -⟩ := hreads.map sink.logged_like rfl
  obtain ⟨done, opened, rfl, hbooks, hreading⟩ := hreads.books rest
  rw [run_logged, handed]
  rcases hend with ⟨hpast, hrun⟩ | ⟨entry, back, s, ending, v', rfl, hstep, hne, hrun⟩
  · have hnext : ∀ it, (done ++ opened).getLast? = some it → it.NextLater rest := by
      intro it hit
      rcases rest with _ | ⟨err | item, rest⟩
      · exact it.nextLater_nil
      · exact hpast.elim
      · exact hreading.nextLater (not_le.mpr hpast.2.1) hpast.2.2 hit
    obtain ⟨commits, done', rest', hperf, ⟨more, hmore⟩, hbooks'⟩ :=
      finish_books hbooks hreading hnext v
    rw [← committedBatches_append, ← hperf.logged.2] at hbooks'
    rw [hrun]
    exact ⟨done', more, rest', _, s₀, w₀, _, hmore ▸ hplain, rfl,
      fun hend => (hbooks' hend).of_logged⟩
  · obtain ⟨commits, hperf, hcase⟩ := step_books (w := v) hbooks hreading
    rw [hstep] at hperf hcase
    rcases hcase with ⟨-, -, -, -, hnone, -⟩ | ⟨ending', hending, hstop⟩
    · cases hnone
    obtain rfl : ending = ending' := Option.some.inj hending
    rw [← committedBatches_append, ← hperf.logged.2] at hstop
    rw [hrun]
    exact ⟨done, opened, _, _, s₀, w₀, _, hplain, rfl, fun hend => (hstop.books hend).of_logged⟩

/-! ## Rows that ascend -/

/-- In ascending rows, all rows are later if the next one is. -/
theorem lt_of_nextLater {it : Staged ρ} {rest : List (Except Error (Staged ρ))}
    (asc : Ascending (rowsOf rest)) (h : it.NextLater rest) :
    ∀ x ∈ rowsOf rest, time it.row < time x := by
  rcases rest with _ | ⟨entry, rest⟩
  · intro x hx
    cases hx
  obtain ⟨next, rfl, hlt⟩ := h entry rfl
  rw [rowsOf_cons_ok] at asc ⊢
  intro x hx
  rcases List.mem_cons.mp hx with rfl | hx
  · exact hlt
  · exact hlt.trans_le ((List.pairwise_cons.mp asc).1 x hx)

/-- The row that a result reaches: it was read, everything wanted up to it is committed and
everything after it is later. -/
structure ReachedAt (sink : Sink ω ρ) (e : Execution) (items : List (Except Error (Staged ρ)))
    (w : ω) (committed : List ρ) (upTo : Instant) (front : List (Staged ρ)) (it : Staged ρ)
    (rest : List (Except Error (Staged ρ))) : Prop where
  split : items = front.map .ok ++ .ok it :: rest
  read : ∃ s w₁, Reads sink e w ((front ++ [it]).map .ok) s w₁
  bound : upTo = it.bound
  committed : sink.wanted e (front ++ [it]) <+: committed
  later : ∀ x ∈ rowsOf rest, time it.row < time x

/-- A result that moved reaches a row. -/
theorem Books.exists_reachedAt {done more : List (Staged ρ)}
    {rest : List (Except Error (Staged ρ))} {batches : List (List ρ)} {upTo : Instant}
    {s₀ : State ρ} {w₀ : ω} (h : Books sink e items done rest batches upTo)
    (asc : Ascending (rowsOf items)) (hreads : Reads sink e w ((done ++ more).map .ok) s₀ w₀)
    (hlt : e.window.since < upTo) :
    ∃ front it rest', ReachedAt sink e items w batches.flatten upTo front it rest' := by
  obtain ⟨front, it, back, hdone, hbound, hnext⟩ := h.reached hlt
  have hsplit : items = front.map .ok ++ .ok it :: (back.map .ok ++ rest) := by
    rw [h.split, hdone]
    simp
  refine ⟨front, it, back.map .ok ++ rest, hsplit, ?_, hbound.symm, ?_, ?_⟩
  · have hread : (done ++ more).map .ok
        = (front ++ [it]).map Except.ok ++ (back ++ more).map (.ok : _ → Except Error _) := by
      rw [hdone]
      simp
    exact (hread ▸ hreads).of_append
  · have hdone' : done = front ++ [it] ++ back := by simp [hdone]
    rw [h.flatten_batches, hdone', Sink.wanted_append _ _ (front ++ [it])]
    exact List.prefix_append _ _
  · have hrows : rowsOf items
        = rowsOf (front.map .ok ++ [.ok it]) ++ rowsOf (back.map .ok ++ rest) := by
      rw [← rowsOf_append, hsplit]
      simp
    exact lt_of_nextLater (asc.sublist (hrows ▸ List.sublist_append_right _ _)) hnext

section ReachedAt

variable {committed : List ρ} {upTo : Instant} {front : List (Staged ρ)} {it : Staged ρ}
  {rest : List (Except Error (Staged ρ))}

/-- A row that was read is not after the window. -/
theorem ReachedAt.upTo_le (h : ReachedAt sink e items w committed upTo front it rest) :
    upTo ≤ max e.window.since e.window.upTo := by
  obtain ⟨s, w₁, hreads⟩ := h.read
  obtain ⟨rows, hrows, hwithin⟩ := hreads.within
  obtain rfl := List.map_injective_iff.mpr (fun _ _ => Except.ok.inj) hrows
  refine h.bound.trans_le (it.bound_le.trans ?_)
  rcases hwithin it (by simp) with hle | hle
  · exact hle.trans (le_max_left _ _)
  · exact hle.trans (le_max_right _ _)

/-- **All wanted rows up to the result are committed.** -/
theorem ReachedAt.sublist (h : ReachedAt sink e items w committed upTo front it rest) :
    ((Window.rows ⟨e.window.since, upTo⟩ (rowsOf items)).filter sink.processable).Sublist
      committed := by
  have hrows : rowsOf items = (front ++ [it]).map (·.row) ++ rowsOf rest := by
    rw [h.split]
    simp
  have hrest : Window.rows ⟨e.window.since, upTo⟩ (rowsOf rest) = [] :=
    List.eq_nil_iff_forall_not_mem.mpr fun x hx => by
      obtain ⟨hx, -, hle⟩ := Window.mem_rows.mp hx
      exact (h.later x hx).not_ge (hle.trans (h.bound.trans_le it.bound_le))
  rw [hrows, Window.rows, List.filter_append, ← Window.rows, ← Window.rows, hrest,
    List.append_nil, Window.rows, List.filter_filter]
  refine List.Sublist.trans (List.monotone_filter_right _ fun x hx => ?_) h.committed.sublist
  obtain ⟨hp, hx⟩ := Bool.and_eq_true_iff.mp hx
  exact Bool.and_eq_true_iff.mpr ⟨(Bool.and_eq_true_iff.mp hx).1, hp⟩

end ReachedAt

/-- **A result is justified.** On a stream whose rows ascend it lies between the start of the window
and the later of its two ends. If it moved, it is the bound of a row that the loader read; the
wanted rows up to that row are committed, and every row after it is later. So every wanted row up to
the result is committed. A loader without a result broke off, and its log says why. -/
theorem upTo_justified (sink : Sink ω ρ) (e : Execution)
    (items : List (Except Error (Staged ρ))) (w : ω) (asc : Ascending (rowsOf items)) :
    let committed := (committedBatches (handed sink e items w)).flatten
    match (run sink e items w).1.result with
    | .error p => Broken (greedyBatches e.batchSize (due sink e none items)).length
        (handed sink e items w) p
    | .ok r =>
      e.window.since ≤ r.upTo ∧ r.upTo ≤ max e.window.since e.window.upTo ∧
      (e.window.since < r.upTo →
        ∃ front it rest, ReachedAt sink e items w committed r.upTo front it rest) ∧
      ((Window.rows ⟨e.window.since, r.upTo⟩ (rowsOf items)).filter sink.processable).Sublist
        committed := by
  obtain ⟨done, more, rest, s, s₀, w₀, ending, hreads, hrun, hbooks⟩ := run_reach sink e items w
  intro committed
  rcases hresult : (run sink e items w).1.result with p | r
  · exact run_broken hresult
  rw [hrun] at hresult
  have hbooks := hbooks (ne_panicked_of_conclude hresult)
  rw [← upTo_of_conclude hresult] at hbooks
  have hreached := hbooks.exists_reachedAt asc hreads
  refine ⟨hbooks.since_le, ?_, hreached, ?_⟩
  · rcases hbooks.since_le.eq_or_lt with heq | hlt
    · exact heq ▸ le_max_left _ _
    · obtain ⟨front, it, rest', hat⟩ := hreached hlt
      exact hat.upTo_le
  · rcases hbooks.since_le.eq_or_lt with heq | hlt
    · rw [Window.rows_eq_nil (by simp [← heq])]
      exact List.nil_sublist _
    · obtain ⟨front, it, rest', hat⟩ := hreached hlt
      exact hat.sublist

/-- A sink that takes the first batch and turns the others down. -/
def onlyFirst : Sink Unit Row where
  name := "sink"
  processable _ := true
  commit c := pure (.ok (if c.batch = 1 then .committed c.rows.length 0 else .rejected none))
  deleteAll _ := pure (.ok ())

/-- The first row is settled up to an earlier instant, the second batch is lost and an error
follows: the result reaches the bound of the first row. -/
theorem upTo_justified_onlyFirst :
    let e : Execution := ⟨"g", ⟨.atSecond 1, .atSecond 9⟩, 1⟩
    let items : List (Except Error (Staged Row)) :=
      [.ok ⟨⟨.atSecond 3, ∅⟩, some (.atSecond 2)⟩, .ok ⟨⟨.atSecond 4, ∅⟩, none⟩,
        .ok ⟨⟨.atSecond 5, ∅⟩, none⟩, .error (.extraction "lost")]
    Ascending (rowsOf items) ∧ ∃ r, (run onlyFirst e items ()).1.result = .ok r ∧
      r.upTo = .atSecond 2 ∧ ∃ front it rest, ReachedAt onlyFirst e items ()
        (committedBatches (handed onlyFirst e items ())).flatten (.atSecond 2) front it rest := by
  intro e items
  have asc : Ascending (rowsOf items) := by decide +kernel
  have hupTo : (run onlyFirst e items ()).1.result.toOption.map (·.upTo)
      = some (.atSecond 2) := by decide +kernel
  have hjust := upTo_justified onlyFirst e items () asc
  rcases hresult : (run onlyFirst e items ()).1.result with p | r
  · rw [hresult] at hupTo
    cases hupTo
  · rw [hresult] at hupTo hjust
    have hr : r.upTo = .atSecond 2 := Option.some.inj hupTo
    have hmoved : e.window.since < r.upTo := hr ▸ by decide +kernel
    exact ⟨asc, r, rfl, hr, hr ▸ hjust.2.2.1 hmoved⟩

end Loading

end Ingest
