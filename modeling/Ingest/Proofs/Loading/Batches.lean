import Ingest.Proofs.Loading.Course
import Mathlib.Data.List.SplitBy

/-!
# Proofs/Loading/Batches — the batches are the greedy ones

The rows that are due, cut into runs of equal timestamps, fill one batch after the other: a batch
ends with the run that brings it to its size (`greedyBatches`). The loader decides on the timestamp
of the last row of any kind and commits one row late. Main statement: `commits_are_greedy` — it
commits these batches all the same, in their order and with their numbers.
-/

namespace Ingest

variable {ω ρ : Type} [Timed ρ]

/-! ## Greedy batches -/

/-- Every row of `a` has an earlier timestamp than every row of `b`. -/
def Sooner (a b : List ρ) : Prop := ∀ x ∈ a, ∀ y ∈ b, time x < time y

/-- The rows in runs of equal timestamps. -/
def timeRuns (rows : List ρ) : List (List ρ) := rows.splitBy fun a b => time a = time b

omit [Timed ρ] in
/-- Adds whole runs to the batch `opened`, and closes it with the run that brings it to `size`. -/
def gatherRuns (size : Nat) : List ρ → List (List ρ) → List (List ρ)
  | opened, [] => if opened.isEmpty then [] else [opened]
  | opened, run :: runs =>
    if size ≤ (opened ++ run).length then (opened ++ run) :: gatherRuns size [] runs
    else gatherRuns size (opened ++ run) runs

/-- The rows in batches of at least `size` rows (zero counts as one) that end between two
timestamps; the last batch may be smaller. -/
def greedyBatches (size : Nat) (rows : List ρ) : List (List ρ) :=
  gatherRuns (max size 1) [] (timeRuns rows)

section Greedy

variable {size : Nat} {rows more opened : List ρ} {runs : List (List ρ)} {last : Instant}

/-- Rows that are sooner do not tie with those that come later. -/
theorem timeRuns_append (h : Sooner rows more) :
    timeRuns (rows ++ more) = timeRuns rows ++ timeRuns more :=
  List.splitBy_append fun x hx y hy => by
    simpa using (h x (List.mem_of_getLast? hx) y (List.mem_of_head? hy)).ne

/-- Rows of one timestamp are one run. -/
theorem timeRuns_of_tied (hne : rows ≠ []) (h : ∀ r ∈ rows, time r = last) :
    timeRuns rows = [rows] := by
  refine List.splitBy_of_isChain hne (List.Pairwise.isChain ?_)
  exact List.pairwise_of_forall_mem_list fun x hx y hy => by simp [h x hx, h y hy]

/-- A later run starts after the run before it ends. -/
theorem pairwise_sooner_timeRuns (asc : Ascending rows) : (timeRuns rows).Pairwise Sooner := by
  have hchain := List.isChain_getLast_head_splitBy (fun a b : ρ => time a = time b) rows
  rw [← List.flatten_splitBy (fun a b : ρ => time a = time b) rows] at asc
  change (timeRuns rows).IsChain _ at hchain
  change Ascending (timeRuns rows).flatten at asc
  generalize timeRuns rows = runs at hchain asc
  induction runs with
  | nil => exact .nil
  | cons a runs ih =>
    obtain ⟨hfirst, hruns, hcross⟩ := List.pairwise_append.mp asc
    refine List.pairwise_cons.mpr ⟨fun b hb x hx y hy => ?_, ih hchain.tail hruns⟩
    -- the run after `a` has a first row: it is later than `a`, and nothing is sooner than it
    obtain ⟨c, runs, rfl⟩ := List.exists_cons_of_ne_nil (List.ne_nil_of_mem hb)
    obtain ⟨ha, hc, hne⟩ := (List.isChain_cons.mp hchain).1 c rfl
    obtain ⟨first, c, rfl⟩ := List.exists_cons_of_ne_nil hc
    have hlast : time x ≤ time (a.getLast ha) :=
      Ascending.le_getLast hfirst (List.getLast?_eq_some_getLast ha) hx
    have hgap : time (a.getLast ha) < time first :=
      lt_of_le_of_ne (hcross _ (List.getLast_mem ha) first (by simp)) (of_decide_eq_false hne)
    refine hlast.trans_lt (hgap.trans_le ?_)
    have hy : y ∈ first :: (c ++ runs.flatten) := List.mem_flatten.mpr ⟨b, hb, hy⟩
    rcases List.mem_cons.mp hy with rfl | hy
    · exact le_rfl
    · exact (List.pairwise_cons.mp hruns).1 y hy

omit [Timed ρ] in
/-- Gathering keeps all rows, in their order. -/
theorem flatten_gatherRuns (size : Nat) (opened : List ρ) (runs : List (List ρ)) :
    (gatherRuns size opened runs).flatten = opened ++ runs.flatten := by
  induction runs generalizing opened with
  | nil => cases opened <;> simp [gatherRuns]
  | cons run runs ih =>
    rw [gatherRuns]
    split
    · simp [ih]
    · simp [ih]

omit [Timed ρ] in
/-- Runs that leave the batch short are gathered. -/
theorem gatherRuns_append_of_short (h : (opened ++ runs.flatten).length < size)
    (rest : List (List ρ)) :
    gatherRuns size opened (runs ++ rest) = gatherRuns size (opened ++ runs.flatten) rest := by
  induction runs generalizing opened with
  | nil => simp
  | cons run runs ih =>
    have hassoc : opened ++ (run :: runs).flatten = opened ++ run ++ runs.flatten := by simp
    rw [hassoc] at h ⊢
    have hrun : ¬size ≤ (opened ++ run).length := by
      rw [List.length_append] at h
      omega
    rw [List.cons_append, gatherRuns, if_neg hrun, ih h]

/-- No timestamp is in two batches. -/
theorem pairwise_sooner_gatherRuns (h : (opened :: runs).Pairwise Sooner) :
    (gatherRuns size opened runs).Pairwise Sooner := by
  induction runs generalizing opened with
  | nil =>
    rw [gatherRuns]
    split <;> simp
  | cons run runs ih =>
    obtain ⟨hopened, hrun⟩ := List.pairwise_cons.mp h
    obtain ⟨hlater, hruns⟩ := List.pairwise_cons.mp hrun
    have hall : ∀ b ∈ runs, Sooner (opened ++ run) b := fun b hb x hx =>
      (List.mem_append.mp hx).elim (hopened b (List.mem_cons_of_mem _ hb) x) (hlater b hb x)
    rw [gatherRuns]
    split
    · refine List.pairwise_cons.mpr ⟨fun b hb x hx y hy => ?_, ih ?_⟩
      · have hmem : y ∈ (gatherRuns size [] runs).flatten := List.mem_flatten.mpr ⟨b, hb, hy⟩
        rw [flatten_gatherRuns, List.nil_append] at hmem
        obtain ⟨run', hrun', hy⟩ := List.mem_flatten.mp hmem
        exact hall run' hrun' x hx y hy
      · exact List.pairwise_cons.mpr ⟨fun _ _ _ hx => by simp at hx, hruns⟩
    · exact ih (List.pairwise_cons.mpr ⟨hall, hruns⟩)

/-- **No timestamp is in two batches.** -/
theorem pairwise_sooner_greedyBatches (asc : Ascending rows) :
    (greedyBatches size rows).Pairwise Sooner :=
  pairwise_sooner_gatherRuns
    (List.pairwise_cons.mpr ⟨fun _ _ _ hx => by simp at hx, pairwise_sooner_timeRuns asc⟩)

/-- A batch of two takes in the third row, which has the timestamp of the second. -/
example : (greedyBatches 2 ([1, 2, 2, 3].map fun t => (⟨.atSecond t, ∅⟩ : Row))).map List.length
    = [3, 1] := by decide +kernel

/-- **A full batch is the first one**: its rows before the last timestamp would not fill it, and
what follows is later. -/
theorem greedyBatches_append (asc : Ascending rows) (hle : ∀ r ∈ rows, time r ≤ last)
    (hshort : (rows.filter fun r => time r < last).length < max size 1)
    (hfull : max size 1 ≤ rows.length) (hlater : Sooner rows more) :
    greedyBatches size (rows ++ more) = rows :: greedyBatches size more := by
  -- the rows at the last timestamp are the run that fills the batch
  have hsplit := asc.filter_lt_append_filter_eq hle
  have hbefore : ∀ x ∈ rows.filter (fun r => time r < last), time x < last := by simp
  have hat : ∀ x ∈ rows.filter (fun r => time r = last), time x = last := by simp
  generalize rows.filter (fun r => time r < last) = early at hshort hsplit hbefore
  generalize rows.filter (fun r => time r = last) = tied at hsplit hat
  have hne : tied ≠ [] := by
    rintro rfl
    rw [List.append_nil] at hsplit
    exact (hsplit ▸ hshort).not_ge hfull
  have hsooner : Sooner early tied := fun x hx y hy => (hat y hy).symm ▸ hbefore x hx
  have hflat : (timeRuns early).flatten = early := List.flatten_splitBy _ _
  subst hsplit
  rw [greedyBatches, timeRuns_append hlater, timeRuns_append hsooner, timeRuns_of_tied hne hat,
    List.append_assoc, gatherRuns_append_of_short (by rwa [List.nil_append, hflat]), hflat,
    List.nil_append, List.singleton_append, gatherRuns, if_pos hfull]
  rfl

/-- What is left at the end is one batch. -/
theorem greedyBatches_of_short (asc : Ascending rows) (hle : ∀ r ∈ rows, time r ≤ last)
    (hshort : (rows.filter fun r => time r < last).length < max size 1) :
    greedyBatches size rows = if rows.isEmpty then [] else [rows] := by
  by_cases hfull : max size 1 ≤ rows.length
  · have hne : rows ≠ [] := by
      rintro rfl
      simp at hfull
    have hlater : Sooner rows [] := fun _ _ _ h => by simp at h
    have hall := greedyBatches_append asc hle hshort hfull hlater
    rw [List.append_nil] at hall
    rw [hall, if_neg (by simpa using hne)]
    rfl
  · have hflat : (timeRuns rows).flatten = rows := List.flatten_splitBy _ _
    rw [greedyBatches, ← List.append_nil (timeRuns rows),
      gatherRuns_append_of_short (by rw [List.nil_append, hflat]; omega), hflat, List.nil_append,
      gatherRuns]

/-- Rows of one timestamp are one batch at most. -/
theorem length_greedyBatches_le_one (hat : ∀ r ∈ rows, time r = last) :
    (greedyBatches size rows).length ≤ 1 := by
  have asc : Ascending rows := List.pairwise_of_forall_mem_list fun x hx y hy =>
    ((hat x hx).trans (hat y hy).symm).le
  have hnone : rows.filter (fun r => time r < last) = [] :=
    List.filter_eq_nil_iff.mpr fun r hr => by simp [hat r hr]
  rw [greedyBatches_of_short asc (fun r hr => (hat r hr).le) (by rw [hnone]; simp)]
  split_ifs <;> simp

/-- Rows that fill a batch, one of them at their last timestamp, and then rows of one later
timestamp are two batches at most. -/
theorem length_greedyBatches_le_two {t : Instant} (asc : Ascending rows)
    (hle : ∀ r ∈ rows, time r ≤ last) (hlast : ∃ r ∈ rows, time r = last)
    (hmore : ∀ r ∈ more, time r = t) (hlt : last < t) :
    (greedyBatches rows.length (rows ++ more)).length ≤ 2 := by
  obtain ⟨r, hr, hrlast⟩ := hlast
  have hsize : max rows.length 1 = rows.length := max_eq_left (List.length_pos_of_mem hr)
  have hshort : (rows.filter fun r => time r < last).length < max rows.length 1 := by
    rw [hsize, List.length_filter_lt_length_iff_exists]
    exact ⟨r, hr, by simp [hrlast]⟩
  have hlater : Sooner rows more := fun x hx y hy => hmore y hy ▸ (hle x hx).trans_lt hlt
  rw [greedyBatches_append asc hle hshort hsize.le hlater, List.length_cons]
  exact Nat.succ_le_succ (length_greedyBatches_le_one hmore)

end Greedy

namespace Loading

/-! ## The rows that are due -/

/-- The rows of a stream up to the first error, the first row that descends and the first row after
`upTo`; `last` is the timestamp of the row before. -/
def readable (upTo : Instant) : Option Instant → List (Except Error (Staged ρ)) → List ρ
  | last, .ok item :: rest =>
    if (∃ t ∈ last, time item.row < t) ∨ upTo < time item.row then []
    else item.row :: readable upTo (some (time item.row)) rest
  | _, _ => []

/-- The readable rows of the window that the sink can process. -/
def due (sink : Sink ω ρ) (e : Execution) (last : Option Instant)
    (items : List (Except Error (Staged ρ))) : List ρ :=
  (readable e.window.upTo last items).filter fun r =>
    e.window.contains (time r) && sink.processable r

section Due

variable {sink : Sink ω ρ} {e : Execution} {s : State ρ} {item : Staged ρ}
  {rest : List (Except Error (Staged ρ))} {upTo : Instant} {last : Option Instant}

/-- What a loader reads is ascending. -/
theorem readable_ascending (upTo : Instant) (last : Option Instant)
    (items : List (Except Error (Staged ρ))) :
    Ascending (readable upTo last items) ∧
      ∀ t ∈ last, ∀ r ∈ readable upTo last items, t ≤ time r := by
  induction items generalizing last with
  | nil => exact ⟨.nil, by simp [readable]⟩
  | cons entry rest ih =>
    rcases entry with err | item
    · exact ⟨.nil, by simp [readable]⟩
    rw [readable]
    split_ifs with hstop
    · exact ⟨.nil, by simp⟩
    obtain ⟨hasc, hle⟩ := ih (some (time item.row))
    have hrest := hle _ rfl
    refine ⟨List.pairwise_cons.mpr ⟨hrest, hasc⟩, fun t ht r hr => ?_⟩
    have hitem : t ≤ time item.row := not_lt.mp fun hlt => hstop (.inl ⟨t, ht, hlt⟩)
    rcases List.mem_cons.mp hr with rfl | hr
    · exact hitem
    · exact hitem.trans (hrest r hr)

/-- An ascending front up to `upTo` is readable. -/
theorem readable_append {front : List (Staged ρ)}
    (asc : front.Pairwise fun x y => time x.row ≤ time y.row)
    (hup : ∀ it ∈ front, time it.row ≤ upTo) (hlast : ∀ t ∈ last, ∀ it ∈ front, t ≤ time it.row)
    (rest : List (Except Error (Staged ρ))) :
    readable upTo last (front.map .ok ++ rest) = front.map (·.row) ++
      readable upTo ((front.getLast?.map fun it => time it.row).or last) rest := by
  induction front generalizing last with
  | nil => rfl
  | cons it front ih =>
    obtain ⟨hle, asc⟩ := List.pairwise_cons.mp asc
    obtain ⟨hit, hup⟩ := List.forall_mem_cons.mp hup
    have hstop : ¬((∃ t ∈ last, time it.row < t) ∨ upTo < time it.row) := by
      rintro (⟨t, ht, hlt⟩ | hlt)
      · exact hlt.not_ge (hlast t ht it List.mem_cons_self)
      · exact hlt.not_ge hit
    have hfirst : ∀ t ∈ some (time it.row), ∀ x ∈ front, t ≤ time x.row := by
      simpa using hle
    rw [List.map_cons, List.cons_append, readable, if_neg hstop, ih asc hup hfirst,
      List.getLast?_cons]
    cases front.getLast? <;> rfl

/-- What is wanted of an ascending front up to the end of the window is due before the rest. -/
theorem due_append {front : List (Staged ρ)}
    (asc : front.Pairwise fun x y => time x.row ≤ time y.row)
    (hup : ∀ it ∈ front, time it.row ≤ e.window.upTo) (rest : List (Except Error (Staged ρ))) :
    due sink e none (front.map .ok ++ rest) = sink.wanted e front ++
      due sink e (front.getLast?.map fun it => time it.row) rest := by
  rw [due, readable_append asc hup (by simp), List.filter_append, Option.or_none, due, Sink.wanted]
  congr 1
  refine List.filter_congr fun r hr => ?_
  obtain ⟨it, hit, rfl⟩ := List.mem_map.mp hr
  simp [Window.contains, hup it hit]

/-- What is due is ascending. -/
theorem due_ascending (sink : Sink ω ρ) (e : Execution) (last : Option Instant)
    (items : List (Except Error (Staged ρ))) : Ascending (due sink e last items) :=
  (readable_ascending _ _ _).1.filter _

/-- What is due is no sooner than the row that is read. -/
theorem le_of_mem_due_cons {r : ρ} (h : r ∈ due sink e last (.ok item :: rest)) :
    time item.row ≤ time r := by
  have hr := List.mem_of_mem_filter h
  rw [readable] at hr
  split_ifs at hr
  · simp at hr
  · rcases List.mem_cons.mp hr with rfl | hr
    · exact le_rfl
    · exact (readable_ascending _ _ _).2 _ rfl r hr

/-- Behind a row from behind the window nothing is due. -/
theorem due_of_upTo_lt (h : e.window.upTo < time item.row) :
    due sink e last (.ok item :: rest) = [] := by
  rw [due, readable, if_pos (.inr h)]
  rfl

/-- When the loader is past its window nothing is due. -/
theorem due_of_past (h : Past e s rest) : due sink e s.last rest = [] := by
  rcases rest with _ | ⟨err | item, rest⟩
  · simp [due, readable]
  · exact h.elim
  · exact due_of_upTo_lt h.2.2

omit [Timed ρ] in
theorem State.not_exists_of_descent? {t : Instant} (h : s.descent? t = none) :
    ¬∃ last ∈ s.last, t < last := fun ⟨_, hl, hlt⟩ => State.not_lt_of_descent? h hl hlt

/-- A row up to the start of the window is read but not due. A window that ends before it starts has
no rows at all. -/
theorem due_of_le_since (hd : s.descent? (time item.row) = none)
    (hs : time item.row ≤ e.window.since) :
    due sink e s.last (.ok item :: rest) = due sink e (some (time item.row)) rest := by
  by_cases hu : e.window.upTo < time item.row
  · have hempty : ∀ t, e.window.contains t = false := fun t => by
      simpa [Window.contains] using fun h : e.window.since < t => hu.trans_le (hs.trans h.le)
    simp [due, hempty]
  · rw [due, readable, if_neg (not_or.mpr ⟨State.not_exists_of_descent? hd, hu⟩),
      List.filter_cons_of_neg (by simp [Window.contains, not_lt.mpr hs]), due]

/-- A row of the window is due if the sink can process it. -/
theorem due_of_within (hd : s.descent? (time item.row) = none)
    (hs : ¬time item.row ≤ e.window.since) (hu : ¬e.window.upTo < time item.row) :
    due sink e s.last (.ok item :: rest)
      = [item.row].filter sink.processable ++ due sink e (some (time item.row)) rest := by
  rw [due, readable, if_neg (not_or.mpr ⟨State.not_exists_of_descent? hd, hu⟩), due,
    ← List.singleton_append, List.filter_append]
  congr 1
  exact List.filter_congr fun r hr => by
    obtain rfl := List.mem_singleton.mp hr
    simp [Window.contains, not_le.mp hs, not_lt.mp hu]

end Due

/-! ## The rows that were read -/

section Read

variable {sink : Sink ω ρ} {e : Execution} {s : State ρ} {front : List (Except Error (Staged ρ))}
  {w w₁ : ω}

/-- **What was read is due** as far as it was wanted, and what else is due follows it. -/
theorem Reads.due_append (h : Reads sink e w front s w₁) :
    ∃ read : List (Staged ρ), front = read.map .ok ∧ ∀ rest,
      due sink e none (front ++ rest) = sink.wanted e read ++ due sink e s.last rest := by
  induction h with
  | start => exact ⟨[], rfl, fun rest => rfl⟩
  | @next front entry s s' w₁ w₂ _ hstep ih =>
    obtain ⟨read, rfl, hdue⟩ := ih
    obtain ⟨item, rfl, hlast, hnext⟩ : ∃ item, entry = .ok item ∧ s'.last = some (time item.row) ∧
        ∀ rest, due sink e s.last (.ok item :: rest)
          = sink.wanted e [item] ++ due sink e (some (time item.row)) rest := by
      cases step_spec_of_eq hstep with
      | early hd hs =>
        refine ⟨_, rfl, rfl, fun rest => ?_⟩
        rw [due_of_le_since hd hs, Sink.wanted, List.map_singleton,
          List.filter_cons_of_neg (by simp [hs])]
        rfl
      | gathers hd hs hu =>
        refine ⟨_, rfl, State.accept_last s _, fun rest => ?_⟩
        rw [due_of_within hd hs hu, Sink.wanted_singleton hs]
      | closes hd hs hu =>
        refine ⟨_, rfl, State.accept_last _ _, fun rest => ?_⟩
        rw [due_of_within hd hs hu, Sink.wanted_singleton hs]
    refine ⟨read ++ [item], by simp, fun rest => ?_⟩
    rw [List.append_assoc, List.singleton_append, hdue, hnext, hlast, Sink.wanted_append,
      List.append_assoc]

/-- **A whole run** reads a front of its stream that is wanted before anything else that is due. If
it finishes, nothing else is due. -/
theorem exists_read (sink : Sink ω ρ) (e : Execution) (items : List (Except Error (Staged ρ)))
    (w : ω) :
    ∃ (read : List (Staged ρ)) (rest : List (Except Error (Staged ρ))) (s₀ : State ρ) (w₀ : ω),
      items = read.map .ok ++ rest ∧ Reads sink e w (read.map .ok) s₀ w₀ ∧
      sink.wanted e read <+: due sink e none items ∧
      ∀ r, (run sink e items w).1.result = .ok r → r.status = .success →
        Past e s₀ rest ∧ sink.wanted e read = due sink e none items := by
  obtain ⟨front, rest, s, w₁, rfl, hreads, hend⟩ := run_cases sink e items w
  obtain ⟨read, rfl, hdue⟩ := hreads.due_append
  refine ⟨read, rest, s, w₁, rfl, hreads, hdue rest ▸ List.prefix_append _ _, fun r hr hok => ?_⟩
  rcases hend with ⟨hpast, -⟩ | ⟨entry, back, s', ending, w₂, -, -, hne, hrun⟩
  · rw [hdue, due_of_past hpast, List.append_nil]
    exact ⟨hpast, rfl⟩
  · rw [hrun] at hr
    exact absurd (finished_of_success hr hok) hne

end Read

/-! ## The open batch -/

variable {sink : Sink ω ρ} {e : Execution} {s : State ρ} {item : Staged ρ}
  {items front rest : List (Except Error (Staged ρ))} {w : ω}

/-- The buffer holds ascending rows of the window up to the last row read, and without the rows at
that timestamp it would not be full. -/
structure Filling (e : Execution) (s : State ρ) : Prop where
  asc : Ascending s.buffer
  since_lt : ∀ r ∈ s.buffer, e.window.since < time r
  le_last : ∀ r ∈ s.buffer, ∃ last, s.last = some last ∧ time r ≤ last
  short : ∀ last, s.last = some last →
    (s.buffer.filter fun r => time r < last).length < max e.batchSize 1

/-- An empty buffer fills no batch. -/
theorem Filling.of_nil (h : s.buffer = []) : Filling e s where
  asc := by rw [h]; exact .nil
  since_lt := by simp [h]
  le_last := by simp [h]
  short := by simp [h]

/-- No row in the buffer is later than the last one read. -/
theorem Filling.le_of_last (h : Filling e s) {last : Instant} (hl : s.last = some last) {r : ρ}
    (hr : r ∈ s.buffer) : time r ≤ last := by
  obtain ⟨t, ht, hle⟩ := h.le_last r hr
  exact hle.trans_eq (Option.some.inj (ht.symm.trans hl))

/-- No batch is open before the window starts. -/
theorem Filling.buffer_eq_nil (h : Filling e s) (hd : s.descent? (time item.row) = none)
    (hs : time item.row ≤ e.window.since) : s.buffer = [] :=
  List.eq_nil_iff_forall_not_mem.mpr fun r hr => by
    obtain ⟨last, hl, hle⟩ := h.le_last r hr
    have hlast : last ≤ time item.row := not_lt.mp (State.not_lt_of_descent? hd hl)
    exact (h.since_lt r hr).not_ge (hle.trans (hlast.trans hs))

theorem State.accept_buffer (s : State ρ) (item : Staged ρ) :
    (s.accept sink item).buffer = s.buffer ++ [item.row].filter sink.processable := by
  unfold State.accept
  split <;> simp [*, State.keep, State.pass]

theorem Filling.eq_nil_of_last_eq_none (h : Filling e s) (hl : s.last = none) : s.buffer = [] :=
  List.eq_nil_iff_forall_not_mem.mpr fun r hr => by
    obtain ⟨last, hlast, -⟩ := h.le_last r hr
    cases hl.symm.trans hlast

/-- The rows before the next timestamp leave the batch open. -/
theorem Filling.length_filter_lt (h : Filling e s) {t : Instant}
    (hopen : ∀ last, s.last = some last → t ≠ last → s.buffer.length < max e.batchSize 1) :
    (s.buffer.filter fun r => time r < t).length < max e.batchSize 1 := by
  rcases hl : s.last with _ | last
  · simp [h.eq_nil_of_last_eq_none hl]
  by_cases htied : t = last
  · exact htied ▸ h.short last hl
  · exact (List.length_filter_le _ _).trans_lt (hopen last hl htied)

/-- A row joins the batch as long as the batch is open. -/
theorem Filling.accept (h : Filling e s) (hd : s.descent? (time item.row) = none)
    (hs : ¬time item.row ≤ e.window.since)
    (hopen : ∀ last, s.last = some last → time item.row ≠ last →
      s.buffer.length < max e.batchSize 1) : Filling e (s.accept sink item) := by
  have hle : ∀ r ∈ s.buffer, time r ≤ time item.row := fun r hr => by
    obtain ⟨last, hl, hrl⟩ := h.le_last r hr
    exact hrl.trans (not_lt.mp (State.not_lt_of_descent? hd hl))
  have hitem : ∀ r ∈ [item.row].filter sink.processable, r = item.row := fun r hr =>
    List.mem_singleton.mp (List.mem_of_mem_filter hr)
  refine ⟨?_, fun r hr => ?_, fun r hr => ⟨_, State.accept_last s item, ?_⟩, fun last hl => ?_⟩
  · rw [State.accept_buffer]
    refine List.pairwise_append.mpr ⟨h.asc, (List.pairwise_singleton _ _).filter _, ?_⟩
    exact fun r hr x hx => (hle r hr).trans_eq (hitem x hx ▸ rfl)
  · rw [State.accept_buffer] at hr
    rcases List.mem_append.mp hr with hr | hr
    · exact h.since_lt r hr
    · exact hitem r hr ▸ not_le.mp hs
  · rw [State.accept_buffer] at hr
    rcases List.mem_append.mp hr with hr | hr
    · exact hle r hr
    · exact (hitem r hr ▸ rfl : time r = time item.row).le
  · obtain rfl : time item.row = last := Option.some.inj ((State.accept_last s item).symm.trans hl)
    have hnone : ([item.row].filter sink.processable).filter
        (fun r => time r < time item.row) = [] :=
      List.filter_eq_nil_iff.mpr fun r hr => by simp [hitem r hr]
    rw [State.accept_buffer, List.filter_append, hnone, List.append_nil]
    exact h.length_filter_lt hopen

/-- A full batch is the next greedy one if the row that follows is later than it. -/
theorem Filling.greedyBatches_eq_cons (h : Filling e s) {last : Instant} (hl : s.last = some last)
    (hlater : last < time item.row) (hfull : max e.batchSize 1 ≤ s.buffer.length)
    (rest : List (Except Error (Staged ρ))) :
    greedyBatches e.batchSize (s.buffer ++ due sink e s.last (.ok item :: rest))
      = s.buffer :: greedyBatches e.batchSize (due sink e s.last (.ok item :: rest)) :=
  greedyBatches_append h.asc (fun _ hr => h.le_of_last hl hr) (h.short last hl) hfull
    fun _ hx _ hy => (h.le_of_last hl hx).trans_lt (hlater.trans_le (le_of_mem_due_cons hy))

/-- What is in the buffer at the end is the last greedy batch. -/
theorem Filling.greedyBatches_eq (h : Filling e s) :
    greedyBatches e.batchSize s.buffer = if s.buffer.isEmpty then [] else [s.buffer] := by
  rcases hl : s.last with _ | last
  · rw [h.eq_nil_of_last_eq_none hl]
    rfl
  · exact greedyBatches_of_short h.asc (fun _ hr => h.le_of_last hl hr) (h.short last hl)

/-! ## The course of the batches -/

/-- The batches as they are handed over, numbered from 1. -/
def numbered (group : String) (batches : List (List ρ)) : List (Commit ρ) :=
  (batches.zipIdx 1).map fun b => ⟨group, b.2, b.1⟩

omit [Timed ρ] in
/-- One more batch gets the next number. -/
theorem numbered_append_singleton (group : String) (batches : List (List ρ)) (rows : List ρ) :
    numbered group (batches ++ [rows])
      = numbered group batches ++ [⟨group, batches.length + 1, rows⟩] := by
  simp [numbered, List.zipIdx_append, Nat.add_comm]

omit [Timed ρ] in
/-- The first batches have the same numbers when more follow. -/
theorem numbered_prefix (group : String) {a b : List (List ρ)} (h : a <+: b) :
    numbered group a <+: numbered group b := by
  obtain ⟨rest, rfl⟩ := h
  rw [numbered, numbered, List.zipIdx_append, List.map_append]
  exact List.prefix_append _ _

/-- The rows of the batches in a log. -/
def batchesOf (log : List (Commit ρ × Attempt CommitReply)) : List (List ρ) :=
  log.map fun entry => entry.1.rows

/-- **Between two rows** the batches that were committed are the first greedy ones, whatever follows
in the stream, and the buffer is the beginning of the next. -/
structure Batched (sink : Sink ω ρ) (e : Execution) (front : List (Except Error (Staged ρ)))
    (s : State ρ) (log : List (Commit ρ × Attempt CommitReply)) : Prop where
  filling : Filling e s
  took : ∀ entry ∈ log, took entry.2
  commits : log.map (·.1) = numbered e.group (batchesOf log)
  batches : s.batches = log.length
  greedy : ∀ rest, greedyBatches e.batchSize (due sink e none (front ++ rest))
    = batchesOf log ++ greedyBatches e.batchSize (s.buffer ++ due sink e s.last rest)

variable {log : List (Commit ρ × Attempt CommitReply)}

omit [Timed ρ] in
theorem batchesOf_append (log : List (Commit ρ × Attempt CommitReply)) (c : Commit ρ)
    (reply : Attempt CommitReply) :
    batchesOf (log ++ [(c, reply)]) = batchesOf log ++ [c.rows] := by
  simp [batchesOf]

/-- The next batch gets the next number. -/
theorem Batched.commits_append (h : Batched sink e front s log) (reply : Attempt CommitReply) :
    (log ++ [((⟨e.group, s.batches + 1, s.buffer⟩ : Commit ρ), reply)]).map (·.1)
      = numbered e.group (batchesOf log ++ [s.buffer]) := by
  rw [List.map_append, h.commits, numbered_append_singleton, h.batches, batchesOf,
    List.length_map]
  rfl

/-- A row from before the window is in no batch. -/
theorem Batched.early (h : Batched sink e front s log) (hd : s.descent? (time item.row) = none)
    (hs : time item.row ≤ e.window.since) :
    Batched sink e (front ++ [.ok item]) (s.pass item) log where
  filling := .of_nil (h.filling.buffer_eq_nil hd hs)
  took := h.took
  commits := h.commits
  batches := h.batches
  greedy rest := by
    rw [List.append_assoc, List.singleton_append, h.greedy, due_of_le_since hd hs]
    rfl

/-- A row that joins the open batch. -/
theorem Batched.gathers (h : Batched sink e front s log) (hd : s.descent? (time item.row) = none)
    (hs : ¬time item.row ≤ e.window.since) (hu : ¬e.window.upTo < time item.row)
    (hopen : ∀ last, s.last = some last → time item.row ≠ last →
      s.buffer.length < max e.batchSize 1) :
    Batched sink e (front ++ [.ok item]) (s.accept sink item) log where
  filling := h.filling.accept hd hs hopen
  took := h.took
  commits := h.commits
  batches := (State.accept_batches s item).trans h.batches
  greedy rest := by
    rw [List.append_assoc, List.singleton_append, h.greedy, due_of_within hd hs hu,
      State.accept_last, State.accept_buffer, List.append_assoc]

/-- A row before which the open batch was committed. -/
theorem Batched.closes (h : Batched sink e front s log) {last : Instant}
    (hd : s.descent? (time item.row) = none) (hs : ¬time item.row ≤ e.window.since)
    (hu : ¬e.window.upTo < time item.row) (hl : s.last = some last)
    (hlater : last < time item.row) (hfull : max e.batchSize 1 ≤ s.buffer.length) {s' : State ρ}
    (hbuffer : s'.buffer = []) (hlast : s'.last = s.last) (hbatches : s'.batches = s.batches + 1)
    {reply : Attempt CommitReply} (htook : Ingest.took reply) :
    Batched sink e (front ++ [.ok item]) (s'.accept sink item)
      (log ++ [(⟨e.group, s.batches + 1, s.buffer⟩, reply)]) where
  filling := by
    refine (Filling.of_nil hbuffer).accept ?_ hs fun last hl hne => ?_
    · rwa [State.descent?, hlast]
    · rw [hbuffer]
      exact Nat.lt_of_lt_of_le Nat.zero_lt_one (Nat.le_max_right _ _)
  took entry hentry := by
    rcases List.mem_append.mp hentry with hentry | hentry
    · exact h.took entry hentry
    · exact List.mem_singleton.mp hentry ▸ htook
  commits := by rw [h.commits_append, batchesOf_append]
  batches := by
    rw [State.accept_batches, hbatches, h.batches, List.length_append, List.length_singleton]
  greedy rest := by
    rw [List.append_assoc, List.singleton_append, h.greedy,
      h.filling.greedyBatches_eq_cons hl hlater hfull, due_of_within hd hs hu, batchesOf_append,
      State.accept_last, State.accept_buffer, hbuffer, List.append_assoc]
    rfl

/-- A batch that a later row closes is the next greedy one. -/
theorem Batched.prefix_of_later (h : Batched sink e front s log) {last : Instant}
    (hl : s.last = some last) (hlater : last < time item.row)
    (hfull : max e.batchSize 1 ≤ s.buffer.length) (rest : List (Except Error (Staged ρ))) :
    batchesOf log ++ [s.buffer]
      <+: greedyBatches e.batchSize (due sink e none (front ++ .ok item :: rest)) := by
  rw [h.greedy, h.filling.greedyBatches_eq_cons hl hlater hfull]
  exact ⟨_, (List.append_cons _ _ _).symm⟩

/-- What is in the buffer at the end is the last greedy batch. -/
theorem Batched.greedyBatches_of_past (h : Batched sink e front s log) (hpast : Past e s rest)
    (hne : s.buffer ≠ []) :
    greedyBatches e.batchSize (due sink e none (front ++ rest)) = batchesOf log ++ [s.buffer] := by
  rw [h.greedy, due_of_past hpast, List.append_nil, h.filling.greedyBatches_eq,
    if_neg (by simpa using hne)]

/-- **What was read is in the greedy batches**, entry by entry. -/
theorem Reads.batched {v : ω × List (Commit ρ × Attempt CommitReply)}
    (h : Reads sink.logged e (w, []) front s v) : Batched sink e front s v.2 := by
  induction h with
  | start =>
    exact ⟨.of_nil rfl, by simp, rfl, rfl, fun rest => rfl⟩
  | next _ hstep ih =>
    cases step_spec_of_eq hstep with
    | early hd hs => exact ih.early hd hs
    | gathers hd hs hu hopen => exact ih.gathers hd hs hu hopen
    | closes hd hs hu hl hlater hfull hflush =>
      obtain ⟨rows, d, hcommit, -, hbuffer, hlast, -, hbatches, -⟩ := flush_of_none hflush
      exact Sink.log_of_commit hcommit ▸
        ih.closes hd hs hu hl hlater hfull hbuffer hlast hbatches rfl

/-! ## The end of a run -/

omit [Timed ρ] in
/-- If all was taken, all that was handed over is committed. -/
theorem committedBatches_of_took (h : ∀ entry ∈ log, took entry.2) :
    committedBatches log = batchesOf log := by
  rw [committedBatches, List.filter_eq_self.mpr h, batchesOf]

/-- One more batch is committed or it is not. -/
theorem Batched.committedBatches_prefix (h : Batched sink e front s log) (c : Commit ρ)
    (reply : Attempt CommitReply) :
    committedBatches (log ++ [(c, reply)]) <+: batchesOf log ++ [c.rows] := by
  rw [committedBatches_append, committedBatches_cons, committedBatches_of_took h.took]
  cases Ingest.took reply with
  | false => exact (List.prefix_append_right_inj _).mpr List.nil_prefix
  | true => exact List.prefix_rfl

/-- What a run may have handed over, given the greedy batches: all of them, or a part of them if it
does not end well. -/
def Follows (group : String) (batches : List (List ρ))
    (log : List (Commit ρ × Attempt CommitReply)) (ending : Ending) : Prop :=
  log.map (·.1) <+: numbered group batches ∧ committedBatches log <+: batches ∧
    (ending = .finished → log.map (·.1) = numbered group batches ∧
      committedBatches log = batches)

/-- A run that stops between two batches. -/
theorem Batched.follows_of_stopped (h : Batched sink e front s log) {ending : Ending}
    (hend : ending ≠ .finished) {batches : List (List ρ)} (hbatches : batchesOf log <+: batches) :
    Follows e.group batches log ending := by
  refine ⟨h.commits ▸ numbered_prefix _ hbatches, ?_, fun hfinished => absurd hfinished hend⟩
  rwa [committedBatches_of_took h.took]

/-- A run that stops with a batch that was handed over. -/
theorem Batched.follows_of_handed (h : Batched sink e front s log) {ending : Ending}
    (hend : ending ≠ .finished) (reply : Attempt CommitReply) {batches : List (List ρ)}
    (hbatches : batchesOf log ++ [s.buffer] <+: batches) :
    Follows e.group batches (log ++ [(⟨e.group, s.batches + 1, s.buffer⟩, reply)]) ending :=
  ⟨h.commits_append reply ▸ numbered_prefix _ hbatches,
    (h.committedBatches_prefix _ reply).trans hbatches, fun hfinished => absurd hfinished hend⟩

/-- A run that stops at a batch, whether it was handed over or not. -/
theorem Batched.follows_of_some {v v' : ω × List (Commit ρ × Attempt CommitReply)}
    (h : Batched sink e front s v.2) {upTo : Instant} {s' : State ρ} {ending : Ending}
    (hflush : flush sink.logged e.group upTo s v = ((s', some ending), v'))
    {batches : List (List ρ)} (hbatches : batchesOf v.2 ++ [s.buffer] <+: batches) :
    Follows e.group batches v'.2 ending := by
  have hend := (flush_of_some hflush).2.2
  cases flush_spec_of_eq hflush with
  | loses hroom hcommit =>
    exact Sink.log_of_commit hcommit ▸ h.follows_of_handed hend _ hbatches
  | overruns hroom hcommit =>
    exact Sink.log_of_commit hcommit ▸ h.follows_of_handed hend _ hbatches
  | exhausts => exact h.follows_of_stopped hend ((List.prefix_append _ _).trans hbatches)

omit [Timed ρ] in
/-- A run whose batches are all committed. -/
theorem follows_of_took {group : String}
    (hcommits : log.map (·.1) = numbered group (batchesOf log))
    (htook : ∀ entry ∈ log, took entry.2) (ending : Ending) :
    Follows group (batchesOf log) log ending := by
  rw [Follows, committedBatches_of_took htook, hcommits]
  exact ⟨List.prefix_rfl, List.prefix_rfl, fun _ => ⟨rfl, rfl⟩⟩

/-- A run whose batches are all committed, the last one included. -/
theorem Batched.follows_of_committed (h : Batched sink e front s log)
    {reply : Attempt CommitReply} (htook : Ingest.took reply) (ending : Ending) :
    Follows e.group (batchesOf log ++ [s.buffer])
      (log ++ [(⟨e.group, s.batches + 1, s.buffer⟩, reply)]) ending := by
  have hlog := batchesOf_append log ⟨e.group, s.batches + 1, s.buffer⟩ reply
  rw [← hlog]
  refine follows_of_took (by rw [h.commits_append, hlog]) (fun entry hentry => ?_) ending
  rcases List.mem_append.mp hentry with hentry | hentry
  · exact h.took entry hentry
  · exact List.mem_singleton.mp hentry ▸ htook

/-- The end of a stream commits the last greedy batch. -/
theorem Batched.finish {v : ω × List (Commit ρ × Attempt CommitReply)}
    (h : Batched sink e front s v.2) (hpast : Past e s rest) :
    Follows e.group (greedyBatches e.batchSize (due sink e none (front ++ rest)))
      (Loading.finish sink.logged e s v).2.2 (Loading.finish sink.logged e s v).1.2 := by
  by_cases hempty : s.buffer = []
  · rw [h.greedy, due_of_past hpast, List.append_nil, h.filling.greedyBatches_eq, hempty,
      List.isEmpty_nil, if_pos rfl, List.append_nil]
    rcases hl : s.last with _ | last
    · rw [finish_of_none hl]
      exact follows_of_took h.commits h.took _
    · rw [finish_of_nil hl hempty]
      exact follows_of_took h.commits h.took _
  rw [h.greedyBatches_of_past hpast hempty]
  obtain ⟨r, hr⟩ := List.exists_mem_of_ne_nil _ hempty
  obtain ⟨last, hl, -⟩ := h.filling.le_last r hr
  rcases hflush : flush sink.logged e.group (checkpointAfter last s.settled e.window.since) s v with
    ⟨⟨s', _ | ending⟩, v'⟩
  · obtain ⟨rows, d, hcommit, -⟩ := flush_of_none hflush
    rw [finish_of_ne_nil hl hempty hflush]
    exact Sink.log_of_commit hcommit ▸ h.follows_of_committed rfl _
  · rw [finish_of_ne_nil hl hempty hflush]
    exact h.follows_of_some hflush List.prefix_rfl

/-- A run that stops at an entry has handed over a part of the greedy batches. -/
theorem Batched.stops {v v' : ω × List (Commit ρ × Attempt CommitReply)}
    (h : Batched sink e front s v.2) {entry : Except Error (Staged ρ)} {s' : State ρ}
    {ending : Ending} (hstep : step sink.logged e s entry v = ((s', some ending), v'))
    (hend : ending ≠ .finished) :
    Follows e.group (greedyBatches e.batchSize (due sink e none (front ++ entry :: rest)))
      v'.2 ending := by
  have hgreedy := h.greedy (entry :: rest)
  cases step_spec_of_eq hstep with
  | fault => exact h.follows_of_stopped hend (hgreedy ▸ List.prefix_append _ _)
  | descends => exact h.follows_of_stopped hend (hgreedy ▸ List.prefix_append _ _)
  | late => exact absurd rfl hend
  | loses hd hs hu hl hlater hfull hflush =>
    exact h.follows_of_some hflush (h.prefix_of_later hl hlater hfull rest)

/-- **The batches of a run follow the greedy ones.** -/
theorem exists_follows (sink : Sink ω ρ) (e : Execution)
    (items : List (Except Error (Staged ρ))) (w : ω) :
    ∃ s : State ρ, ∃ ending, (run sink e items w).1 = conclude s ending ∧
      Follows e.group (greedyBatches e.batchSize (due sink e none items))
        (handed sink e items w) ending := by
  obtain ⟨front, rest, s, v, rfl, hreads, hend⟩ := run_cases sink.logged e items (w, [])
  rw [run_logged, handed]
  rcases hend with ⟨hpast, hrun⟩ | ⟨entry, back, s', ending, v', rfl, hstep, hne, hrun⟩
  · rw [hrun]
    exact ⟨_, _, rfl, hreads.batched.finish hpast⟩
  · rw [hrun]
    exact ⟨_, _, rfl, hreads.batched.stops hstep hne⟩

/-- **The batches are the greedy ones.** A loader hands over a front of the greedy batches of the
rows that are due, numbered from 1, and all of them if it succeeds; those that were committed are a
front of the greedy ones as well. No two of them share a timestamp. The rows that were read come
before anything else that is due, and a loader that succeeds has read up to the end of its stream or
of its window. -/
theorem commits_are_greedy (sink : Sink ω ρ) (e : Execution)
    (items : List (Except Error (Staged ρ))) (w : ω) :
    let batches := greedyBatches e.batchSize (due sink e none items)
    let commits := handed sink e items w
    let out := run sink e items w
    sink.Performs w commits out.2 ∧
      commits.map (·.1) <+: numbered e.group batches ∧ committedBatches commits <+: batches ∧
      (∀ r, out.1.result = .ok r → r.status = .success →
        commits.map (·.1) = numbered e.group batches ∧ committedBatches commits = batches) ∧
      batches.Pairwise Sooner ∧
      ∃ (read : List (Staged ρ)) (rest : List (Except Error (Staged ρ))) (s₀ : State ρ) (w₀ : ω),
        items = read.map .ok ++ rest ∧ Reads sink e w (read.map .ok) s₀ w₀ ∧
        sink.wanted e read <+: due sink e none items ∧
        ∀ r, out.1.result = .ok r → r.status = .success →
          Past e s₀ rest ∧ sink.wanted e read = due sink e none items := by
  obtain ⟨s, ending, hrun, hhanded, hcommitted, hfinished⟩ := exists_follows sink e items w
  refine ⟨performs_handed sink e items w, hhanded, hcommitted, fun r hr hsuccess => ?_,
    pairwise_sooner_greedyBatches (due_ascending sink e none items), exists_read sink e items w⟩
  rw [hrun] at hr
  exact hfinished (finished_of_success hr hsuccess)

end Loading

end Ingest
