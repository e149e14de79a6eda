import Ingest.Proofs.Loading.Breaking
import Mathlib.Data.List.Forall2

/-!
# Proofs/Loading/Ties — a loader does not see the order of ties

A loader ends no batch inside a timestamp, and of the bounds that come with the rows of one
timestamp it takes the last one. So two streams that go through the timestamps alike, with the rows
of each in two orders and the same bound at its end (`SameRuns`), make two loaders take the same
decisions as long as their sinks give the same verdicts. Main statements: `consume_ties` — what the
rows of one timestamp do; `run_paired` — the two runs side by side.
-/

namespace Ingest

variable {ω ρ : Type}

/-! ## Rows of equal timestamp -/

section Ties

variable [Timed ρ]

/-- Two lists of rows that are the same, except that rows of equal timestamp may have changed
places. -/
structure SameButTies (a b : List ρ) : Prop where
  times : a.map time = b.map time
  ties : ∀ t, (a.filter fun r => time r = t).Perm (b.filter fun r => time r = t)

namespace SameButTies

variable {a b c d : List ρ}

theorem refl (a : List ρ) : SameButTies a a := ⟨rfl, fun _ => .refl _⟩

theorem length_eq (h : SameButTies a b) : a.length = b.length := by
  simpa using congrArg List.length h.times

/-- Lists in a row that are each the same but for ties. -/
theorem append (h : SameButTies a b) (h' : SameButTies c d) : SameButTies (a ++ c) (b ++ d) where
  times := by rw [List.map_append, List.map_append, h.times, h'.times]
  ties t := by
    rw [List.filter_append, List.filter_append]
    exact (h.ties t).append (h'.ties t)

/-- Rows of one timestamp in any order. -/
theorem of_perm (h : a.Perm b) {t : Instant} (ht : ∀ r ∈ a, time r = t) : SameButTies a b where
  times := by
    have hb : ∀ r ∈ b, time r = t := fun r hr => ht r (h.mem_iff.mpr hr)
    rw [List.map_congr_left ht, List.map_congr_left hb, List.map_const', List.map_const',
      h.length_eq]
  ties u := h.filter _

end SameButTies

/-- The same batch, but for the order of ties. -/
structure SameBatch (c c' : Commit ρ) : Prop where
  group : c.group = c'.group
  batch : c.batch = c'.batch
  rows : SameButTies c.rows c'.rows

end Ties

/-! ## Verdicts -/

/-- What a sink made of a batch, without its wording and its duration. -/
inductive Verdict where
  | committed (rows : Nat)
  | refused
  | panicked
deriving DecidableEq

/-- The verdict of a reply. -/
def verdict : Attempt CommitReply → Verdict
  | .ok (.committed rows _) => .committed rows
  | .ok (.rejected _) => .refused
  | .error (.error _) => .refused
  | .error (.panic _) => .panicked

/-- Two replies with the same verdict, after durations that add up to `d` and `d'`. Either both
durations can be added to these or neither can. -/
structure SameReply (d d' : Nat) (reply reply' : Attempt CommitReply) : Prop where
  verdict_eq : verdict reply = verdict reply'
  overruns_iff : LoadResult.maxDuration < d + repliedDuration reply ↔
    LoadResult.maxDuration < d' + repliedDuration reply'

/-- **Two programs side by side**: in worlds that `P` pairs, they leave answers and worlds that `Q`
pairs. -/
def Paired {α α' ω' : Type} (P : ω → ω' → Prop) (Q : α × ω → α' × ω' → Prop) (m : StateM ω α)
    (m' : StateM ω' α') : Prop :=
  ∀ w w', P w w' → Q (m w) (m' w')

namespace Paired

variable {P : ω → ω → Prop} {α α' β β' : Type} {Q : α × ω → α' × ω → Prop}
  {S : β × ω → β' × ω → Prop}

theorem pure {x : α} {x' : α'} (h : ∀ w w', P w w' → Q (x, w) (x', w')) :
    Paired P Q (Pure.pure x) (Pure.pure x') := h

/-- Two runs in a row that stay paired. -/
theorem bind {m : StateM ω α} {m' : StateM ω α'} {k : α → StateM ω β} {k' : α' → StateM ω β'}
    (hm : Paired P Q m m')
    (hk : ∀ x x', Paired (fun w w' => Q (x, w) (x', w')) S (k x) (k' x')) :
    Paired P S (m >>= k) (m' >>= k') :=
  fun w w' hw => hk _ _ _ _ (hm w w' hw)

end Paired

variable [Timed ρ]

/-- `R d d'` pairs worlds in which the sink reported durations that add up to `d` and `d'`. In such
worlds it gives the same reply to the same batch, in whatever order its ties come, and it leaves
such worlds behind. -/
def Sink.Overlooks (sink : Sink ω ρ) (R : Nat → Nat → ω → ω → Prop) : Prop :=
  ∀ c c' d d', SameBatch c c' →
    Paired (R d d') (fun y y' => SameReply d d' y.1 y'.1 ∧
        R (d + repliedDuration y.1) (d' + repliedDuration y'.1) y.2 y'.2)
      (sink.commit c) (sink.commit c')

/-! ## Two results -/

/-- Two results that differ in wordings and durations, if at all. -/
structure LoadResult.SameTally (r r' : LoadResult) : Prop where
  status : r.status = r'.status
  rows : r.rows = r'.rows
  upTo : r.upTo = r'.upTo

namespace LoadResult.SameTally

variable {r r' b b' : LoadResult}

/-- Results of one tally fail together. -/
theorem isFailed_eq (h : r.SameTally r') : r.isFailed = r'.isFailed := by
  simp only [isFailed, h.status]

/-- Tallies add up. -/
theorem add (h : r.SameTally r') (h' : b.SameTally b') : (r + b).SameTally (r' + b') where
  status := by
    change (if r.isFailed || b.isFailed then .failed else b.status)
      = if r'.isFailed || b'.isFailed then .failed else b'.status
    rw [h.isFailed_eq, h'.isFailed_eq, h'.status]
  rows := congrArg₂ (· + ·) h.rows h'.rows
  upTo := congrArg₂ max h.upTo h'.upTo

/-- Either both sums can be held or neither. -/
theorem add? (h : r.SameTally r') (h' : b.SameTally b')
    (hduration : maxDuration < r.duration + b.duration ↔
      maxDuration < r'.duration + b'.duration) :
    (r.add? b = .ok (r + b) ∧ r'.add? b' = .ok (r' + b')) ∨
      ∃ p, r.add? b = .error p ∧ r'.add? b' = .error p := by
  unfold LoadResult.add?
  rw [h.rows, h'.rows]
  simp only [hduration]
  split_ifs
  · exact .inr ⟨_, rfl, rfl⟩
  · exact .inr ⟨_, rfl, rfl⟩
  · exact .inl ⟨rfl, rfl⟩

end LoadResult.SameTally

namespace Loading

/-- Two outcomes with the same tally, or without a result. -/
def Outcome.SameTally (o o' : Outcome) : Prop :=
  match o.result, o'.result with
  | .ok r, .ok r' => r.SameTally r'
  | .error _, .error _ => True
  | _, _ => False

/-- Two loaders that have seen the same rows, but for the order of ties. -/
structure State.Abreast (s s' : State ρ) : Prop where
  total : s.total.SameTally s'.total
  buffer : SameButTies s.buffer s'.buffer
  last : s.last = s'.last
  settled : s.settled = s'.settled
  batches : s.batches = s'.batches

/-- Two loaders that are abreast and have stopped for a reason of one kind. One that panics may have
durations that it did not add. -/
inductive SameStop (R : Nat → Nat → ω → ω → Prop) :
    (State ρ × Ending) × ω → (State ρ × Ending) × ω → Prop where
  | finished {s s' : State ρ} {w w' : ω} (hs : s.Abreast s')
      (hw : R s.total.duration s'.total.duration w w') :
      SameStop R ((s, .finished), w) ((s', .finished), w')
  | failed {s s' : State ρ} {m m' : String} {w w' : ω} (hs : s.Abreast s')
      (hw : R s.total.duration s'.total.duration w w') :
      SameStop R ((s, .failed m), w) ((s', .failed m'), w')
  | panicked {s s' : State ρ} {p p' : Panic} {d d' : Nat} {w w' : ω} (hs : s.Abreast s')
      (hw : R d d' w w') : SameStop R ((s, .panicked p), w) ((s', .panicked p'), w')

/-- Two loaders that are abreast, and both go on or both stop. -/
inductive SameTurn (R : Nat → Nat → ω → ω → Prop) :
    (State ρ × Option Ending) × ω → (State ρ × Option Ending) × ω → Prop where
  | goes {s s' : State ρ} {w w' : ω} (hs : s.Abreast s')
      (hw : R s.total.duration s'.total.duration w w') :
      SameTurn R ((s, none), w) ((s', none), w')
  | stops {s s' : State ρ} {ending ending' : Ending} {w w' : ω}
      (h : SameStop R ((s, ending), w) ((s', ending'), w')) :
      SameTurn R ((s, some ending), w) ((s', some ending'), w')

variable {sink : Sink ω ρ} {R : Nat → Nat → ω → ω → Prop} {e : Execution} {s s' : State ρ}

/-- Worlds in which two loaders have come as far as their results say. -/
def AtTotals (R : Nat → Nat → ω → ω → Prop) (s s' : State ρ) : ω → ω → Prop :=
  R s.total.duration s'.total.duration

/-- A sink that overlooks ties answers both loaders alike. -/
theorem flush_paired (h : sink.Overlooks R) (hs : s.Abreast s') (group : String) (upTo : Instant) :
    Paired (AtTotals R s s') (SameTurn R) (flush sink group upTo s) (flush sink group upTo s') := by
  have hbatch : SameBatch ⟨group, s.batches + 1, s.buffer⟩ ⟨group, s'.batches + 1, s'.buffer⟩ :=
    ⟨rfl, congrArg (· + 1) hs.batches, hs.buffer⟩
  have hafter : s.handOver.Abreast s'.handOver :=
    ⟨hs.total, .refl [], hs.last, hs.settled, congrArg (· + 1) hs.batches⟩
  unfold flush
  by_cases hfull : maxBatches ≤ s.batches
  · rw [if_pos hfull, if_pos (hs.batches ▸ hfull)]
    exact .pure fun _ _ hw => .stops (.panicked hs hw)
  rw [if_neg hfull, if_neg (hs.batches ▸ hfull)]
  refine (h _ _ s.total.duration s'.total.duration hbatch).bind fun reply reply' w w' hreply => ?_
  obtain ⟨⟨hverdict, hoverruns⟩, hw⟩ := hreply
  rcases reply with (err | p) | (⟨rows, d⟩ | reason) <;>
    rcases reply' with (err' | p') | (⟨rows', d'⟩ | reason') <;> cases hverdict
  case neg.ok.committed.ok.committed =>
    have hone : (LoadResult.committed rows upTo d).SameTally (.committed rows upTo d') :=
      ⟨rfl, rfl, rfl⟩
    obtain ⟨hadd, hadd'⟩ | ⟨p, hadd, hadd'⟩ := hs.total.add? hone hoverruns
    · dsimp only
      rw [hadd, hadd']
      exact .goes ⟨hs.total.add hone, hafter.buffer, hs.last, hs.settled, hafter.batches⟩ hw
    · dsimp only
      rw [hadd, hadd']
      exact .stops (.panicked hafter hw)
  case neg.error.panic.error.panic => exact .stops (.panicked hafter hw)
  all_goals exact .stops (.failed hafter hw)

/-- Both loaders close their batches together. -/
theorem closeBatch_paired (h : sink.Overlooks R) (hs : s.Abreast s') (t : Instant) :
    Paired (AtTotals R s s') (SameTurn R) (closeBatch sink e t s) (closeBatch sink e t s') := by
  unfold closeBatch
  rw [← hs.last, ← hs.settled, ← hs.buffer.length_eq]
  rcases s.last with _ | last
  · exact .pure fun _ _ hw => .goes hs hw
  dsimp only
  split_ifs
  · exact flush_paired h hs e.group _
  · exact .pure fun _ _ hw => .goes hs hw

/-- Both loaders end alike. -/
theorem finish_paired (h : sink.Overlooks R) (hs : s.Abreast s') :
    Paired (AtTotals R s s') (SameStop R) (finish sink e s) (finish sink e s') := by
  have hempty : s.buffer = [] ↔ s'.buffer = [] := by
    rw [← List.length_eq_zero_iff, hs.buffer.length_eq, List.length_eq_zero_iff]
  unfold finish
  simp only [← hs.last, ← hs.settled, List.isEmpty_iff, ← hempty]
  split
  · exact .pure fun _ _ hw => .finished hs hw
  split_ifs
  · have htotal := hs.total
    refine .pure fun _ _ hw => .finished ⟨⟨htotal.status, htotal.rows, ?_⟩, hs.buffer, rfl, rfl,
      hs.batches⟩ hw
    exact congrArg (max · _) htotal.upTo
  · refine (flush_paired h hs e.group _).bind fun x x' w w' hturn => ?_
    cases hturn with
    | goes hs₁ hw => exact .finished hs₁ hw
    | stops hstop => exact hstop

/-! ## The rows of one timestamp -/

/-- The rows of one timestamp in two orders, with the same bound at the end. -/
structure TiedRuns (t : Instant) (a b : List (Staged ρ)) : Prop where
  time_eq : ∀ it ∈ a, time it.row = t
  rows : (a.map (·.row)).Perm (b.map (·.row))
  settled : a.getLast?.map (·.settled) = b.getLast?.map (·.settled)

/-- Two streams that go through the same timestamps, the rows of each in two orders. -/
inductive SameRuns : List (Except Error (Staged ρ)) → List (Except Error (Staged ρ)) → Prop where
  | nil : SameRuns [] []
  | error (err : Error) (rest rest' : List (Except Error (Staged ρ))) :
      SameRuns (.error err :: rest) (.error err :: rest')
  | ties {t : Instant} {a b : List (Staged ρ)} {rest rest' : List (Except Error (Staged ρ))}
      (h : TiedRuns t a b) (hrest : SameRuns rest rest') :
      SameRuns (a.map .ok ++ rest) (b.map .ok ++ rest')

section Run

variable {t : Instant} {first : Staged ρ} {run more : List (Staged ρ)}

/-- Rows up to the start of the window are read over. -/
theorem consume_early (hrun : ∀ it ∈ run, time it.row = t) (hd : s.descent? t = none)
    (hs : t ≤ e.window.since) (rest : List (Except Error (Staged ρ))) (w : ω) :
    consume sink e (run.map .ok ++ rest) s w = consume sink e rest (run.foldl State.pass s) w := by
  induction run generalizing s with
  | nil => rfl
  | cons it run ih =>
    obtain ⟨rfl, hrun⟩ := List.forall_mem_cons.mp hrun
    rw [List.map_cons, List.cons_append, consume_cons_of_none (step_of_le_since hd hs),
      ih hrun (by simp [State.descent?, State.pass]), List.foldl_cons]

/-- Further rows of a timestamp close no batch. -/
theorem consume_tied (hrun : ∀ it ∈ run, time it.row = t) (hl : s.last = some t)
    (hs : ¬t ≤ e.window.since) (hu : ¬e.window.upTo < t)
    (rest : List (Except Error (Staged ρ))) (w : ω) :
    consume sink e (run.map .ok ++ rest) s w
      = consume sink e rest (run.foldl (State.accept sink) s) w := by
  induction run generalizing s with
  | nil => rfl
  | cons it run ih =>
    obtain ⟨rfl, hrun⟩ := List.forall_mem_cons.mp hrun
    have hd : s.descent? (time it.row) = none := by simp [State.descent?, hl]
    have hopen : closeBatch sink e (time it.row) s w = ((s, none), w) :=
      closeBatch_of_open w fun last hlast hne =>
        absurd (Option.some.inj (hl.symm.trans hlast)) hne
    rw [List.map_cons, List.cons_append, consume_cons_of_none (step_of_within hd hs hu hopen),
      List.foldl_cons]
    exact ih hrun (State.accept_last s it)

/-- **The rows of one timestamp**: the first one may close a batch, and all of them are read. -/
theorem consume_ties (hrun : ∀ it ∈ first :: more, time it.row = t)
    (rest : List (Except Error (Staged ρ))) :
    consume sink e ((first :: more).map .ok ++ rest) s =
      match s.descent? t with
      | some last => pure (s, .failed (Error.ordering t last).message)
      | none =>
        if t ≤ e.window.since then consume sink e rest ((first :: more).foldl State.pass s)
        else if e.window.upTo < t then pure (s, .finished)
        else closeBatch sink e t s >>= fun
          | (s, some ending) => pure (s, ending)
          | (s, none) => consume sink e rest ((first :: more).foldl (State.accept sink) s) := by
  funext w
  obtain ⟨rfl, hmore⟩ := List.forall_mem_cons.mp hrun
  rcases hd : s.descent? (time first.row) with _ | last
  swap
  · exact consume_cons_of_some (step_of_descent hd)
  dsimp only
  split_ifs with hs hu
  · exact consume_early hrun hd hs rest w
  · exact consume_cons_of_some (step_of_upTo_lt hd hs hu)
  simp only [bind, StateT.bind]
  rcases hclose : closeBatch sink e (time first.row) s w with ⟨⟨s₁, _ | ending⟩, w₁⟩
  · rw [List.map_cons, List.cons_append, consume_cons_of_none (step_of_within hd hs hu hclose)]
    exact consume_tied hmore (State.accept_last s₁ first) hs hu rest w₁
  · exact consume_cons_of_some (step_of_within hd hs hu hclose)

/-- Rows that are passed over only move the last timestamp. -/
theorem State.foldl_pass (s : State ρ) (run : List (Staged ρ)) :
    run.foldl State.pass s = { s with
      last := (run.getLast?.map fun it => time it.row).or s.last
      settled := (run.getLast?.map (·.settled)).getD s.settled } := by
  induction run using List.reverseRecOn with
  | nil => simp
  | append_singleton run it ih => simp [ih, State.pass]

/-- Rows that are taken in are those that can be processed. -/
theorem State.foldl_accept (s : State ρ) (run : List (Staged ρ)) :
    run.foldl (State.accept sink) s = { run.foldl State.pass s with
      buffer := s.buffer ++ (run.map (·.row)).filter sink.processable } := by
  induction run using List.reverseRecOn with
  | nil => simp
  | append_singleton run it ih =>
    rw [List.foldl_append, ih, List.foldl_cons, List.foldl_nil, State.accept]
    split_ifs with hp <;> simp [State.keep, State.pass, hp]

theorem State.foldl_pass_total (s : State ρ) (run : List (Staged ρ)) :
    (run.foldl State.pass s).total = s.total := by
  rw [State.foldl_pass]

theorem State.foldl_accept_total (s : State ρ) (run : List (Staged ρ)) :
    (run.foldl (State.accept sink) s).total = s.total := by
  rw [State.foldl_accept, State.foldl_pass]

end Run

/-! ## Two runs -/

namespace TiedRuns

variable {t : Instant} {a b : List (Staged ρ)}

theorem time_eq' (h : TiedRuns t a b) : ∀ it ∈ b, time it.row = t := fun it hit => by
  obtain ⟨it', hit', heq⟩ := List.mem_map.mp (h.rows.mem_iff.mpr (List.mem_map_of_mem hit))
  exact heq ▸ h.time_eq it' hit'

/-- The last rows have the same timestamp. -/
theorem map_time_getLast? (h : TiedRuns t a b) :
    (a.getLast?.map fun it => time it.row) = b.getLast?.map fun it => time it.row := by
  have hconst : ∀ run : List (Staged ρ), (∀ it ∈ run, time it.row = t) →
      (run.getLast?.map fun it => time it.row) = (run.getLast?.map (·.settled)).map fun _ => t :=
    fun run hrun => by
      rw [Option.map_map]
      exact Option.map_congr fun it hit => hrun it (List.mem_of_getLast? hit)
  rw [hconst a h.time_eq, hconst b h.time_eq', h.settled]

/-- Reading over the rows keeps two loaders abreast. -/
theorem abreast_pass (h : TiedRuns t a b) (hs : s.Abreast s') :
    (a.foldl State.pass s).Abreast (b.foldl State.pass s') := by
  rw [State.foldl_pass, State.foldl_pass]
  exact ⟨hs.total, hs.buffer, congrArg₂ Option.or h.map_time_getLast? hs.last,
    congrArg₂ Option.getD h.settled hs.settled, hs.batches⟩

/-- Keeping the wanted ones of the rows keeps two loaders abreast. -/
theorem abreast (h : TiedRuns t a b) (hs : s.Abreast s') :
    (a.foldl (State.accept sink) s).Abreast (b.foldl (State.accept sink) s') := by
  have hrows : ∀ r ∈ (a.map (·.row)).filter sink.processable, time r = t := fun r hr => by
    obtain ⟨it, hit, rfl⟩ := List.mem_map.mp (List.mem_filter.mp hr).1
    exact h.time_eq it hit
  have hpass := h.abreast_pass hs
  rw [State.foldl_accept, State.foldl_accept]
  exact ⟨hpass.total, hs.buffer.append (.of_perm (h.rows.filter _) hrows), hpass.last,
    hpass.settled, hpass.batches⟩

end TiedRuns

/-- **Two streams side by side.** -/
theorem consume_paired (h : sink.Overlooks R) {items items' : List (Except Error (Staged ρ))}
    (hsame : SameRuns items items') (hs : s.Abreast s') :
    Paired (AtTotals R s s') (SameStop R) (consume sink e items s) (consume sink e items' s') := by
  induction hsame generalizing s s' with
  | nil => exact .pure fun _ _ hw => .finished hs hw
  | error err rest rest' => exact .pure fun _ _ hw => .failed hs hw
  | @ties t a b rest rest' htied _ ih =>
    have hlength : a.length = b.length := by simpa using htied.rows.length_eq
    rcases a with _ | ⟨first, more⟩ <;> rcases b with _ | ⟨first', more'⟩
    · exact ih hs
    · exact absurd hlength (by simp)
    · exact absurd hlength (by simp)
    rw [consume_ties htied.time_eq, consume_ties htied.time_eq', State.descent?, State.descent?,
      ← hs.last]
    split
    · exact .pure fun _ _ hw => .failed hs hw
    split_ifs
    · intro w w' hw
      refine ih (htied.abreast_pass hs) w w' ?_
      rwa [AtTotals, State.foldl_pass_total, State.foldl_pass_total]
    · exact .pure fun _ _ hw => .finished hs hw
    refine (closeBatch_paired h hs t).bind fun x x' w w' hturn => ?_
    cases hturn with
    | goes hs₁ hw =>
      refine ih (htied.abreast hs₁) w w' ?_
      rwa [AtTotals, State.foldl_accept_total, State.foldl_accept_total]
    | stops hstop => exact hstop

/-- Loaders that stop alike have results of one tally. -/
theorem SameStop.conclude {x x' : (State ρ × Ending) × ω} (h : SameStop R x x') :
    (Loading.conclude x.1.1 x.1.2).SameTally (Loading.conclude x'.1.1 x'.1.2) ∧
      ∃ d d', R d d' x.2 x'.2 := by
  cases h with
  | finished hs hw => exact ⟨⟨rfl, hs.total.rows, hs.total.upTo⟩, _, _, hw⟩
  | failed hs hw => exact ⟨hs.total.add ⟨rfl, rfl, hs.total.upTo⟩, _, _, hw⟩
  | panicked hs hw => exact ⟨trivial, _, _, hw⟩

/-- **Two runs side by side** have results with the same tally. -/
theorem run_paired (h : sink.Overlooks R) {items items' : List (Except Error (Staged ρ))}
    (hsame : SameRuns items items') :
    Paired (R 0 0) (fun y y' => y.1.SameTally y'.1 ∧ ∃ d d', R d d' y.2 y'.2)
      (run sink e items) (run sink e items') := by
  have hstart : State.Abreast { total := LoadResult.started e.window.since }
      ({ total := .started e.window.since } : State ρ) :=
    ⟨⟨rfl, rfl, rfl⟩, .refl [], rfl, rfl, rfl⟩
  refine (consume_paired h hsame hstart).bind fun x x' w w' hread => ?_
  cases hread with
  | finished hs hw => exact (finish_paired h hs w w' hw).conclude
  | failed hs hw => exact SameStop.conclude (.failed hs hw)
  | panicked hs hw => exact SameStop.conclude (.panicked hs hw)

end Loading

/-! ## What the sink was handed -/

/-- The same batch, but for the order of ties, with the same verdict. -/
structure SameEntry (x x' : Commit ρ × Attempt CommitReply) : Prop where
  batch : SameBatch x.1 x'.1
  verdict_eq : verdict x.2 = verdict x'.2

/-- Entries that are the same but for ties were both taken, or both not. -/
theorem SameEntry.took_eq {x x' : Commit ρ × Attempt CommitReply} (h : SameEntry x x') :
    took x.2 = took x'.2 := by
  have htook : ∀ reply, took reply = match verdict reply with
      | .committed _ => true
      | _ => false := by
    rintro ((_ | _) | (_ | _)) <;> rfl
  rw [htook, htook, h.verdict_eq]

/-- The committed batches of two logs that are the same, but for the order of ties. -/
theorem forall₂_committedBatches {l l' : List (Commit ρ × Attempt CommitReply)}
    (h : List.Forall₂ SameEntry l l') :
    List.Forall₂ SameButTies (committedBatches l) (committedBatches l') := by
  induction h with
  | nil => exact .nil
  | @cons x x' l l' hx _ ih =>
    rw [committedBatches_cons, committedBatches_cons, ← hx.took_eq]
    split_ifs
    · exact .cons hx.batch.rows ih
    · exact ih

variable {sink : Sink ω ρ} {R : Nat → Nat → ω → ω → Prop}

/-- A sink that also writes the batches down overlooks what it overlooked before. -/
theorem Sink.Overlooks.logged (h : sink.Overlooks R) :
    sink.logged.Overlooks fun d d' v v' => R d d' v.1 v'.1 ∧ List.Forall₂ SameEntry v.2 v'.2 := by
  intro c c' d d' hc v v' hv
  obtain ⟨hreply, hworld⟩ := h c c' d d' hc v.1 v'.1 hv.1
  exact ⟨hreply, hworld, List.rel_append hv.2 (.cons ⟨hc, hreply.verdict_eq⟩ .nil)⟩

/-- From the world `w` on, what a sink tells does not depend on the order of ties: batches that are
the same but for that order get the same verdicts, however many there are, and the durations that
come with these can be added up in every order or in none. -/
def Sink.IgnoresTies (sink : Sink ω ρ) (w : ω) : Prop :=
  ∀ l l' w₁ w₁', sink.Performs w l w₁ → sink.Performs w l' w₁' →
    List.Forall₂ SameBatch (l.map (·.1)) (l'.map (·.1)) →
    l.map (fun x => verdict x.2) = (l'.map fun x => verdict x.2) ∧
      (LoadResult.maxDuration < Loading.loggedDuration l ↔
        LoadResult.maxDuration < Loading.loggedDuration l')

namespace Sink

variable {w w' : ω}

/-- Two worlds that a sink reaches from `w` by the same batches, but for the order of ties, with
durations that add up to `d` and `d'`. -/
def Reached (sink : Sink ω ρ) (w : ω) (d d' : Nat) (w₁ w₁' : ω) : Prop :=
  ∃ l l', sink.Performs w l w₁ ∧ sink.Performs w l' w₁' ∧
    List.Forall₂ SameBatch (l.map (·.1)) (l'.map (·.1)) ∧
    Loading.loggedDuration l = d ∧ Loading.loggedDuration l' = d'

/-- A sink that ignores ties overlooks them in all worlds that it can reach. -/
theorem IgnoresTies.overlooks (h : sink.IgnoresTies w) : sink.Overlooks (sink.Reached w) := by
  rintro c c' _ _ hc w₁ w₁' ⟨l, l', hperf, hperf', hsame, rfl, rfl⟩
  have hnext := hperf.append (.cons (c := c) rfl (.nil _))
  have hnext' := hperf'.append (.cons (c := c') rfl (.nil _))
  have hsame' : List.Forall₂ SameBatch ((l ++ [(c, (sink.commit c w₁).1)]).map (·.1))
      ((l' ++ [(c', (sink.commit c' w₁').1)]).map (·.1)) := by
    rw [List.map_append, List.map_append]
    exact List.rel_append hsame (.cons hc .nil)
  obtain ⟨hverdicts, hoverruns⟩ := h _ _ _ _ hnext hnext' hsame'
  rw [List.map_append, List.map_append] at hverdicts
  rw [Loading.loggedDuration_concat, Loading.loggedDuration_concat] at hoverruns
  exact ⟨⟨List.head_eq_of_cons_eq (List.append_inj' hverdicts rfl).2, hoverruns⟩, _, _, hnext,
    hnext', hsame', Loading.loggedDuration_concat _ _ _, Loading.loggedDuration_concat _ _ _⟩

/-- A sink that overlooks the order of ties tells the same of the same batches. -/
theorem Overlooks.same_replies (h : sink.Overlooks R)
    {l l' : List (Commit ρ × Attempt CommitReply)} {d d' : Nat} {w₁ w₁' : ω} (hw : R d d' w w')
    (hoverruns : LoadResult.maxDuration < d ↔ LoadResult.maxDuration < d')
    (hperf : sink.Performs w l w₁) (hperf' : sink.Performs w' l' w₁')
    (hsame : List.Forall₂ SameBatch (l.map (·.1)) (l'.map (·.1))) :
    l.map (fun x => verdict x.2) = (l'.map fun x => verdict x.2) ∧
      (LoadResult.maxDuration < d + Loading.loggedDuration l ↔
        LoadResult.maxDuration < d' + Loading.loggedDuration l') := by
  induction hperf generalizing d d' w' l' with
  | nil w =>
    obtain rfl : l' = [] := by simpa using hsame
    exact ⟨rfl, hoverruns⟩
  | @cons w w₁ w₂ c reply rest hcommit _ ih =>
    cases hperf' with
    | nil => cases hsame
    | @cons _ w₁' _ c' reply' rest' hcommit' hrest' =>
      obtain ⟨hc, hsame⟩ := List.forall₂_cons.mp hsame
      obtain ⟨hreply, hw⟩ := h c c' d d' hc _ _ hw
      rw [hcommit, hcommit'] at hreply hw
      obtain ⟨hverdicts, hsum⟩ := ih hw hreply.overruns_iff hrest' hsame
      refine ⟨congrArg₂ List.cons hreply.verdict_eq hverdicts, ?_⟩
      rwa [Loading.loggedDuration_cons, Loading.loggedDuration_cons, ← add_assoc, ← add_assoc]

/-- A sink that overlooks ties ignores them. -/
theorem Overlooks.ignoresTies (h : sink.Overlooks R) (hw : R 0 0 w w) : sink.IgnoresTies w := by
  intro l l' w₁ w₁' hperf hperf' hsame
  have hreplies := h.same_replies hw Iff.rfl hperf hperf' hsame
  rwa [zero_add, zero_add] at hreplies

end Sink

/-- **A loader does not see the order of ties**: its results have the same tally, and it hands over
the same batches, but for that order. -/
theorem Loading.run_sameTally {w : ω} (h : sink.IgnoresTies w) (e : Execution)
    {items items' : List (Except Error (Staged ρ))} (hsame : SameRuns items items') :
    (run sink e items w).1.SameTally (run sink e items' w).1 ∧
      List.Forall₂ SameEntry (handed sink e items w) (handed sink e items' w) := by
  have hw : sink.Reached w 0 0 w w := ⟨[], [], .nil w, .nil w, .nil, rfl, rfl⟩
  obtain ⟨htally, -, -, -, hlog⟩ :=
    run_paired h.overlooks.logged (e := e) hsame (w, []) (w, []) ⟨hw, .nil⟩
  rw [run_logged sink e items, run_logged sink e items']
  exact ⟨htally, hlog⟩

end Ingest
