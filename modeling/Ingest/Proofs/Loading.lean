import Ingest.Loading
import Ingest.Proofs.Staged

/-!
# Proofs/Loading — what a loader's result says about its stream

A loader touches the world through commits alone, so a run is the list of its commits and their
replies (`Sink.Performs`). Main statement: `run_books` — the batches that were committed are the
wanted rows of a prefix of the stream, and the result reaches as far as the bound of some row of
that prefix whose successor in the stream is later.
-/

namespace Ingest

variable {ω ρ : Type}

/-! ## Commits as a trace -/

/-- Handing commits to a sink one after the other gives these replies and this world. -/
inductive Sink.Performs (sink : Sink ω ρ) :
    ω → List (Commit ρ × Attempt CommitReply) → ω → Prop where
  | nil (w : ω) : Sink.Performs sink w [] w
  | cons {w w₁ w₂ : ω} {c : Commit ρ} {reply : Attempt CommitReply}
      {rest : List (Commit ρ × Attempt CommitReply)} (h : sink.commit c w = (reply, w₁))
      (hrest : Sink.Performs sink w₁ rest w₂) : Sink.Performs sink w ((c, reply) :: rest) w₂

/-- Commits that are made one after the other are one log. -/
theorem Sink.Performs.append {sink : Sink ω ρ} {w₁ w₂ w₃ : ω}
    {l₁ l₂ : List (Commit ρ × Attempt CommitReply)} (h₁ : sink.Performs w₁ l₁ w₂)
    (h₂ : sink.Performs w₂ l₂ w₃) : sink.Performs w₁ (l₁ ++ l₂) w₃ := by
  induction h₁ with
  | nil w => exact h₂
  | cons h _ ih => exact .cons h (ih h₂)

/-- What holds of each reply of a sink holds of the replies that it gave. -/
theorem Sink.Performs.forall_reply {sink : Sink ω ρ} {w w' : ω}
    {commits : List (Commit ρ × Attempt CommitReply)} {p : Commit ρ → Attempt CommitReply → Prop}
    (h : sink.Performs w commits w') (hp : ∀ c w, p c (sink.commit c w).1) :
    ∀ entry ∈ commits, p entry.1 entry.2 := by
  induction h with
  | nil w => simp
  | @cons w w₁ w₂ c reply rest hcommit hrest ih =>
    intro entry hentry
    rcases List.mem_cons.mp hentry with rfl | hentry
    · have := hp c w
      rwa [hcommit] at this
    · exact ih entry hentry

/-- Whether a sink took a batch. -/
def took : Attempt CommitReply → Bool
  | .ok (.committed _ _) => true
  | _ => false

/-- The rows of the batches that were committed. -/
def committedBatches (commits : List (Commit ρ × Attempt CommitReply)) : List (List ρ) :=
  (commits.filter fun entry => took entry.2).map fun entry => entry.1.rows

theorem committedBatches_cons (c : Commit ρ) (reply : Attempt CommitReply)
    (rest : List (Commit ρ × Attempt CommitReply)) :
    committedBatches ((c, reply) :: rest) =
      (if took reply then [c.rows] else []) ++ committedBatches rest := by
  by_cases h : took reply <;> simp [committedBatches, h]

/-- What two logs in a row committed is what each of them did. -/
theorem committedBatches_append (l₁ l₂ : List (Commit ρ × Attempt CommitReply)) :
    committedBatches (l₁ ++ l₂) = committedBatches l₁ ++ committedBatches l₂ := by
  simp [committedBatches]

variable [Timed ρ]

/-! ## Wanted rows -/

/-- The rows of staged rows that a loader hands to its sink. -/
def Sink.wanted (sink : Sink ω ρ) (e : Execution) (items : List (Staged ρ)) : List ρ :=
  (items.map (·.row)).filter fun r => e.window.since < time r && sink.processable r

/-- Rows are wanted, or not, each for itself. -/
theorem Sink.wanted_append (sink : Sink ω ρ) (e : Execution) (l₁ l₂ : List (Staged ρ)) :
    sink.wanted e (l₁ ++ l₂) = sink.wanted e l₁ ++ sink.wanted e l₂ := by
  simp [Sink.wanted]

theorem Sink.wanted_singleton {sink : Sink ω ρ} {e : Execution} {item : Staged ρ}
    (hs : ¬time item.row ≤ e.window.since) :
    sink.wanted e [item] = [item.row].filter sink.processable :=
  List.filter_congr fun r hr => by
    obtain rfl := List.mem_singleton.mp hr
    simp [not_le.mp hs]

namespace Loading

/-! ## How far a loader got -/

/-- The batches that were committed hold the wanted rows of a prefix `done` of the stream, and
`upTo` is the start of the window or the bound of a row of that prefix with a later successor. -/
structure Books (sink : Sink ω ρ) (e : Execution) (items : List (Except Error (Staged ρ)))
    (done : List (Staged ρ)) (rest : List (Except Error (Staged ρ))) (batches : List (List ρ))
    (upTo : Instant) : Prop where
  split : items = done.map .ok ++ rest
  flatten_batches : batches.flatten = sink.wanted e done
  since_le : e.window.since ≤ upTo
  bound_le : ∀ it ∈ done.getLast?, it.bound ≤ upTo
  reached : e.window.since < upTo → ∃ front it back, done = front ++ it :: back ∧ it.bound = upTo ∧
    it.NextLater (back.map .ok ++ rest)

/-- What the state of a loader knows about the rows read after the last commit. -/
structure Reading (sink : Sink ω ρ) (e : Execution) (done opened : List (Staged ρ))
    (s : State ρ) : Prop where
  last : s.last = (done ++ opened).getLast?.map fun it => time it.row
  settled : s.settled = (done ++ opened).getLast?.bind (·.settled)
  buffer : s.buffer = sink.wanted e opened
  within : ∀ t ∈ s.last, t ≤ e.window.since ∨ t ≤ e.window.upTo

variable {sink : Sink ω ρ} {e : Execution} {items rest : List (Except Error (Staged ρ))}
  {done opened : List (Staged ρ)} {batches : List (List ρ)} {upTo : Instant} {s : State ρ}

/-- A checkpoint is where the last row is settled, and never before the start of the window. -/
theorem checkpointAfter_eq (it : Staged ρ) (since : Instant) :
    checkpointAfter (time it.row) it.settled since = max it.bound since := rfl

theorem Books.idle (h : Books sink e items done rest batches upTo) :
    Books sink e items done rest (batches ++ committedBatches []) upTo := by
  simpa [committedBatches] using h

/-- A batch that the sink did not take changes nothing. -/
theorem Books.lost (h : Books sink e items done rest batches upTo) {c : Commit ρ}
    {reply : Attempt CommitReply} (hlost : took reply = false) :
    Books sink e items done rest (batches ++ committedBatches [(c, reply)]) upTo := by
  rw [committedBatches_cons, hlost]
  exact h.idle

/-- **A longer stream.** If the result moved there must be an entry that is not done, so that what
follows the rows that are done does not change. -/
theorem Books.extend (h : Books sink e items done rest batches upTo)
    (hrest : rest = [] → upTo ≤ e.window.since) (more : List (Except Error (Staged ρ))) :
    Books sink e (items ++ more) done (rest ++ more) batches upTo where
  split := by rw [h.split, List.append_assoc]
  flatten_batches := h.flatten_batches
  since_le := h.since_le
  bound_le := h.bound_le
  reached hlt := by
    obtain ⟨front, it, back, hdone, hbound, hnext⟩ := h.reached hlt
    have hne : back.map .ok ++ rest ≠ [] := fun hnil =>
      hlt.not_ge (hrest (List.append_eq_nil_iff.mp hnil).2)
    refine ⟨front, it, back, hdone, hbound, ?_⟩
    rwa [Staged.NextLater, ← List.append_assoc, List.head?_append_of_ne_nil _ hne]

/-- **Everything read so far is done.** The books move to the last row read. -/
theorem Books.advance (h : Books sink e items done (opened.map .ok ++ rest) batches upTo)
    {it : Staged ρ} (hit : (done ++ opened).getLast? = some it) (hnext : it.NextLater rest)
    {more : List (List ρ)} (hmore : more.flatten = sink.wanted e opened) :
    Books sink e items (done ++ opened) rest (batches ++ more)
      (max upTo (max it.bound e.window.since)) where
  split := by rw [h.split, List.map_append, List.append_assoc]
  flatten_batches := by
    rw [List.flatten_append, h.flatten_batches, hmore, Sink.wanted_append]
  since_le := h.since_le.trans (le_max_left _ _)
  bound_le last hlast := by
    obtain rfl : it = last := Option.some.inj (hit.symm.trans hlast)
    exact (le_max_left _ _).trans (le_max_right _ _)
  reached hlt := by
    rcases le_or_gt (max it.bound e.window.since) upTo with hle | hgt
    · rw [max_eq_left hle] at hlt ⊢
      obtain ⟨front, b, back, hdone, hb, hlater⟩ := h.reached hlt
      refine ⟨front, b, back ++ opened, by rw [hdone]; simp, hb, ?_⟩
      rwa [List.map_append, List.append_assoc]
    · rw [max_eq_right hgt.le] at hlt ⊢
      obtain ⟨front, hfront⟩ := List.getLast?_eq_some_iff.mp hit
      have hsince : e.window.since < it.bound := (lt_max_iff.mp hlt).resolve_right (lt_irrefl _)
      exact ⟨front, it, [], hfront, (max_eq_left hsince.le).symm, by simpa using hnext⟩

/-! ## One batch -/

/-- A batch that is committed adds no message. -/
theorem message_add_committed (total : LoadResult) (rows : Nat) (upTo : Instant)
    (duration : Nat) : (total + .committed rows upTo duration).message = total.message := by
  change joinMessages total.message none = _
  cases total.message <;> rfl

section Flush

variable {group : String} {w w' : ω}

omit [Timed ρ]

/-- The state after the buffer was handed over. -/
def State.handOver (s : State ρ) : State ρ := { s with buffer := [], batches := s.batches + 1 }

/-- The state after the buffer was committed. -/
def State.book (s : State ρ) (rows : Nat) (upTo : Instant) (duration : Nat) : State ρ :=
  let total := s.total + .committed rows upTo duration
  { s.handOver with
    total := total
    events := s.events ++ [.batch ⟨s.batches + 1, rows, upTo, duration, total⟩] }

/-- What handing over a batch does, case by case. -/
inductive Flush (sink : Sink ω ρ) (group : String) (upTo : Instant) (s : State ρ) (w : ω) :
    State ρ × Option Ending → ω → Prop where
  /-- The batch is committed. -/
  | takes {rows duration : Nat} {w' : ω} (hroom : s.batches < maxBatches)
      (hcommit : sink.commit ⟨group, s.batches + 1, s.buffer⟩ w
        = (.ok (.committed rows duration), w'))
      (hadd : s.total.add? (.committed rows upTo duration)
        = .ok (s.total + .committed rows upTo duration)) :
      Flush sink group upTo s w (s.book rows upTo duration, none) w'
  /-- The batch is not committed. -/
  | loses {reply : Attempt CommitReply} {ending : Ending} {w' : ω}
      (hroom : s.batches < maxBatches)
      (hcommit : sink.commit ⟨group, s.batches + 1, s.buffer⟩ w = (reply, w'))
      (hlost : took reply = false)
      (hend : (∃ m, ending = .failed m) ∨ ∃ p, ending = .panicked p ∧ reply = .error (.panic p)) :
      Flush sink group upTo s w (s.handOver, some ending) w'
  /-- The batch is committed, and what it adds to the result is too much. -/
  | overruns {rows duration : Nat} {p : Panic} {w' : ω} (hroom : s.batches < maxBatches)
      (hcommit : sink.commit ⟨group, s.batches + 1, s.buffer⟩ w
        = (.ok (.committed rows duration), w'))
      (hadd : s.total.add? (.committed rows upTo duration) = .error p) :
      Flush sink group upTo s w (s.handOver, some (.panicked p)) w'
  /-- There is no number for the batch. -/
  | exhausts (hfull : maxBatches ≤ s.batches) :
      Flush sink group upTo s w (s, some (.panicked .counterOverflow)) w

/-- Without a number for the batch nothing is handed over. -/
theorem flush_of_full (hfull : maxBatches ≤ s.batches) (w : ω) :
    flush sink group upTo s w = ((s, some (.panicked .counterOverflow)), w) := by
  rw [flush, if_pos hfull]
  rfl

/-- A batch that is committed and whose reply can be added is booked. -/
theorem flush_of_committed {rows duration : Nat} (hroom : s.batches < maxBatches)
    (h : sink.commit ⟨group, s.batches + 1, s.buffer⟩ w = (.ok (.committed rows duration), w'))
    (hadd : s.total.add? (.committed rows upTo duration)
      = .ok (s.total + .committed rows upTo duration)) :
    flush sink group upTo s w = ((s.book rows upTo duration, none), w') := by
  rw [flush, if_neg hroom.not_ge]
  simp only [bind, StateT.bind, h, hadd]
  rfl

/-- A batch can be committed and yet too much for the totals. -/
theorem flush_of_overrun {rows duration : Nat} (hroom : s.batches < maxBatches)
    (h : sink.commit ⟨group, s.batches + 1, s.buffer⟩ w = (.ok (.committed rows duration), w'))
    {p : Panic} (hadd : s.total.add? (.committed rows upTo duration) = .error p) :
    flush sink group upTo s w = ((s.handOver, some (.panicked p)), w') := by
  rw [flush, if_neg hroom.not_ge]
  simp only [bind, StateT.bind, h, hadd]
  rfl

/-- A batch that is turned down ends the run with the reason. -/
theorem flush_of_rejected {reason : Option String} (hroom : s.batches < maxBatches)
    (h : sink.commit ⟨group, s.batches + 1, s.buffer⟩ w = (.ok (.rejected reason), w')) :
    flush sink group upTo s w =
      ((s.handOver, some (.failed
        (batchFailure (s.batches + 1) s.buffer.length "was rejected by" sink.name
          (reason.getD "no reason given")))), w') := by
  rw [flush, if_neg hroom.not_ge]
  simp only [bind, StateT.bind, h]
  rfl

/-- A batch that fails ends the run with the error. -/
theorem flush_of_error {err : Error} (hroom : s.batches < maxBatches)
    (h : sink.commit ⟨group, s.batches + 1, s.buffer⟩ w = (.error (.error err), w')) :
    flush sink group upTo s w =
      ((s.handOver, some (.failed
        (batchFailure (s.batches + 1) s.buffer.length "failed in" sink.name err.message))),
        w') := by
  rw [flush, if_neg hroom.not_ge]
  simp only [bind, StateT.bind, h]
  rfl

/-- A sink that panics takes its loader with it. -/
theorem flush_of_panic {p : Panic} (hroom : s.batches < maxBatches)
    (h : sink.commit ⟨group, s.batches + 1, s.buffer⟩ w = (.error (.panic p), w')) :
    flush sink group upTo s w = ((s.handOver, some (.panicked p)), w') := by
  rw [flush, if_neg hroom.not_ge]
  simp only [bind, StateT.bind, h]
  rfl

/-- **Handing over a batch** does one of these things. -/
theorem flush_spec (sink : Sink ω ρ) (group : String) (upTo : Instant) (s : State ρ) (w : ω) :
    Flush sink group upTo s w (flush sink group upTo s w).1 (flush sink group upTo s w).2 := by
  by_cases hroom : s.batches < maxBatches
  swap
  · rw [flush_of_full (not_lt.mp hroom)]
    exact .exhausts (not_lt.mp hroom)
  rcases hc : sink.commit ⟨group, s.batches + 1, s.buffer⟩ w with
    ⟨(err | p) | (⟨rows, d⟩ | reason), w₁⟩
  · rw [flush_of_error hroom hc]
    exact .loses hroom hc rfl (.inl ⟨_, rfl⟩)
  · rw [flush_of_panic hroom hc]
    exact .loses hroom hc rfl (.inr ⟨p, rfl, rfl⟩)
  · rcases hadd : s.total.add? (.committed rows upTo d) with p | total
    · rw [flush_of_overrun hroom hc hadd]
      exact .overruns hroom hc hadd
    · obtain ⟨-, -, rfl⟩ := LoadResult.add?_eq_ok_iff.mp hadd
      rw [flush_of_committed hroom hc hadd]
      exact .takes hroom hc hadd
  · rw [flush_of_rejected hroom hc]
    exact .loses hroom hc rfl (.inl ⟨_, rfl⟩)

/-- Every flush is one of the cases above. -/
theorem flush_spec_of_eq {out : State ρ × Option Ending}
    (h : flush sink group upTo s w = (out, w')) : Flush sink group upTo s w out w' := by
  have hspec := flush_spec sink group upTo s w
  rwa [h] at hspec

/-- A batch that was committed moves the result to `upTo`. -/
theorem flush_of_none {s' : State ρ} (h : flush sink group upTo s w = ((s', none), w')) :
    ∃ rows duration,
      sink.commit ⟨group, s.batches + 1, s.buffer⟩ w = (.ok (.committed rows duration), w') ∧
      s'.total.upTo = max s.total.upTo upTo ∧ s'.buffer = [] ∧ s'.last = s.last ∧
      s'.settled = s.settled ∧ s'.batches = s.batches + 1 ∧
      s'.total.message = s.total.message := by
  cases flush_spec_of_eq h with
  | takes hroom hcommit hadd =>
    exact ⟨_, _, hcommit, rfl, rfl, rfl, rfl, rfl, message_add_committed _ _ _ _⟩

/-- A loader that stops has not moved its result, and does not stop well. -/
theorem flush_of_some {s' : State ρ} {ending : Ending}
    (h : flush sink group upTo s w = ((s', some ending), w')) :
    s'.total = s.total ∧ s'.events = s.events ∧ ending ≠ .finished := by
  cases flush_spec_of_eq h with
  | loses hroom hcommit hlost hend =>
    obtain ⟨m, rfl⟩ | ⟨p, rfl, -⟩ := hend
    · exact ⟨rfl, rfl, by simp⟩
    · exact ⟨rfl, rfl, by simp⟩
  | overruns => exact ⟨rfl, rfl, by simp⟩
  | exhausts => exact ⟨rfl, rfl, by simp⟩

/-- A loader that fails has lost its batch. -/
theorem flush_of_failed {s' : State ρ} {m : String}
    (h : flush sink group upTo s w = ((s', some (.failed m)), w')) :
    ∃ reply, sink.commit ⟨group, s.batches + 1, s.buffer⟩ w = (reply, w') ∧
      took reply = false := by
  cases flush_spec_of_eq h with
  | loses hroom hcommit hlost hend => exact ⟨_, hcommit, hlost⟩

end Flush

/-! ## One row -/

section Step

variable {w w' : ω} {item : Staged ρ}

/-- The state after a row of the window was read. -/
def State.accept (sink : Sink ω ρ) (s : State ρ) (item : Staged ρ) : State ρ :=
  if sink.processable item.row then s.keep item else s.pass item

/-- A row that comes after a later one ends the run. -/
theorem step_of_descent {last : Instant} (h : s.descent? (time item.row) = some last) :
    step sink e s (.ok item) w =
      ((s, some (.failed (Error.ordering (time item.row) last).message)), w) := by
  simp only [step, h]
  rfl

/-- A row from before the window is passed over. -/
theorem step_of_le_since (h : s.descent? (time item.row) = none)
    (hs : time item.row ≤ e.window.since) :
    step sink e s (.ok item) w = ((s.pass item, none), w) := by
  simp only [step, h, hs, if_true]
  rfl

/-- A row from behind the window ends the run. -/
theorem step_of_upTo_lt (h : s.descent? (time item.row) = none)
    (hs : ¬time item.row ≤ e.window.since) (hu : e.window.upTo < time item.row) :
    step sink e s (.ok item) w = ((s, some .finished), w) := by
  simp only [step, h, hs, hu, if_true, if_false]
  rfl

/-- A row of the window is taken in once the batch before it is closed, if it has to be. -/
theorem step_of_within (h : s.descent? (time item.row) = none)
    (hs : ¬time item.row ≤ e.window.since) (hu : ¬e.window.upTo < time item.row)
    {ending : Option Ending} {s' : State ρ}
    (hc : closeBatch sink e (time item.row) s w = ((s', ending), w')) :
    step sink e s (.ok item) w =
      ((if ending.isSome then s' else s'.accept sink item, ending), w') := by
  simp only [step, h, hs, hu, if_false, bind, StateT.bind, hc]
  cases ending <;> rfl

omit [Timed ρ] in
/-- The batch stays open as long as it is short or the timestamp is that of the last row. -/
theorem closeBatch_of_open {t : Instant} (w : ω)
    (h : ∀ last, s.last = some last → t ≠ last → s.buffer.length < max e.batchSize 1) :
    closeBatch sink e t s w = ((s, none), w) := by
  unfold closeBatch
  rcases hl : s.last with _ | last
  · rfl
  · have hopen : ¬(t ≠ last ∧ max e.batchSize 1 ≤ s.buffer.length) := fun hc =>
      (h last hl hc.1).not_ge hc.2
    simp only [if_neg hopen]
    rfl

omit [Timed ρ] in
/-- A full batch is handed over when the timestamp changes. -/
theorem closeBatch_of_full {t last : Instant} (w : ω) (hl : s.last = some last) (hne : t ≠ last)
    (hfull : max e.batchSize 1 ≤ s.buffer.length) :
    closeBatch sink e t s w =
      flush sink e.group (checkpointAfter last s.settled e.window.since) s w := by
  simp only [closeBatch, hl, if_pos (And.intro hne hfull)]

/-- What reading one entry does, case by case. -/
inductive Step (sink : Sink ω ρ) (e : Execution) (s : State ρ) (w : ω) :
    Except Error (Staged ρ) → State ρ × Option Ending → ω → Prop where
  | fault (err : Error) : Step sink e s w (.error err) (s, some (.failed err.message)) w
  | descends {item : Staged ρ} {last : Instant} (hd : s.descent? (time item.row) = some last) :
      Step sink e s w (.ok item)
        (s, some (.failed (Error.ordering (time item.row) last).message)) w
  | early {item : Staged ρ} (hd : s.descent? (time item.row) = none)
      (hs : time item.row ≤ e.window.since) : Step sink e s w (.ok item) (s.pass item, none) w
  | late {item : Staged ρ} (hd : s.descent? (time item.row) = none)
      (hs : ¬time item.row ≤ e.window.since) (hu : e.window.upTo < time item.row) :
      Step sink e s w (.ok item) (s, some .finished) w
  | gathers {item : Staged ρ} (hd : s.descent? (time item.row) = none)
      (hs : ¬time item.row ≤ e.window.since) (hu : ¬e.window.upTo < time item.row)
      (hopen : ∀ last, s.last = some last → time item.row ≠ last →
        s.buffer.length < max e.batchSize 1) :
      Step sink e s w (.ok item) (s.accept sink item, none) w
  | closes {item : Staged ρ} {last : Instant} {s' : State ρ} {w' : ω}
      (hd : s.descent? (time item.row) = none) (hs : ¬time item.row ≤ e.window.since)
      (hu : ¬e.window.upTo < time item.row) (hl : s.last = some last)
      (hlater : last < time item.row) (hfull : max e.batchSize 1 ≤ s.buffer.length)
      (hflush : flush sink e.group (checkpointAfter last s.settled e.window.since) s w =
        ((s', none), w')) : Step sink e s w (.ok item) (s'.accept sink item, none) w'
  | loses {item : Staged ρ} {last : Instant} {s' : State ρ} {ending : Ending} {w' : ω}
      (hd : s.descent? (time item.row) = none) (hs : ¬time item.row ≤ e.window.since)
      (hu : ¬e.window.upTo < time item.row) (hl : s.last = some last)
      (hlater : last < time item.row) (hfull : max e.batchSize 1 ≤ s.buffer.length)
      (hflush : flush sink e.group (checkpointAfter last s.settled e.window.since) s w =
        ((s', some ending), w')) : Step sink e s w (.ok item) (s', some ending) w'

omit [Timed ρ] in
theorem State.not_lt_of_descent? {t last : Instant} (h : s.descent? t = none)
    (hl : s.last = some last) : ¬t < last := by
  simpa [State.descent?, hl] using h

/-- **Reading an entry** does one of these things. -/
theorem step_spec (sink : Sink ω ρ) (e : Execution) (s : State ρ) (w : ω)
    (entry : Except Error (Staged ρ)) :
    Step sink e s w entry (step sink e s entry w).1 (step sink e s entry w).2 := by
  rcases entry with err | item
  · exact .fault err
  rcases hd : s.descent? (time item.row) with _ | last
  swap
  · rw [step_of_descent hd]
    exact .descends hd
  by_cases hs : time item.row ≤ e.window.since
  · rw [step_of_le_since hd hs]
    exact .early hd hs
  by_cases hu : e.window.upTo < time item.row
  · rw [step_of_upTo_lt hd hs hu]
    exact .late hd hs hu
  by_cases hc : ∃ last, s.last = some last ∧ time item.row ≠ last ∧
      max e.batchSize 1 ≤ s.buffer.length
  · obtain ⟨last, hl, hne, hfull⟩ := hc
    have hlater : last < time item.row :=
      lt_of_le_of_ne (not_lt.mp (State.not_lt_of_descent? hd hl)) hne.symm
    rcases hflush : flush sink e.group (checkpointAfter last s.settled e.window.since) s w with
      ⟨⟨s', _ | ending⟩, w'⟩
    · rw [step_of_within hd hs hu ((closeBatch_of_full w hl hne hfull).trans hflush)]
      exact .closes hd hs hu hl hlater hfull hflush
    · rw [step_of_within hd hs hu ((closeBatch_of_full w hl hne hfull).trans hflush)]
      exact .loses hd hs hu hl hlater hfull hflush
  · have hopen : ∀ last, s.last = some last → time item.row ≠ last →
        s.buffer.length < max e.batchSize 1 := fun last hl hne =>
      not_le.mp fun hfull => hc ⟨last, hl, hne, hfull⟩
    rw [step_of_within hd hs hu (closeBatch_of_open w hopen)]
    exact .gathers hd hs hu hopen

/-- Every step is one of the cases above. -/
theorem step_spec_of_eq {entry : Except Error (Staged ρ)} {out : State ρ × Option Ending}
    (h : step sink e s entry w = (out, w')) : Step sink e s w entry out w' := by
  have hspec := step_spec sink e s w entry
  rwa [h] at hspec

/-- A row of the window does not end a loader well. -/
theorem step_ne_finished (s : State ρ) (hin : time item.row ≤ e.window.upTo) (w : ω) :
    (step sink e s (.ok item) w).1.2 ≠ some .finished := by
  rcases hstep : step sink e s (.ok item) w with ⟨⟨s', ending⟩, w'⟩
  cases step_spec_of_eq hstep with
  | descends => simp
  | early => simp
  | late hd hs hu => exact absurd hin (not_le.mpr hu)
  | gathers => simp
  | closes => simp
  | loses hd hs hu hl hlater hfull hflush => simpa using (flush_of_some hflush).2.2

theorem consume_cons_of_none {todo : List (Except Error (Staged ρ))}
    {item : Except Error (Staged ρ)} {s' : State ρ} (h : step sink e s item w = ((s', none), w')) :
    consume sink e (item :: todo) s w = consume sink e todo s' w' := by
  simp only [consume, bind, StateT.bind, h]

theorem consume_cons_of_some {todo : List (Except Error (Staged ρ))}
    {item : Except Error (Staged ρ)} {s' : State ρ} {ending : Ending}
    (h : step sink e s item w = ((s', some ending), w')) :
    consume sink e (item :: todo) s w = ((s', ending), w') := by
  simp only [consume, bind, StateT.bind, h]
  rfl

end Step

/-! ## All rows -/

@[simp] theorem State.accept_last (s : State ρ) (item : Staged ρ) :
    (s.accept sink item).last = some (time item.row) := by
  unfold State.accept
  split <;> rfl

@[simp] theorem State.accept_settled (s : State ρ) (item : Staged ρ) :
    (s.accept sink item).settled = item.settled := by
  unfold State.accept
  split <;> rfl

@[simp] theorem State.accept_total (s : State ρ) (item : Staged ρ) :
    (s.accept sink item).total = s.total := by
  unfold State.accept
  split <;> rfl

@[simp] theorem State.accept_batches (s : State ρ) (item : Staged ρ) :
    (s.accept sink item).batches = s.batches := by
  unfold State.accept
  split <;> rfl

@[simp] theorem State.accept_events (s : State ρ) (item : Staged ρ) :
    (s.accept sink item).events = s.events := by
  unfold State.accept
  split <;> rfl

/-- A row of the window is wanted if the sink can process it. -/
theorem accept_buffer {item : Staged ρ} (hs : ¬time item.row ≤ e.window.since)
    (hb : s.buffer = sink.wanted e opened) :
    (s.accept sink item).buffer = sink.wanted e (opened ++ [item]) := by
  rw [Sink.wanted_append, ← hb]
  unfold State.accept
  split_ifs with hp <;> simp [State.keep, State.pass, Sink.wanted, hp, not_le.mp hs]

/-- A row of the window is taken in. -/
theorem Reading.accept (h : Reading sink e done opened s) {item : Staged ρ}
    (hs : ¬time item.row ≤ e.window.since) (hu : ¬e.window.upTo < time item.row) :
    Reading sink e done (opened ++ [item]) (s.accept sink item) where
  last := by simp
  settled := by simp
  buffer := accept_buffer hs h.buffer
  within t ht := by
    obtain rfl : time item.row = t := by simpa using ht
    exact .inr (not_lt.mp hu)

/-- A new batch starts with a row of the window. -/
theorem Reading.restart {item : Staged ρ} (hb : s.buffer = [])
    (hs : ¬time item.row ≤ e.window.since) (hu : ¬e.window.upTo < time item.row) :
    Reading sink e done [item] (s.accept sink item) where
  last := by simp
  settled := by simp
  buffer := accept_buffer hs (show s.buffer = sink.wanted e [] from hb)
  within t ht := by
    obtain rfl : time item.row = t := by simpa using ht
    exact .inr (not_lt.mp hu)

/-- A row from before the window is read and not taken in. -/
theorem Reading.pass (h : Reading sink e done opened s) {item : Staged ρ}
    (hs : time item.row ≤ e.window.since) :
    Reading sink e done (opened ++ [item]) (s.pass item) where
  last := by simp [State.pass]
  settled := by simp [State.pass]
  buffer := by
    rw [Sink.wanted_append, ← h.buffer]
    simp [State.pass, Sink.wanted, not_lt.mpr hs]
  within t ht := by
    obtain rfl : time item.row = t := by simpa [State.pass] using ht
    exact .inl hs

/-- The last row read, as the state of the loader has it. -/
theorem Reading.getLast? (h : Reading sink e done opened s) {t : Instant} (ht : s.last = some t) :
    ∃ it, (done ++ opened).getLast? = some it ∧ time it.row = t ∧ it.settled = s.settled := by
  obtain ⟨it, hit, rfl⟩ := Option.map_eq_some_iff.mp (h.last ▸ ht)
  exact ⟨it, hit, rfl, by rw [h.settled, hit]; rfl⟩

/-- The row that ends the window is later than what was read. -/
theorem Reading.nextLater (h : Reading sink e done opened s) {item it : Staged ρ}
    (hs : ¬time item.row ≤ e.window.since) (hu : e.window.upTo < time item.row)
    (hit : (done ++ opened).getLast? = some it) : it.NextLater (.ok item :: rest) := by
  rw [Staged.nextLater_cons]
  rcases h.within _ (by rw [h.last, hit]; rfl) with hle | hle
  · exact hle.trans_lt (not_le.mp hs)
  · exact hle.trans_lt hu

/-- How a loader may stop reading at `rest`. Only one that breaks off leaves books that are not in
order. -/
def StopsAt (sink : Sink ω ρ) (e : Execution) (items : List (Except Error (Staged ρ)))
    (done opened : List (Staged ρ)) (rest : List (Except Error (Staged ρ)))
    (batches : List (List ρ)) (s : State ρ) : Ending → Prop
  | .finished => Books sink e items done (opened.map .ok ++ rest) batches s.total.upTo ∧
      Reading sink e done opened s ∧ ∀ it, (done ++ opened).getLast? = some it → it.NextLater rest
  | .failed _ => Books sink e items done (opened.map .ok ++ rest) batches s.total.upTo
  | .panicked _ => True

/-- A loader that does not break off leaves its books in order. -/
theorem StopsAt.books {ending : Ending} (h : StopsAt sink e items done opened rest batches s ending)
    (hend : ∀ p, ending ≠ .panicked p) :
    Books sink e items done (opened.map .ok ++ rest) batches s.total.upTo := by
  cases ending with
  | finished => exact h.1
  | failed m => exact h
  | panicked p => exact absurd rfl (hend p)

/-- A loader that stops at a batch has not moved. Unless it breaks off, it committed nothing. -/
theorem Books.stopped (h : Books sink e items done rest batches s.total.upTo) {group : String}
    {s' : State ρ} {ending : Ending} {w w' : ω}
    (hflush : flush sink group upTo s w = ((s', some ending), w')) :
    ∃ commits, sink.Performs w commits w' ∧ ((∀ p, ending ≠ .panicked p) →
      Books sink e items done rest (batches ++ committedBatches commits) s'.total.upTo) := by
  cases flush_spec_of_eq hflush with
  | loses hroom hcommit hlost hend => exact ⟨[_], .cons hcommit (.nil w'), fun _ => h.lost hlost⟩
  | overruns hroom hcommit hadd =>
    exact ⟨[_], .cons hcommit (.nil w'), fun hne => absurd rfl (hne _)⟩
  | exhausts hfull => exact ⟨[], .nil w, fun hne => absurd rfl (hne _)⟩

/-- **What one entry of a stream commits.** The books move when a row closes a batch, because that
row is later than all rows before it. A loader that goes on has read the row; one that stops has not
moved. -/
theorem step_books {entry : Except Error (Staged ρ)} {todo : List (Except Error (Staged ρ))} {w : ω}
    (hb : Books sink e items done (opened.map .ok ++ entry :: todo) batches s.total.upTo)
    (hr : Reading sink e done opened s) :
    let out := step sink e s entry w
    ∃ commits, sink.Performs w commits out.2 ∧
      ((∃ done' front it, entry = .ok it ∧ out.1.2 = none ∧
          Books sink e items done' ((front ++ [it]).map .ok ++ todo)
            (batches ++ committedBatches commits) out.1.1.total.upTo ∧
          Reading sink e done' (front ++ [it]) out.1.1) ∨
        ∃ ending, out.1.2 = some ending ∧
          StopsAt sink e items done opened (entry :: todo) (batches ++ committedBatches commits)
            out.1.1 ending) := by
  rcases hstep : step sink e s entry w with ⟨⟨s', ending⟩, w'⟩
  cases step_spec_of_eq hstep with
  | fault err => exact ⟨[], .nil w, .inr ⟨_, rfl, hb.idle⟩⟩
  | descends hd => exact ⟨[], .nil w, .inr ⟨_, rfl, hb.idle⟩⟩
  | @early item hd hs =>
    have hassoc : opened.map .ok ++ .ok item :: todo
        = (opened ++ [item]).map .ok ++ todo := by simp
    exact ⟨[], .nil w, .inl ⟨done, opened, item, rfl, rfl, (hassoc ▸ hb).idle, hr.pass hs⟩⟩
  | late hd hs hu =>
    exact ⟨[], .nil w, .inr ⟨_, rfl, hb.idle, hr, fun it hit => hr.nextLater hs hu hit⟩⟩
  | @gathers item hd hs hu hopen =>
    have hassoc : opened.map .ok ++ .ok item :: todo
        = (opened ++ [item]).map .ok ++ todo := by simp
    refine ⟨[], .nil w, .inl ⟨done, opened, item, rfl, rfl, ?_, hr.accept hs hu⟩⟩
    rw [State.accept_total]
    exact (hassoc ▸ hb).idle
  | @closes item last s' w' hd hs hu hl hlater hfull hflush =>
    -- the batch is committed, so the books move to the row before `item`
    obtain ⟨it, hit, rfl, hset⟩ := hr.getLast? hl
    obtain ⟨rows, d, hcommit, htotal, hempty, -⟩ := flush_of_none hflush
    have hmore : (committedBatches [(⟨e.group, s.batches + 1, s.buffer⟩,
        .ok (.committed rows d))]).flatten = sink.wanted e opened := by
      simp [committedBatches, took, hr.buffer]
    have hbooks := hb.advance hit (Staged.nextLater_cons.mpr hlater) hmore
    rw [← checkpointAfter_eq, hset, ← htotal] at hbooks
    refine ⟨[_], .cons hcommit (.nil w'), .inl ⟨done ++ opened, [], item, rfl, rfl, ?_,
      Reading.restart hempty hs hu⟩⟩
    rw [State.accept_total]
    exact hbooks
  | @loses item last s' ending w' hd hs hu hl hlater hfull hflush =>
    -- nothing more is read after a batch at which the loader stops
    obtain ⟨commits, hperf, hbooks⟩ := hb.stopped hflush
    refine ⟨commits, hperf, .inr ⟨ending, rfl, ?_⟩⟩
    cases ending with
    | finished => exact absurd rfl (flush_of_some hflush).2.2
    | failed m => exact hbooks (by simp)
    | panicked p => trivial

/-- **What reading a stream commits.** By induction on the stream, entry by entry. -/
theorem consume_books {todo : List (Except Error (Staged ρ))} {w : ω}
    (hb : Books sink e items done (opened.map .ok ++ todo) batches s.total.upTo)
    (hr : Reading sink e done opened s) :
    let out := consume sink e todo s w
    ∃ commits done' opened' rest, sink.Performs w commits out.2 ∧
      StopsAt sink e items done' opened' rest (batches ++ committedBatches commits) out.1.1
        out.1.2 := by
  induction todo generalizing done opened batches s w with
  | nil =>
    exact ⟨[], done, opened, [], .nil w, hb.idle, hr, fun it _ => it.nextLater_nil⟩
  | cons entry todo ih =>
    obtain ⟨commits, hperf, hcase⟩ := step_books (w := w) hb hr
    rcases hstep : step sink e s entry w with ⟨⟨s', ending⟩, w'⟩
    rw [hstep] at hperf hcase
    rcases hcase with ⟨done', front, it, -, rfl, hbooks, hreading⟩ | ⟨ending, rfl, hstop⟩
    · rw [consume_cons_of_none hstep]
      obtain ⟨commits', done'', opened', rest, hperf', hstop'⟩ := ih (w := w') hbooks hreading
      refine ⟨commits ++ commits', done'', opened', rest, hperf.append hperf', ?_⟩
      rwa [committedBatches_append, ← List.append_assoc]
    · rw [consume_cons_of_some hstep]
      exact ⟨commits, done, opened, _, hperf, hstop⟩

section Finish

variable {w w' : ω} {last : Instant}

omit [Timed ρ]

/-- Nothing was read, so there is nothing to do at the end. -/
theorem finish_of_none (hl : s.last = none) : finish sink e s w = ((s, .finished), w) := by
  simp only [finish, hl]
  rfl

/-- Rows that were only passed over move the instant on. -/
theorem finish_of_nil (hl : s.last = some last) (hb : s.buffer = []) :
    finish sink e s w = (({ s with total := { s.total with
      upTo := max s.total.upTo (checkpointAfter last s.settled e.window.since) } }, .finished),
      w) := by
  simp only [finish, hl, hb, List.isEmpty_nil, if_true]
  rfl

/-- The rows that are left are the last batch. -/
theorem finish_of_ne_nil (hl : s.last = some last) (hb : s.buffer ≠ []) {ending : Option Ending}
    {s' : State ρ}
    (hflush : flush sink e.group (checkpointAfter last s.settled e.window.since) s w =
      ((s', ending), w')) : finish sink e s w = ((s', ending.getD .finished), w') := by
  simp only [finish, hl, List.isEmpty_eq_false_iff.mpr hb, Bool.false_eq_true, if_false, bind,
    StateT.bind, hflush]
  rfl

end Finish

/-- What the end of a stream commits: the rest of the buffer. The books move on over rows that were
read, if they move at all. -/
theorem finish_books (hb : Books sink e items done (opened.map .ok ++ rest) batches s.total.upTo)
    (hr : Reading sink e done opened s)
    (hnext : ∀ it, (done ++ opened).getLast? = some it → it.NextLater rest) (w : ω) :
    let out := finish sink e s w
    ∃ commits done' rest', sink.Performs w commits out.2 ∧
      done' <+: done ++ opened ∧ ((∀ p, out.1.2 ≠ .panicked p) →
        Books sink e items done' rest' (batches ++ committedBatches commits)
          out.1.1.total.upTo) := by
  rcases hl : s.last with _ | last
  · rw [finish_of_none hl]
    exact ⟨[], done, _, .nil w, List.prefix_append _ _, fun _ => hb.idle⟩
  obtain ⟨it, hit, rfl, hset⟩ := hr.getLast? hl
  by_cases hempty : s.buffer = []
  · rw [finish_of_nil hl hempty, ← hset, checkpointAfter_eq]
    refine ⟨[], done ++ opened, rest, .nil w, List.prefix_rfl, fun _ => ?_⟩
    exact hb.advance hit (hnext it hit) (by simp [committedBatches, ← hr.buffer, hempty])
  rcases hflush : flush sink e.group (checkpointAfter (time it.row) s.settled e.window.since) s w
    with ⟨⟨s', _ | ending⟩, w'⟩
  · obtain ⟨rows, d, hcommit, htotal, -⟩ := flush_of_none hflush
    rw [finish_of_ne_nil hl hempty hflush]
    refine ⟨[_], done ++ opened, rest, .cons hcommit (.nil w'), List.prefix_rfl, fun _ => ?_⟩
    rw [htotal, ← hset, checkpointAfter_eq]
    exact hb.advance hit (hnext it hit) (by simp [committedBatches, took, hr.buffer])
  · obtain ⟨commits, hperf, hbooks⟩ := hb.stopped hflush
    rw [finish_of_ne_nil hl hempty hflush]
    exact ⟨commits, done, _, hperf, List.prefix_append _ _, hbooks⟩

/-! ## A whole run -/

section Run

variable {w w' : ω} {ending : Ending}

omit [Timed ρ] in
/-- A result reaches as far as the state it was made from. -/
theorem upTo_of_conclude {r : LoadResult} (h : (conclude s ending).result = .ok r) :
    r.upTo = s.total.upTo := by
  cases ending with
  | finished => exact Except.ok.inj h ▸ rfl
  | failed m => exact Except.ok.inj h ▸ max_self _
  | panicked p => cases h

omit [Timed ρ] in
/-- Only a panic leaves no result. -/
theorem panicked_of_conclude {p : Panic} (h : (conclude s ending).result = .error p) :
    ending = .panicked p := by
  cases ending with
  | finished => cases h
  | failed m => cases h
  | panicked p' => exact congrArg Ending.panicked (Except.error.inj h)

omit [Timed ρ] in
/-- A loader with a result did not break off. -/
theorem ne_panicked_of_conclude {r : LoadResult} (h : (conclude s ending).result = .ok r) :
    ∀ p, ending ≠ .panicked p := by
  rintro p rfl
  cases h

omit [Timed ρ] in
theorem status_add_failed (total : LoadResult) (upTo : Instant) (m : String) :
    (total + .failed upTo m).status = .failed := by
  change (if total.isFailed || (LoadResult.failed upTo m).isFailed then _ else _) = _
  rw [if_pos (by simp [LoadResult.isFailed, LoadResult.failed])]

omit [Timed ρ] in
/-- Only a loader that ends well succeeds. -/
theorem finished_of_success {ending : Ending} {r : LoadResult}
    (h : (conclude s ending).result = .ok r) (hr : r.status = .success) : ending = .finished := by
  cases ending with
  | finished => rfl
  | failed m =>
    obtain rfl := Except.ok.inj h
    cases (status_add_failed s.total s.total.upTo m).symm.trans hr
  | panicked p => cases h

/-- At the end of its stream a loader commits the rest. -/
theorem run_of_finished
    (h : consume sink e items { total := .started e.window.since } w = ((s, .finished), w'))
    {s' : State ρ} {w'' : ω} (hfinish : finish sink e s w' = ((s', ending), w'')) :
    run sink e items w = (conclude s' ending, w'') := by
  simp only [run, bind, StateT.bind, h, hfinish]
  rfl

/-- A run that stops in the middle is concluded there. -/
theorem run_of_stopped
    (h : consume sink e items { total := .started e.window.since } w = ((s, ending), w'))
    (hend : ending ≠ .finished) : run sink e items w = (conclude s ending, w') := by
  simp only [run, bind, StateT.bind, h]
  cases ending with
  | finished => exact absurd rfl hend
  | failed m => rfl
  | panicked p => rfl

/-- The books at the end of a run, however it ends. -/
theorem conclude_books (sink : Sink ω ρ) (e : Execution) (items : List (Except Error (Staged ρ)))
    (w : ω) : ∃ commits done rest, ∃ s : State ρ, ∃ ending w',
      run sink e items w = (conclude s ending, w') ∧ sink.Performs w commits w' ∧
      ((∀ p, ending ≠ .panicked p) →
        Books sink e items done rest (committedBatches commits) s.total.upTo) := by
  have hstart : Books sink e items [] ([].map .ok ++ items) [] e.window.since :=
    ⟨rfl, rfl, le_rfl, by simp, fun h => absurd h (lt_irrefl _)⟩
  obtain ⟨commits, done, opened, rest, hperf, hstop⟩ :=
    consume_books (s := { total := .started e.window.since }) (w := w) hstart
      ⟨rfl, rfl, rfl, by simp⟩
  rw [List.nil_append] at hstop
  rcases hread : consume sink e items { total := .started e.window.since } w with ⟨⟨s, ending⟩, w'⟩
  rw [hread] at hperf hstop
  by_cases hend : ending = .finished
  · subst hend
    obtain ⟨hbooks, hreading, hnext⟩ := hstop
    obtain ⟨commits', done', rest', hperf', -, hbooks'⟩ := finish_books hbooks hreading hnext w'
    rcases hfinish : finish sink e s w' with ⟨⟨s', ending⟩, w''⟩
    rw [hfinish] at hperf' hbooks'
    rw [← committedBatches_append] at hbooks'
    exact ⟨commits ++ commits', done', rest', s', ending, w'', run_of_finished hread hfinish,
      hperf.append hperf', hbooks'⟩
  · exact ⟨commits, done, _, s, ending, w', run_of_stopped hread hend, hperf, hstop.books⟩

/-- **What a loader commits.** If a run has a result, its commits are those of a prefix of its
stream. -/
theorem run_books (sink : Sink ω ρ) (e : Execution) (items : List (Except Error (Staged ρ)))
    (w : ω) :
    let out := run sink e items w
    ∃ commits done rest, sink.Performs w commits out.2 ∧ ∀ r, out.1.result = .ok r →
      Books sink e items done rest (committedBatches commits) r.upTo := by
  obtain ⟨commits, done, rest, s, ending, w', hrun, hperf, hbooks⟩ := conclude_books sink e items w
  rw [hrun]
  refine ⟨commits, done, rest, hperf, fun r hr => ?_⟩
  rw [upTo_of_conclude hr]
  exact hbooks (ne_panicked_of_conclude hr)

end Run

/-! ## Progress -/

section Progress

variable {w w' : ω} {todo : List (Except Error (Staged ρ))}

omit [Timed ρ] in
/-- A flush does not move back. -/
theorem flush_upTo_le (sink : Sink ω ρ) (group : String) (t : Instant) (s : State ρ) (w : ω) :
    s.total.upTo ≤ (flush sink group t s w).1.1.total.upTo := by
  rcases hflush : flush sink group t s w with ⟨⟨s', _ | ending⟩, w'⟩
  · obtain ⟨-, -, -, htotal, -⟩ := flush_of_none hflush
    exact htotal ▸ le_max_left _ _
  · exact (congrArg LoadResult.upTo (flush_of_some hflush).1).ge

/-- A step does not move back. -/
theorem step_upTo_le (sink : Sink ω ρ) (e : Execution) (s : State ρ)
    (item : Except Error (Staged ρ)) (w : ω) :
    s.total.upTo ≤ (step sink e s item w).1.1.total.upTo := by
  have hclose := fun last =>
    flush_upTo_le sink e.group (checkpointAfter last s.settled e.window.since) s w
  rcases hstep : step sink e s item w with ⟨⟨s', ending⟩, w'⟩
  cases step_spec_of_eq hstep with
  | fault => exact le_rfl
  | descends => exact le_rfl
  | early => exact le_rfl
  | late => exact le_rfl
  | gathers => rw [State.accept_total]
  | @closes _ last _ _ _ _ _ _ _ _ hflush =>
    rw [State.accept_total]
    simpa [hflush] using hclose last
  | @loses _ last _ _ _ _ _ _ _ _ _ hflush => simpa [hflush] using hclose last

/-- **A result never moves back.** -/
theorem consume_upTo_le (sink : Sink ω ρ) (e : Execution) (items : List (Except Error (Staged ρ)))
    (s : State ρ) (w : ω) : s.total.upTo ≤ (consume sink e items s w).1.1.total.upTo := by
  induction items generalizing s w with
  | nil => exact le_rfl
  | cons item items ih =>
    have hstep := step_upTo_le sink e s item w
    rcases hs : step sink e s item w with ⟨⟨s', _ | ending⟩, w'⟩
    · rw [hs] at hstep
      rw [consume_cons_of_none hs]
      exact hstep.trans (ih s' w')
    · rw [hs] at hstep
      rwa [consume_cons_of_some hs]

omit [Timed ρ] in
/-- The end of the stream does not move back. -/
theorem finish_upTo_le (sink : Sink ω ρ) (e : Execution) (s : State ρ) (w : ω) :
    s.total.upTo ≤ (finish sink e s w).1.1.total.upTo := by
  unfold finish
  rcases s.last with _ | last
  · exact le_rfl
  dsimp only
  split_ifs
  · exact le_max_left _ _
  · exact flush_upTo_le _ _ _ _ _

/-- A run ends no earlier than where it stood in the middle. -/
theorem run_upTo_le {items : List (Except Error (Staged ρ))}
    (h : consume sink e items { total := .started e.window.since } w = consume sink e todo s w')
    {r : LoadResult} (hr : (run sink e items w).1.result = .ok r) : s.total.upTo ≤ r.upTo := by
  have hle := consume_upTo_le sink e todo s w'
  rw [← h] at hle
  rcases hread : consume sink e items { total := .started e.window.since } w with ⟨⟨s₁, ending⟩, w₁⟩
  rw [hread] at hle
  by_cases hend : ending = .finished
  · subst hend
    have hmore := finish_upTo_le sink e s₁ w₁
    rcases hfinish : finish sink e s₁ w₁ with ⟨⟨s₂, ending⟩, w₂⟩
    rw [hfinish] at hmore
    rw [run_of_finished hread hfinish] at hr
    rw [upTo_of_conclude hr]
    exact hle.trans hmore
  · rw [run_of_stopped hread hend] at hr
    rw [upTo_of_conclude hr]
    exact hle

/-- Rows are only gathered while there is room in the batch. -/
theorem consume_gather (more : List (Staged ρ)) (todo : List (Except Error (Staged ρ)))
    (hr : Reading sink e [] opened s)
    (asc : (opened ++ more).Pairwise fun x y => time x.row ≤ time y.row)
    (hup : ∀ x ∈ more, time x.row ≤ e.window.upTo)
    (hroom : ∀ front it back, more = front ++ it :: back →
      (sink.wanted e (opened ++ front)).length < max e.batchSize 1) :
    ∃ s', Reading sink e [] (opened ++ more) s' ∧ s'.total = s.total ∧
      consume sink e (more.map .ok ++ todo) s w = consume sink e todo s' w := by
  induction more generalizing opened s with
  | nil => exact ⟨s, by simpa using hr, rfl, rfl⟩
  | cons item more ih =>
    have hdescent : s.descent? (time item.row) = none := by
      rcases hl : s.last with _ | last
      · simp [State.descent?, hl]
      · obtain ⟨it, hit, rfl, -⟩ := hr.getLast? hl
        have hle : time it.row ≤ time item.row :=
          (List.pairwise_append.mp asc).2.2 it (List.mem_of_getLast? hit) item List.mem_cons_self
        simpa [State.descent?, hl] using hle
    have hsplit : opened ++ item :: more = (opened ++ [item]) ++ more := by simp
    rw [hsplit] at asc ⊢
    have hroom' : ∀ front it back, more = front ++ it :: back →
        (sink.wanted e (opened ++ [item] ++ front)).length < max e.batchSize 1 := by
      rintro front it back rfl
      simpa using hroom (item :: front) it back rfl
    have hup' : ∀ x ∈ more, time x.row ≤ e.window.upTo := fun x hx =>
      hup x (List.mem_cons_of_mem _ hx)
    by_cases hs : time item.row ≤ e.window.since
    · obtain ⟨s', hr', htotal, hread⟩ := ih (hr.pass hs) asc hup' hroom'
      exact ⟨s', hr', htotal, (consume_cons_of_none (step_of_le_since hdescent hs)).trans hread⟩
    have hu : ¬e.window.upTo < time item.row := not_lt.mpr (hup item List.mem_cons_self)
    have hclose : closeBatch sink e (time item.row) s w = ((s, none), w) := by
      have hshort := hroom [] item more rfl
      rw [List.append_nil, ← hr.buffer] at hshort
      exact closeBatch_of_open w fun _ _ _ => hshort
    obtain ⟨s', hr', htotal, hread⟩ := ih (hr.accept hs hu) asc hup' hroom'
    refine ⟨s', hr', htotal.trans (State.accept_total s item), ?_⟩
    exact (consume_cons_of_none (step_of_within hdescent hs hu hclose)).trans hread

/-- If its last row is wanted, a list has more wanted rows than what stands before some row. -/
theorem length_wanted_lt {front sooner back : List (Staged ρ)} {last x : Staged ρ}
    (hlast : e.window.since < time last.row ∧ sink.processable last.row)
    (hsplit : front ++ [last] = sooner ++ x :: back) :
    (sink.wanted e sooner).length < (sink.wanted e (front ++ [last])).length := by
  have hend : last ∈ x :: back := by
    have hget := congrArg List.getLast? hsplit
    rw [List.getLast?_concat, List.getLast?_append_cons] at hget
    exact List.mem_of_getLast? hget.symm
  have hmem : last.row ∈ sink.wanted e (x :: back) :=
    List.mem_filter.mpr ⟨List.mem_map_of_mem hend, by simpa using hlast⟩
  rw [hsplit, Sink.wanted_append, List.length_append]
  exact Nat.lt_add_of_pos_right (List.length_pos_of_mem hmem)

/-- **A full batch that ends between two timestamps** is flushed when the row after it is read. -/
theorem exists_flush_of_full {front : List (Staged ρ)} {last it : Staged ρ}
    (asc : (front ++ [last]).Pairwise fun x y => time x.row ≤ time y.row)
    (hlast : e.window.since < time last.row ∧ sink.processable last.row)
    (hnext : time last.row < time it.row ∧ time it.row ≤ e.window.upTo)
    (hfull : max e.batchSize 1 = (sink.wanted e (front ++ [last])).length) (w : ω) :
    ∃ s, Reading sink e [] (front ++ [last]) s ∧ s.settled = last.settled ∧
      consume sink e ((front ++ [last]).map .ok ++ .ok it :: rest)
        { total := .started e.window.since } w = consume sink e (.ok it :: rest) s w ∧
      ∀ {s' ending w'}, flush sink e.group
          (checkpointAfter (time last.row) s.settled e.window.since) s w = ((s', ending), w') →
        step sink e s (.ok it) w
          = ((if ending.isSome then s' else s'.accept sink it, ending), w') := by
  have hroom : ∀ sooner x back, front ++ [last] = sooner ++ x :: back →
      (sink.wanted e ([] ++ sooner)).length < max e.batchSize 1 := fun sooner x back hsplit =>
    hfull ▸ length_wanted_lt hlast hsplit
  have hup : ∀ x ∈ front ++ [last], time x.row ≤ e.window.upTo := by
    intro x hx
    refine le_trans ?_ (hnext.1.le.trans hnext.2)
    rcases List.mem_append.mp hx with hx | hx
    · exact (List.pairwise_append.mp asc).2.2 x hx last (by simp)
    · obtain rfl := List.mem_singleton.mp hx
      exact le_rfl
  have hstart : Reading sink e [] [] { total := .started e.window.since } :=
    ⟨rfl, rfl, rfl, by simp⟩
  obtain ⟨s, hreading, -, hgather⟩ :=
    consume_gather (front ++ [last]) (.ok it :: rest) (w := w) hstart asc hup hroom
  rw [List.nil_append] at hreading
  have hl : s.last = some (time last.row) := by simpa using hreading.last
  refine ⟨s, hreading, by simpa using hreading.settled, hgather, fun hflush => ?_⟩
  refine step_of_within ?_ (not_le.mpr (hlast.1.trans hnext.1)) (not_lt.mpr hnext.2) ?_
  · simp [State.descent?, hl, hnext.1.le]
  · exact (closeBatch_of_full w hl hnext.1.ne'
      (hfull.trans (congrArg _ hreading.buffer.symm)).le).trans hflush

/-- **If the sink takes the batch**, the result has moved to the bound of its last row. -/
theorem bound_le_run {front : List (Staged ρ)} {last it : Staged ρ}
    (asc : (front ++ [last]).Pairwise fun x y => time x.row ≤ time y.row)
    (hlast : e.window.since < time last.row ∧ sink.processable last.row)
    (hnext : time last.row < time it.row ∧ time it.row ≤ e.window.upTo)
    (hfull : max e.batchSize 1 = (sink.wanted e (front ++ [last])).length)
    (htook : ∀ n w, took (sink.commit ⟨e.group, n, sink.wanted e (front ++ [last])⟩ w).1)
    {r : LoadResult}
    (hr : (run sink e ((front ++ [last]).map .ok ++ .ok it :: rest) w).1.result = .ok r) :
    last.bound ≤ r.upTo := by
  obtain ⟨s, hreading, hset, hgather, hstep⟩ := exists_flush_of_full asc hlast hnext hfull w
  rcases hflush : flush sink e.group
    (checkpointAfter (time last.row) s.settled e.window.since) s w with ⟨⟨s', ending⟩, w'⟩
  have hstep := hstep hflush
  rcases ending with _ | ending
  · obtain ⟨-, -, -, htotal, -⟩ := flush_of_none hflush
    have hle := run_upTo_le (hgather.trans (consume_cons_of_none hstep)) hr
    rw [Option.isSome_none, if_neg Bool.false_ne_true, State.accept_total, htotal, hset,
      checkpointAfter_eq] at hle
    exact (le_max_left _ _).trans ((le_max_right _ _).trans hle)
  · -- the loader breaks off, so either it has no result or the sink did not take the batch
    have hstop := hgather.trans (consume_cons_of_some hstep)
    rw [Option.isSome_some, if_pos rfl] at hstop
    rw [run_of_stopped hstop (flush_of_some hflush).2.2] at hr
    cases ending with
    | finished => exact absurd rfl (flush_of_some hflush).2.2
    | failed m =>
      obtain ⟨reply, hcommit, hnone⟩ := flush_of_failed hflush
      have htaken := htook (s.batches + 1) w
      rw [← hreading.buffer, hcommit, hnone] at htaken
      cases htaken
    | panicked p => cases hr

end Progress

end Loading

end Ingest
