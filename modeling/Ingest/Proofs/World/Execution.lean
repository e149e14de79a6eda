import Ingest.Proofs.Loading
import Ingest.Proofs.Pagination
import Ingest.Proofs.World.Plan
import Mathlib.Data.List.Flatten

/-!
# Proofs/World/Execution — one execution of a pipeline in a scene

While a pipeline is executed the ledger only grows (`During`), and the window that it reads was
closed when the run started. Main statement: `Line.execute_done` — what the loaders commit covers
the rows of the table that their result passes.
-/

namespace Ingest

variable {ι σ ρ : Type} [Timed ρ]

/-! ## Rows that were sent -/

/-- Rows of a table that were sent for a window: up to the last of them, all that there are. -/
structure Sent (table : List ρ) (w : Window) (sent : List ρ) : Prop where
  ascending : Ascending sent
  mem : ∀ r ∈ sent, w.since < time r ∧ time r ≤ w.upTo
  complete : ∀ r ∈ sent, ∀ t ≤ time r,
    sent.filter (fun x => time x ≤ t) = Window.rows ⟨w.since, t⟩ table

theorem Extraction.Delivers.sent {limit budget : Nat} {alive : Prop}
    {refused : Instant → Fault → Prop} {cursor : Instant} {table sent : List ρ} {w : Window}
    {result : Attempt Progress} (asc : Ascending table)
    (h : Delivers limit alive refused budget cursor (w.rows table) result sent) :
    Sent table w sent where
  ascending := (asc.filter _).sublist h.sublist
  mem r hr := (Window.mem_rows.mp (h.sublist.mem hr)).2
  complete r hr t ht := by
    rw [h.filter_le hr ht, Window.rows_filter_le]
    exact ht.trans (Window.mem_rows.mp (h.sublist.mem hr)).2.2

/-! ## What a loader covers -/

section Books

variable {ω : Type} {sink : Sink ω ρ} {e : Execution} {table sent : List ρ} {feed : Feed ρ}
  {done : List (Staged ρ)} {rest : List (Except Error (Staged ρ))} {batches : List (List ρ)}
  {upTo : Instant}

/-- **The books of a loader cover the table** from the start of the window to the result, which lies
in the window unless it did not move. -/
theorem Loading.Books.covers_window
    (h : Books sink e (feed.stage.transform (sent.map .ok)) done rest batches upTo)
    (hsent : Sent table e.window sent) (hlater : feed.KeepsLater) :
    feed.Covers sink.processable (Window.rows ⟨e.window.since, upTo⟩ table) batches.flatten ∧
      (e.window.since < upTo → upTo ≤ e.window.upTo) := by
  by_cases hlt : e.window.since < upTo
  swap
  · rw [Window.rows_eq_nil hlt]
    exact ⟨feed.covers_nil _ _, fun h => absurd h hlt⟩
  have hback := feed.backed hsent.ascending
  rw [h.split] at hback
  obtain ⟨groups, hrows, hmakes, hmembers, hcover⟩ := hback.groups List.nil_subperm
  obtain ⟨front, it, back, rfl, rfl, hnext⟩ := h.reached hlt
  -- a row of the table with the timestamp of the row that was read last
  have hgroup : it.row ∈ groups.map (·.2) := by simp [hrows]
  obtain ⟨g, hg, hgrow⟩ := List.mem_map.mp hgroup
  obtain ⟨⟨m, hm, hmtime⟩, -⟩ := (hmakes g hg).time_mem hlater
  have hmsent : m ∈ sent := hmembers.subset (List.mem_flatMap.mpr ⟨g, hg, hm⟩)
  have hreach : it.bound ≤ time m := by
    rw [hmtime, hgrow]
    exact it.bound_le
  refine ⟨⟨groups, hmakes, ?_, ?_⟩, fun _ => hreach.trans (hsent.mem m hmsent).2⟩
  · have hsub := hcover front it back rfl hnext
    rw [← hsent.complete m hmsent _ hreach]
    have hearliest : sent.filter (fun x => time x ≤ it.bound)
        = Window.rows ⟨.earliest, it.bound⟩ sent := by
      refine List.filter_congr fun x hx => ?_
      have : .earliest < time x := (Instant.earliest_le _).trans_lt (hsent.mem x hx).1
      simp [Window.contains, this]
    rwa [hearliest, ← List.nil_append (groups.flatMap _)]
  · -- every group is later than the start of the window, as all its members are
    have hwanted : (groups.map (·.2)).filter sink.processable = batches.flatten := by
      rw [h.flatten_batches, Sink.wanted, ← hrows]
      refine List.filter_congr fun r hr => ?_
      obtain ⟨g, hg, rfl⟩ := List.mem_map.mp hr
      obtain ⟨⟨m, hm, -⟩, hle⟩ := (hmakes g hg).time_mem hlater
      have hmem : m ∈ sent := hmembers.subset (List.mem_flatMap.mpr ⟨g, hg, hm⟩)
      have : e.window.since < time g.2 := (hsent.mem m hmem).1.trans_le (hle m hm)
      simp [this]
    rw [hwanted]

end Books

/-! ## Calls of an execution -/

section Scenes

variable [DecidableEq ι] [DecidableEq σ] {I : Ledger ι σ ρ → Prop} {l₀ : Ledger ι σ ρ}
  {s s' : Scene ι σ ρ}

/-- The invariant held after every call, and since `l₀` the ledger only grew. -/
def During (I : Ledger ι σ ρ → Prop) (l₀ : Ledger ι σ ρ) (s : Scene ι σ ρ) : Prop :=
  (∀ l ∈ s.past, I l) ∧ l₀.Grows s.ledger

/-- What holds during a scene holds after its next turn. -/
theorem During.next (h : During I l₀ s) (hI : ∀ l, l₀.Grows l → I l) {l : Ledger ι σ ρ}
    (hl : s.found.Grows l) : During I l₀ (s.next l) := by
  have hgrows := h.2.trans ((Ledger.Grows.wait _ _).trans hl)
  refine ⟨fun l' hl' => ?_, hgrows⟩
  rcases List.mem_cons.mp hl' with rfl | hl'
  · exact hI _ hgrows
  · exact h.1 l' hl'

/-- **A source in a scene serves its table** as long as no row arrives up to `upTo`. -/
theorem Scene.serves {J : Scene ι σ ρ → Prop} (name : String) (i : ι) (table : List ρ)
    (upTo : Instant) (hnext : ∀ s, J s → J (s.next s.found))
    (hrows : ∀ s, J s → ∀ w : Window, w.upTo = upTo → w.rows (s.found.tables i) = w.rows table) :
    (Scene.source name i).Serves table upTo J fun _ _ s => J s := by
  constructor
  · intro f s rows s' hf hs hfetch
    obtain ⟨hanswer, rfl⟩ := Prod.mk.inj ((Scene.fetch_eq name i f s).symm.trans hfetch)
    rcases hfault : s.turn.fault with _ | fault <;> rw [hfault] at hanswer
    · obtain rfl := Except.ok.inj hanswer
      exact ⟨hnext s hs, congrArg (List.take f.limit) (hrows s hs f.window hf)⟩
    · cases hanswer
  · intro f s fault s' _ hs hfetch
    obtain ⟨-, rfl⟩ := Prod.mk.inj ((Scene.fetch_eq name i f s).symm.trans hfetch)
    exact hnext s hs

/-- The log of a sink grows by the batches it took, with others among them. -/
theorem During.performs (hI : ∀ l, l₀.Grows l → I l) {name : String} {processable : ρ → Bool}
    {i : σ} {commits : List (Commit ρ × Attempt CommitReply)}
    (hp : (Scene.sink (ι := ι) name processable i).Performs s commits s') (h : During I l₀ s) :
    During I l₀ s' ∧ ∃ more, s'.ledger.logs i = s.ledger.logs i ++ more ∧
      (committedBatches commits).Sublist more := by
  induction hp with
  | nil s => exact ⟨h, [], by simp, .slnil⟩
  | @cons s s₁ s₂ c reply rest hcommit hrest ih =>
    obtain ⟨rfl, rfl⟩ := Prod.mk.inj ((Scene.commit_eq name processable i c s).symm.trans hcommit)
    obtain ⟨strays, hstrays⟩ : s.ledger.logs i <+: s.found.logs i :=
      (Ledger.Grows.wait s.ledger s.turn).logs i
    rw [committedBatches_cons]
    by_cases htook : took s.turn.reply
    · rw [if_pos htook] at ih ⊢
      obtain ⟨hs', more, hmore, hsub⟩ := ih (h.next hI (.commit _ _ _))
      refine ⟨hs', strays ++ [c.rows] ++ more, ?_, ?_⟩
      · simp [hmore, Scene.next, Ledger.commit, ← hstrays]
      · exact (List.sublist_append_right _ _).append hsub
    · rw [if_neg htook] at ih ⊢
      obtain ⟨hs', more, hmore, hsub⟩ := ih (h.next hI (.refl _))
      refine ⟨hs', strays ++ more, ?_, hsub.trans (List.sublist_append_right _ _)⟩
      simp [hmore, Scene.next, ← hstrays]

/-! ## What is loaded -/

/-- No row arrives up to this instant any more, if it counts at all. -/
def Ledger.Closed (l : Ledger ι σ ρ) (initial t : Instant) : Prop :=
  t ≤ initial ∨ ∃ u ∈ l.started, t ≤ u

/-- The rows of a window are in a sink. -/
def Outlet.Loaded (o : Outlet σ ρ) (source : ι) (l : Ledger ι σ ρ) (w : Window) : Prop :=
  o.feed.Covers o.processable (w.rows (l.tables source)) (l.logs o.sink).flatten

/-- What a pipeline may record: all rows up to `t` are in all sinks. -/
structure Line.Done (line : Line ι σ ρ) (initial : Instant) (l : Ledger ι σ ρ) (t : Instant) :
    Prop where
  initial_le : initial ≤ t
  closed : l.Closed initial t
  loaded : ∀ o ∈ line.outlets, o.Loaded line.source l ⟨initial, t⟩

variable {initial t : Instant} {l l' : Ledger ι σ ρ}

omit [DecidableEq ι] [DecidableEq σ] in
/-- What is closed stays closed. -/
theorem Ledger.Closed.mono (h : l.Closed initial t) (hg : l.Grows l') : l'.Closed initial t :=
  h.imp_right fun ⟨u, hu, ht⟩ => ⟨u, hg.started hu, ht⟩

omit [Timed ρ] [DecidableEq ι] [DecidableEq σ] in
/-- What is closed is closed up to every earlier instant. -/
theorem Ledger.Closed.of_le (h : l.Closed initial t) {u : Instant} (hu : u ≤ t) :
    l.Closed initial u := h.imp (hu.trans ·) fun ⟨v, hv, ht⟩ => ⟨v, hv, hu.trans ht⟩

omit [Timed ρ] [DecidableEq ι] [DecidableEq σ] in
/-- A result is closed, since it does not leave the window unless it did not move. -/
theorem Ledger.Closed.advance {w : Window} (h : l.Closed initial w.since)
    (hstarted : w.upTo ∈ l.started) (ht : w.since < t → t ≤ w.upTo) : l.Closed initial t := by
  rcases lt_or_ge w.since t with hlt | hge
  · exact .inr ⟨w.upTo, hstarted, ht hlt⟩
  · exact h.of_le hge

omit [DecidableEq ι] [DecidableEq σ] in
/-- Up to a closed instant a table stays as it is. -/
theorem Ledger.Closed.rows (h : l.Closed initial t) (hg : l.Grows l') (source : ι) :
    Window.rows ⟨initial, t⟩ (l'.tables source) = Window.rows ⟨initial, t⟩ (l.tables source) := by
  rcases h with ht | ⟨u, hu, ht⟩
  · rw [Window.rows_eq_nil (not_lt.mpr ht), Window.rows_eq_nil (not_lt.mpr ht)]
  · exact hg.rows source hu ht

omit [Timed ρ] [DecidableEq ι] [DecidableEq σ] in
theorem flatten_subperm {logs logs' more : List (List ρ)} {batches : List (List ρ)}
    (h : logs' = logs ++ more) (hsub : batches.Sublist more) :
    (logs.flatten ++ batches.flatten).Subperm logs'.flatten := by
  rw [h, List.flatten_append]
  exact ((List.Sublist.refl _).append hsub.flatten).subperm

omit [DecidableEq ι] [DecidableEq σ] in
/-- What is loaded stays loaded. -/
theorem Outlet.Loaded.mono {o : Outlet σ ρ} {source : ι} (h : o.Loaded source l ⟨initial, t⟩)
    (hc : l.Closed initial t) (hg : l.Grows l') : o.Loaded source l' ⟨initial, t⟩ := by
  rw [Outlet.Loaded, hc.rows hg]
  exact Feed.Covers.mono h (.refl _) (hg.logs o.sink).sublist.flatten.subperm

omit [DecidableEq ι] [DecidableEq σ] in
/-- What is loaded is loaded up to every earlier instant. -/
theorem Outlet.Loaded.of_le {o : Outlet σ ρ} {source : ι} (h : o.Loaded source l ⟨initial, t⟩)
    {u : Instant} (hu : u ≤ t) : o.Loaded source l ⟨initial, u⟩ := by
  refine Feed.Covers.mono h (List.Sublist.subperm (List.monotone_filter_right _ fun r hr => ?_))
    (.refl _)
  simp only [Window.contains, Bool.and_eq_true, decide_eq_true_eq] at hr ⊢
  exact ⟨hr.1, hr.2.trans hu⟩

omit [DecidableEq ι] [DecidableEq σ] in
/-- What is done stays done. -/
theorem Line.Done.mono {line : Line ι σ ρ} (h : line.Done initial l t) (hg : l.Grows l') :
    line.Done initial l' t :=
  ⟨h.initial_le, h.closed.mono hg, fun o ho => (h.loaded o ho).mono h.closed hg⟩

/-- A ledger in which the rows `sent` of a closed window are about to be loaded. -/
structure Ready (I : Ledger ι σ ρ → Prop) (source : ι) (initial : Instant) (e : Execution)
    (sent : List ρ) (l : Ledger ι σ ρ) : Prop where
  invariant : ∀ l', l.Grows l' → I l'
  ascending : Ascending (l.tables source)
  sent : Sent (l.tables source) e.window sent
  started : e.window.upTo ∈ l.started
  initial_le : initial ≤ e.window.since
  closed : l.Closed initial e.window.since

variable {source : ι} {e : Execution} {sent : List ρ}

omit [DecidableEq ι] [DecidableEq σ] in
/-- Rows that arrive later are not in the window. -/
theorem Sent.mono {w : Window} (h : Sent (l.tables source) w sent) (hstarted : w.upTo ∈ l.started)
    (hg : l.Grows l') : Sent (l'.tables source) w sent where
  ascending := h.ascending
  mem := h.mem
  complete r hr t ht := by
    have hle : t ≤ w.upTo := ht.trans (h.mem r hr).2
    rw [h.complete r hr t ht, hg.rows source hstarted hle]

omit [DecidableEq ι] [DecidableEq σ] in
/-- What is ready stays ready. -/
theorem Ready.mono (h : Ready I source initial e sent l) (hg : l.Grows l') :
    Ready I source initial e sent l' where
  invariant l'' hg' := h.invariant l'' (hg.trans hg')
  ascending := hg.ascending source h.ascending
  sent := h.sent.mono h.started hg
  started := hg.started h.started
  initial_le := h.initial_le
  closed := h.closed.mono hg

/-- **One loader.** What was loaded up to the start of the window is loaded up to the result. -/
theorem Outlet.load {o : Outlet σ ρ} (hready : Ready I source initial e sent s.ledger)
    (hpast : ∀ l ∈ s.past, I l) (hlater : o.feed.KeepsLater)
    (hloaded : o.Loaded source s.ledger ⟨initial, e.window.since⟩) {out : Loading.Outcome}
    (hrun : Loading.run (Scene.sink (ι := ι) o.name o.processable o.sink) e
      (o.feed.stage.transform (sent.map .ok)) s = (out, s')) :
    During I s.ledger s' ∧ ∀ r, out.result = .ok r →
      e.window.since ≤ r.upTo ∧ s'.ledger.Closed initial r.upTo ∧
        o.Loaded source s'.ledger ⟨initial, r.upTo⟩ := by
  obtain ⟨commits, done, rest, hperf, hbooks⟩ :=
    Loading.run_books (Scene.sink (ι := ι) o.name o.processable o.sink) e
      (o.feed.stage.transform (sent.map .ok)) s
  rw [hrun] at hperf hbooks
  have hs : During I s.ledger s := ⟨hpast, .refl _⟩
  obtain ⟨hdone, more, hmore, hsub⟩ := hs.performs hready.invariant hperf
  refine ⟨hdone, fun r hr => ?_⟩
  have hb := hbooks r hr
  obtain ⟨hcovers, hupTo⟩ := hb.covers_window hready.sent hlater
  have hclosed : s.ledger.Closed initial r.upTo := hready.closed.advance hready.started hupTo
  refine ⟨hb.since_le, hclosed.mono hdone.2, ?_⟩
  rw [Outlet.Loaded, hclosed.rows hdone.2,
    ← Window.rows_append hready.ascending hready.initial_le hb.since_le]
  exact (hloaded.append hcovers).mono (.refl _) (flatten_subperm hmore hsub)

omit [DecidableEq ι] [DecidableEq σ] in
/-- The loaders are run one after the other. -/
theorem loadAll_cons {ω : Type} {branch : Branch ω ρ} {rest : List (Branch ω ρ)} {w w' : ω}
    {first : Loading.Outcome}
    (h : Loading.run branch.sink e (branch.stage.transform (sent.map .ok)) w = (first, w')) :
    Pipeline.loadAll e sent (branch :: rest) w =
      match first.result with
      | .error p => (.error p, w')
      | .ok r =>
        let out := Pipeline.loadAll e sent rest w'
        (out.1.map ((branch.sink.name, r, first.events) :: ·), out.2) := by
  rw [Pipeline.loadAll]
  simp only [bind, StateT.bind, h]
  cases first.result <;> rfl

/-- **All loaders**, one after the other. -/
theorem Outlet.loadAll {outlets : List (Outlet σ ρ)}
    (hready : Ready I source initial e sent s.ledger) (hpast : ∀ l ∈ s.past, I l)
    (hlater : ∀ o ∈ outlets, o.feed.KeepsLater)
    (hloaded : ∀ o ∈ outlets, o.Loaded source s.ledger ⟨initial, e.window.since⟩)
    {out : Except Panic (List (String × LoadResult × List LoadEvent))}
    (hrun : Pipeline.loadAll e sent (outlets.map (·.branch)) s = (out, s')) :
    During I s.ledger s' ∧ ∀ loaded, out = .ok loaded →
      (∀ x ∈ loaded, e.window.since ≤ x.2.1.upTo ∧ s'.ledger.Closed initial x.2.1.upTo) ∧
      ∀ o ∈ outlets, ∃ x ∈ loaded, o.Loaded source s'.ledger ⟨initial, x.2.1.upTo⟩ := by
  induction outlets generalizing s out with
  | nil =>
    obtain ⟨rfl, rfl⟩ := Prod.mk.inj hrun
    refine ⟨⟨hpast, .refl _⟩, ?_⟩
    rintro loaded ⟨⟩
    simp
  | cons o outlets ih =>
    rcases hload : Loading.run (Scene.sink (ι := ι) o.name o.processable o.sink) e
      (o.feed.stage.transform (sent.map .ok)) s with ⟨first, s₁⟩
    obtain ⟨hs₁, hfirst⟩ :=
      Outlet.load hready hpast (hlater o (by simp)) (hloaded o (by simp)) hload
    rw [List.map_cons, loadAll_cons hload] at hrun
    rcases hresult : first.result with p | r <;> rw [hresult] at hrun
    · obtain ⟨rfl, rfl⟩ := Prod.mk.inj hrun
      exact ⟨hs₁, by simp⟩
    rcases hrest : Pipeline.loadAll e sent (outlets.map (·.branch)) s₁ with ⟨others, s₂⟩
    rw [hrest] at hrun
    obtain ⟨rfl, rfl⟩ := Prod.mk.inj hrun
    obtain ⟨hs₂, hothers⟩ := ih (hready.mono hs₁.2) hs₁.1
      (fun o ho => hlater o (List.mem_cons_of_mem _ ho))
      (fun o ho => (hloaded o (List.mem_cons_of_mem _ ho)).mono hready.closed hs₁.2) hrest
    refine ⟨⟨hs₂.1, hs₁.2.trans hs₂.2⟩, fun loaded hall => ?_⟩
    rcases others with p | tail
    · cases hall
    obtain rfl := Except.ok.inj hall
    obtain ⟨hsince, hclosed, hfirst⟩ := hfirst r hresult
    obtain ⟨hreach, hothers⟩ := hothers tail rfl
    constructor
    · rintro x (_ | ⟨_, hx⟩)
      · exact ⟨hsince, hclosed.mono hs₂.2⟩
      · exact hreach x hx
    · rintro o' (_ | ⟨_, ho'⟩)
      · exact ⟨_, List.mem_cons_self, hfirst.mono hclosed hs₂.2⟩
      · obtain ⟨x, hx, hloaded⟩ := hothers o' ho'
        exact ⟨x, List.mem_cons_of_mem _ hx, hloaded⟩

/-! ## A whole execution -/

omit [DecidableEq ι] [DecidableEq σ] [Timed ρ] in
/-- The least of some instants, none of which is before `since`. -/
theorem leastUpTo_spec (since : Instant) (ts : List Instant) (h : ∀ t ∈ ts, since ≤ t) :
    since ≤ PipelineResult.leastUpTo since ts ∧
      (∀ t ∈ ts, PipelineResult.leastUpTo since ts ≤ t) ∧
      (ts = [] ∧ PipelineResult.leastUpTo since ts = since ∨
        PipelineResult.leastUpTo since ts ∈ ts) := by
  rcases ts with _ | ⟨t, ts⟩
  · exact ⟨le_rfl, by simp, .inl ⟨rfl, rfl⟩⟩
  · obtain ⟨hmem, hle⟩ := List.min?_eq_some_iff.mp
      (List.min?_cons' : (t :: ts).min? = some (ts.foldl min t))
    have hmax : PipelineResult.leastUpTo since (t :: ts) = ts.foldl min t := max_eq_left (h _ hmem)
    rw [hmax]
    exact ⟨h _ hmem, hle, .inr hmem⟩

section Run

variable {ω : Type} {p : Pipeline ω ρ} {w w' w'' : ω} {extracted : Extraction.Outcome ρ}

omit [DecidableEq ι] [DecidableEq σ]

/-- Without a branch nothing is read. -/
theorem execute_of_isEmpty (h : p.branches = []) :
    p.toJob.execute e w = (.ok (p.conclude e.window.since none []), w) := by
  simp only [Pipeline.toJob, Pipeline.run, h, List.isEmpty_nil, if_true]
  rfl

/-- A source that panics takes the pipeline with it. -/
theorem execute_of_panic (h : p.branches ≠ [])
    (hx : p.extraction.run (pure true) e.group e.window w = (extracted, w')) {cause : Panic}
    (hr : extracted.result = .error (.panic cause)) :
    p.toJob.execute e w = (.error (.panic cause), w') := by
  simp only [Pipeline.toJob, Pipeline.run, List.isEmpty_eq_false_iff.mpr h, Bool.false_eq_true,
    if_false, bind, StateT.bind, hx, hr]
  rfl

/-- An extraction that did not panic is followed by the loaders. Only one that failed leaves a
fault. -/
theorem execute_of_sent (h : p.branches ≠ [])
    (hx : p.extraction.run (pure true) e.group e.window w = (extracted, w'))
    (hr : ∀ cause, extracted.result ≠ .error (.panic cause))
    {out : Except Panic (List (String × LoadResult × List LoadEvent))}
    (hl : Pipeline.loadAll e extracted.sent p.branches w' = (out, w'')) :
    ∃ fault, (fault = none ↔ ∃ progress, extracted.result = .ok progress) ∧ p.toJob.execute e w =
      ((out.bind fun loaded => (p.conclude e.window.since fault loaded).counted).mapError .panic,
        w'') := by
  simp only [Pipeline.toJob, Pipeline.run, List.isEmpty_eq_false_iff.mpr h, Bool.false_eq_true,
    if_false, bind, StateT.bind, hx]
  have hpure : ∀ x : Option Error, (pure x : StateM ω (Option Error)) w' = (x, w') := fun _ => rfl
  rcases hresult : extracted.result with (err | cause) | progress
  · refine ⟨some err, by simp, ?_⟩
    simp only [bind, StateT.bind, hpure, hl]
    cases out <;> rfl
  · exact absurd hresult (hr cause)
  · refine ⟨none, by simp, ?_⟩
    simp only [bind, StateT.bind, hpure, hl]
    cases out <;> rfl

omit [Timed ρ] in
/-- Without a result something panicked. -/
theorem exists_panic {α : Type} {out : Except Panic α} {fault : Fault}
    (h : out.mapError .panic = .error fault) : ∃ p, fault = .panic p := by
  cases out with
  | error p => exact ⟨p, (Except.error.inj h).symm⟩
  | ok a => cases h

omit [Timed ρ] in
/-- **A result** is the one of all loaders. -/
theorem exists_loaded {since : Instant} {fault : Option Error}
    {out : Except Panic (List (String × LoadResult × List LoadEvent))} {r : PipelineResult}
    (h : (out.bind fun loaded => (p.conclude since fault loaded).counted).mapError Fault.panic
      = .ok r) :
    ∃ loaded, out = .ok loaded ∧ (p.conclude since fault loaded).rows ≤ LoadResult.maxRows ∧
      r = p.conclude since fault loaded := by
  rcases out with cause | loaded
  · cases h
  rcases hcount : (p.conclude since fault loaded).counted with cause | counted
  · simp [Except.bind, Except.mapError, hcount] at h
  · obtain ⟨hle, rfl⟩ := PipelineResult.counted_eq_ok_iff.mp hcount
    simp only [Except.bind, Except.mapError, hcount, Except.ok.injEq] at h
    exact ⟨loaded, rfl, hle, h.symm⟩

end Run

/-- **An extraction in a scene** sends rows of its window, and keeps what every call keeps. -/
theorem Line.extract (line : Line ι σ ρ) {J : Scene ι σ ρ → Prop}
    (hnext : ∀ s₁, J s₁ → J (s₁.next s₁.found)) (hgrows : ∀ s₁, J s₁ → s.ledger.Grows s₁.ledger)
    (asc : Ascending (s.ledger.tables line.source)) (hstarted : e.window.upTo ∈ s.ledger.started)
    (hs : J s) {extracted : Extraction.Outcome ρ} {s₁ : Scene ι σ ρ}
    (hrun : line.pipeline.extraction.run (pure true) e.group e.window s = (extracted, s₁)) :
    J s₁ ∧ Sent (s.ledger.tables line.source) e.window extracted.sent := by
  have hserves := Scene.serves line.sourceName line.source (s.ledger.tables line.source)
    e.window.upTo hnext fun s₁ hs₁ w hw =>
      ((hgrows s₁ hs₁).trans (.wait s₁.ledger s₁.turn)).rows line.source hstarted hw.le
  have hdelivers := line.pipeline.extraction.run_delivers e.group e.window hserves asc hs
  rw [hrun] at hdelivers
  exact ⟨hdelivers.survives, hdelivers.sent asc⟩

omit [DecidableEq ι] [DecidableEq σ] in
/-- **The least result** of the loaders is where a pipeline is done up to. -/
theorem Line.Done.conclude {line : Line ι σ ρ} {since : Instant} (h : line.Done initial l since)
    {ω : Type} (p : Pipeline ω ρ) (fault : Option Error)
    {loaded : List (String × LoadResult × List LoadEvent)}
    (hreach : ∀ x ∈ loaded, since ≤ x.2.1.upTo ∧ l.Closed initial x.2.1.upTo)
    (hloaded : ∀ o ∈ line.outlets, ∃ x ∈ loaded, o.Loaded line.source l ⟨initial, x.2.1.upTo⟩) :
    line.Done initial l (max (p.conclude since fault loaded).upTo since) := by
  have hupTo : (p.conclude since fault loaded).upTo
      = PipelineResult.leastUpTo since (loaded.map (·.2.1.upTo)) := by
    simp [Pipeline.conclude, PipelineResult.reduce, Function.comp_def]
  obtain ⟨hsince, hleast, hmem⟩ := leastUpTo_spec since (loaded.map (·.2.1.upTo)) fun t ht => by
    obtain ⟨x, hx, rfl⟩ := List.mem_map.mp ht
    exact (hreach x hx).1
  rw [hupTo, max_eq_left hsince]
  refine ⟨h.initial_le.trans hsince, ?_, fun o ho => ?_⟩
  · rcases hmem with ⟨-, heq⟩ | hmem
    · rw [heq]
      exact h.closed
    · obtain ⟨x, hx, hxt⟩ := List.mem_map.mp hmem
      exact hxt ▸ (hreach x hx).2
  · obtain ⟨x, hx, hcover⟩ := hloaded o ho
    exact hcover.of_le (hleast _ (List.mem_map_of_mem hx))

/-- **One execution.** A pipeline that is done up to the start of the window is done up to its
result. -/
theorem Line.execute_done {line : Line ι σ ρ} (hpast : ∀ l ∈ s.past, I l)
    (hinv : ∀ l, s.ledger.Grows l → I l) (asc : Ascending (s.ledger.tables line.source))
    (hstarted : e.window.upTo ∈ s.ledger.started) (hlater : ∀ o ∈ line.outlets, o.feed.KeepsLater)
    (hdone : line.Done initial s.ledger e.window.since) {out : Attempt PipelineResult}
    (hrun : line.pipeline.toJob.execute e s = (out, s')) :
    During I s.ledger s' ∧
      ∀ r, out = .ok r → line.Done initial s'.ledger (max r.upTo e.window.since) := by
  have hstay : During I s.ledger s := ⟨hpast, .refl _⟩
  by_cases hempty : line.pipeline.branches = []
  · rw [execute_of_isEmpty hempty] at hrun
    obtain ⟨rfl, rfl⟩ := Prod.mk.inj hrun
    refine ⟨hstay, ?_⟩
    rintro r ⟨⟩
    simpa [Pipeline.conclude, PipelineResult.reduce, PipelineResult.leastUpTo] using hdone
  rcases hextract : line.pipeline.extraction.run (pure true) e.group e.window s with ⟨extracted, s₁⟩
  obtain ⟨hs₁, hsent⟩ := line.extract (fun s₁ hs₁ => hs₁.next hinv (.refl _))
    (fun s₁ hs₁ => hs₁.2) asc hstarted hstay hextract
  by_cases hpanic : ∃ cause, extracted.result = .error (.panic cause)
  · obtain ⟨cause, hpanic⟩ := hpanic
    rw [execute_of_panic hempty hextract hpanic] at hrun
    obtain ⟨rfl, rfl⟩ := Prod.mk.inj hrun
    exact ⟨hs₁, by simp⟩
  rcases hload : Pipeline.loadAll e extracted.sent line.pipeline.branches s₁ with ⟨loads, s₂⟩
  obtain ⟨fault, -, hexecute⟩ := execute_of_sent hempty hextract (fun c hc => hpanic ⟨c, hc⟩) hload
  rw [hexecute] at hrun
  obtain ⟨rfl, rfl⟩ := Prod.mk.inj hrun
  have hready : Ready I line.source initial e extracted.sent s.ledger :=
    ⟨hinv, asc, hsent, hstarted, hdone.initial_le, hdone.closed⟩
  obtain ⟨hs₂, hloads⟩ := Outlet.loadAll (hready.mono hs₁.2) hs₁.1 hlater
    (fun o ho => (hdone.loaded o ho).mono hdone.closed hs₁.2) hload
  refine ⟨⟨hs₂.1, hs₁.2.trans hs₂.2⟩, fun r hr => ?_⟩
  obtain ⟨loaded, rfl, -, rfl⟩ := exists_loaded hr
  obtain ⟨hreach, hloaded⟩ := hloads loaded rfl
  exact (hdone.mono (hs₁.2.trans hs₂.2)).conclude line.pipeline fault hreach hloaded

end Scenes

end Ingest
