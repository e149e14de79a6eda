import Ingest.Proofs.Concurrent.Gathering
import Ingest.Proofs.Concurrent.Schedules

/-!
# Proofs/Concurrent/Sharing — a pipeline at work on a ledger that others work on

The parts of an `Assembly` each have a world of their own. Here they share one, so that each move
acts on what others left (`Assembly.act`). In a scene, where rows arrive and other loaders commit
between any two moves, what was sent and what each loader brought to its sink stay in order
(`Line.AtWork`). Main statements: `Line.AtWork.act`, for one move, and `Line.AtWork.done`, for the
result.
-/

namespace Ingest

/-! ## Parts that share a world -/

namespace Assembly

variable {τ σ τ' σ' ω ρ : Type}

/-- The same parts in other worlds. -/
def State.placed (s : State τ σ ρ) (source : τ') (sinks : Nat → σ') : State τ' σ' ρ where
  traffic := s.traffic
  extraction := s.extraction
  source := source
  loaders := s.loaders
  sinks := sinks

instance (a : Assembly τ σ ρ) (s : State τ σ ρ) : Decidable (AtEnd a s) :=
  decidable_of_iff (s.extraction.result?.isSome ∧
      ∀ k < a.sinks.length, (s.loaders k).outcome?.isSome) <| by
    refine and_congr Option.isSome_iff_ne_none (forall₂_congr fun k _ => ?_)
    cases s.loaders k <;> simp [Loading.Phase.outcome?]

instance (a : Assembly τ σ ρ) (s : State τ σ ρ) : Decidable (Finished a s) :=
  inferInstanceAs (Decidable (_ → _))

variable [Timed ρ] (a : Assembly ω ω ρ) (e : Execution)

/-- Nothing has happened yet, in a world that the parts share. -/
def begin (bufferSize : Nat) : StateM ω (State Unit Unit ρ) := fun w =>
  ((start a e bufferSize w fun _ => w).placed () fun _ => (), w)

/-- A move in a world that the parts share. -/
def act (m : Move) (s : State Unit Unit ρ) : StateM ω (State Unit Unit ρ) := fun w =>
  let next := step a e (s.placed w fun _ => w) m
  (next.placed () fun _ => (),
    match m with
    | .extract => next.source
    | .work k => next.sinks k
    | _ => w)

/-- What the pipeline says once all parts are at their ends, or one of them panicked. -/
def answer? (name : String) (s : State Unit Unit ρ) : StateM ω (Option (Attempt PipelineResult)) :=
  fun w =>
    let s := s.placed w fun _ => w
    (if Finished a s then (result? a name e s).map (·.mapError .panic) else none, w)

end Assembly

/-- The parts of a pipeline. -/
def Pipeline.assembly {ω ρ : Type} (p : Pipeline ω ρ) : Assembly ω ω ρ :=
  ⟨p.extraction, p.branches.map (·.sink)⟩

/-! ## What holds all the time -/

variable {ι σ ρ : Type} [DecidableEq ι] [DecidableEq σ] [Timed ρ]

/-- A pipeline at work on a window. What its extraction sent is a cut of the window or the first
part of one, and every loader has its books in order. -/
structure Line.AtWork (line : Line ι σ ρ) (initial : Instant) (e : Execution) (l : Ledger ι σ ρ)
    (traffic : FanOut.Traffic ρ) (extraction : Extraction.Phase ρ)
    (loaders : Nat → Loading.Phase ρ) : Prop where
  sound : traffic.Sound
  closed : traffic.hub.closed = true ↔ extraction.result? ≠ none
  stopped : ∀ p, extraction = .stopped p → ∀ k, traffic.hub.cursor? k = none
  supplies : extraction.Supplies line.pipeline.extraction e.window (l.tables line.source)
    traffic.accepted
  follows : ∀ (k : Nat) (o : Outlet σ ρ), line.outlets[k]? = some o →
    o.Follows line.source initial e l (traffic.received k) (loaders k)

namespace Line.AtWork

variable {line : Line ι σ ρ} {initial : Instant} {e : Execution} {l l' : Ledger ι σ ρ}
  {traffic t : FanOut.Traffic ρ} {extraction phase : Extraction.Phase ρ}
  {loaders : Nat → Loading.Phase ρ} {k : Nat}

theorem start (h : line.Done initial l e.window.since) (capacity consumers retention : Nat) :
    line.AtWork initial e l (.start capacity consumers retention)
      (.fetching Extraction.maxPages {})
      fun _ => .reading { total := .started e.window.since } where
  sound := FanOut.Traffic.start_sound _ _ _
  closed := by simp [FanOut.Traffic.start, FanOut.start, Extraction.Phase.result?]
  stopped _ hp := by cases hp
  supplies := .start _ _ _ _
  follows _ o ho := Outlet.follows_start (h.loaded o (List.mem_of_getElem? ho))

theorem mono (h : line.AtWork initial e l traffic extraction loaders)
    (hu : e.Underway line.source initial l) (hw : l.Widens l') :
    line.AtWork initial e l' traffic extraction loaders where
  sound := h.sound
  closed := h.closed
  stopped := h.stopped
  supplies := h.supplies.congr fun _ hupTo => hu.rows hw hupTo
  follows k o ho := (h.follows k o ho).mono hu hw

/-! ### Moves of the channel and of loaders -/

/-- What is not noticed changes nothing that matters. -/
theorem quiet (h : line.AtWork initial e l traffic extraction loaders)
    (hquiet : FanOut.Traffic.Quiet traffic t) (ht : t.Sound) :
    line.AtWork initial e l t extraction loaders where
  sound := ht
  closed := by
    rw [hquiet.closed]
    exact h.closed
  stopped p hp k := (hquiet.live k).mpr (h.stopped p hp k)
  supplies := by
    rw [hquiet.accepted]
    exact h.supplies
  follows k o ho := by
    rw [hquiet.received]
    exact h.follows k o ho

/-- What one loader does is noticed by no other. -/
theorem withLoader (h : line.AtWork initial e l traffic extraction loaders)
    {next : Loading.Phase ρ} (ht : t.Sound) (haccepted : t.accepted = traffic.accepted)
    (hclosed : t.hub.closed = traffic.hub.closed)
    (hgone : ∀ j, traffic.hub.cursor? j = none → t.hub.cursor? j = none)
    (hreceived : ∀ j ≠ k, t.received j = traffic.received j)
    (hnext : ∀ o, line.outlets[k]? = some o →
      o.Follows line.source initial e l (t.received k) next) :
    line.AtWork initial e l t extraction (Function.update loaders k next) where
  sound := ht
  closed := by
    rw [hclosed]
    exact h.closed
  stopped p hp j := hgone j (h.stopped p hp j)
  supplies := by
    rw [haccepted]
    exact h.supplies
  follows j o ho := by
    by_cases hjk : j = k
    · subst hjk
      rw [Function.update_self]
      exact hnext o ho
    · rw [Function.update_of_ne hjk, hreceived j hjk]
      exact h.follows j o ho

section Looking

variable (h : line.AtWork initial e l traffic extraction loaders) (hreads : (loaders k).Reads)
  (hready : traffic.stance k = .ready) (hlive : traffic.hub.cursor? k ≠ none)

include h hreads hready hlive

/-- A loader that finds a row receives it. -/
theorem look_item {r : ρ} (hread : (traffic.hub.read k).1 = .item r) :
    line.AtWork initial e l (traffic.step (.look k)) extraction
      (Function.update loaders k ((loaders k).found (.item r))) := by
  have htraffic := h.sound.step (.look k)
  obtain ⟨t, hquiet, heq⟩ := FanOut.Traffic.Sound.step_look_item hready hlive hread
  rw [heq] at htraffic ⊢
  refine h.withLoader htraffic hquiet.accepted hquiet.closed (fun j => (hquiet.live j).mpr)
    (fun j hjk => Function.update_of_ne hjk _ _) fun o ho => ?_
  simp only [Function.update_self]
  exact (h.follows k o ho).found_item hreads r

omit hreads hready in
/-- A loader that is told that nothing more comes has received a cut of the window. -/
theorem cut_of_ended (hread : (traffic.hub.read k).1 = .ended) :
    ∃ t, e.window.Cut (l.tables line.source) (traffic.received k) t := by
  obtain ⟨hclosed, hreceived⟩ := h.sound.received_of_ended hlive hread
  have hend := h.closed.mp hclosed
  have hsupplies := h.supplies
  rw [hreceived]
  cases extraction with
  | fetching budget p => exact absurd rfl hend
  | sending budget p fetched sent rest => exact absurd rfl hend
  | ended result => exact hsupplies
  | stopped p => exact absurd (h.stopped p rfl k) hlive

/-- A loader that finds no row goes on waiting unless it found the end. -/
theorem look_nothing (hitem : ∀ r, (traffic.hub.read k).1 ≠ .item r) :
    line.AtWork initial e l (traffic.step (.look k)) extraction
      (Function.update loaders k ((loaders k).found (traffic.hub.read k).1)) := by
  have htraffic := h.sound.step (.look k)
  have hreceived := FanOut.Traffic.found_received_of_not_item traffic k hitem
  rw [h.sound.step_look_of_not_item hready hlive hitem] at htraffic ⊢
  refine h.withLoader htraffic (FanOut.Traffic.found_accepted _ _ _) ?_ (fun j hj => ?_)
    (fun j _ => ?_) fun o ho => ?_
  · rw [FanOut.Traffic.found_hub]
  · rwa [FanOut.Traffic.found_hub]
  · rw [hreceived]
  · rw [hreceived]
    by_cases hended : (traffic.hub.read k).1 = .ended
    · rw [hended]
      obtain ⟨t, hcut⟩ := h.cut_of_ended hlive hended
      exact (h.follows k o ho).found_ended hreads hcut
    · rw [hreads.found_of_ne hitem hended]
      exact h.follows k o ho

theorem look : line.AtWork initial e l (traffic.step (.look k)) extraction
    (Function.update loaders k ((loaders k).found (traffic.hub.read k).1)) := by
  by_cases hitem : ∃ r, (traffic.hub.read k).1 = .item r
  · obtain ⟨r, hread⟩ := hitem
    rw [hread]
    exact h.look_item hreads hready hlive hread
  · exact h.look_nothing hreads hready hlive (not_exists.mp hitem)

end Looking

/-- A loader that reads no more goes away. -/
theorem leave (h : line.AtWork initial e l traffic extraction loaders) {st : Loading.State ρ}
    {ending : Loading.Ending} (hphase : loaders k = .leaving st ending) :
    line.AtWork initial e l (traffic.step (.drop k)) extraction
      (Function.update loaders k (.closing st ending)) := by
  obtain ⟨haccepted, hreceived, hclosed, hgone⟩ := traffic.step_drop_quiet k
  refine h.withLoader (h.sound.step (.drop k)) haccepted hclosed hgone (fun j _ => ?_)
    fun o ho => ?_
  · rw [hreceived]
  · have hfollows := h.follows k o ho
    rw [hphase] at hfollows
    rw [hreceived]
    exact hfollows

variable {s s' : Scene ι σ ρ}

/-- **A loader works by itself**, on a ledger that widens by that. -/
theorem work (h : line.AtWork initial e s.ledger traffic extraction loaders)
    (hu : e.Underway line.source initial s.ledger) (hplain : ∀ o ∈ line.outlets, o.feed = .direct)
    {o : Outlet σ ρ} (ho : line.outlets[k]? = some o) {next : Loading.Phase ρ}
    (hwork : (loaders k).work (o.branch (ι := ι)).sink e s = (next, s')) :
    s.ledger.Grows s'.ledger ∧
      line.AtWork initial e s'.ledger traffic extraction (Function.update loaders k next) := by
  obtain ⟨rows, t, hcut, hfront⟩ := h.supplies.exists_cut
  obtain ⟨hgrows, hfollows⟩ := (h.follows k o ho).work hu (hplain o (List.mem_of_getElem? ho)) hcut
    ((h.sound.prefixes k).trans hfront)
  rw [hwork] at hgrows hfollows
  refine ⟨hgrows, (h.mono hu (.of_grows hgrows)).withLoader h.sound rfl rfl (fun _ => id)
    (fun _ _ => rfl) fun o' ho' => ?_⟩
  obtain rfl := Option.some.inj (ho.symm.trans ho')
  exact hfollows

/-! ### Moves of the extraction -/

/-- **The extraction goes on** without sending a row, and closes the channel at its end. -/
theorem turn (h : line.AtWork initial e s.ledger traffic extraction loaders)
    (hu : e.Underway line.source initial s.ledger) (hrest : extraction.rest = [])
    (hturn : extraction.turn line.pipeline.extraction e.group e.window s = (phase, s')) :
    s.ledger.Grows s'.ledger ∧
      line.AtWork initial e s'.ledger
        (if phase.result?.isSome then traffic.step .close else traffic) phase loaders := by
  have hgrows : s.ledger.Grows s'.ledger := by
    have hkeeps : s.ledger.Grows
        (extraction.turn line.pipeline.extraction e.group e.window s).2.ledger :=
      Extraction.Phase.turn_keeps (J := fun s₁ : Scene ι σ ρ => s.ledger.Grows s₁.ledger)
        (fun f s₁ hs₁ => hs₁.trans (.wait s₁.ledger s₁.turn)) extraction (.refl s.ledger)
    rwa [hturn] at hkeeps
  have hanswer : ∀ f rows s₁, line.pipeline.extraction.source.fetch f s = (.ok rows, s₁) →
      f.window.upTo = e.window.upTo → rows = f.page (s.ledger.tables line.source) := by
    intro f rows s₁ hfetch hf
    obtain ⟨hok, -⟩ :=
      Prod.mk.inj ((Scene.fetch_eq line.sourceName line.source f s).symm.trans hfetch)
    rcases hfault : s.turn.fault with _ | fault <;> rw [hfault] at hok
    · obtain rfl := Except.ok.inj hok
      exact congrArg (List.take f.limit) (hu.rows (.of_grows (.wait s.ledger s.turn)) hf.le)
    · cases hok
  have hsupplies := h.supplies.turn hu.ascending hrest hanswer hturn
  have hmono := h.mono hu (.of_grows hgrows)
  have hnext : phase.Supplies line.pipeline.extraction e.window (s'.ledger.tables line.source)
      traffic.accepted := hsupplies.congr fun _ hupTo => hu.rows (.of_grows hgrows) hupTo
  have hphase : (extraction.turn line.pipeline.extraction e.group e.window s).1 = phase :=
    congrArg Prod.fst hturn
  have hstopped : ∀ p, phase = .stopped p → ∀ k, traffic.hub.cursor? k = none := fun p hp =>
    h.stopped p (Extraction.Phase.eq_stopped_of_turn (hphase.trans hp))
  refine ⟨hgrows, ?_⟩
  by_cases hend : phase.result? = none
  · have hopen : traffic.hub.closed = true ↔ phase.result? ≠ none := by
      rw [h.closed]
      refine ⟨fun hne => ?_, fun hne => absurd hend hne⟩
      rwa [← hphase, Extraction.Phase.turn_of_result? hne]
    rw [if_neg (by simp [hend])]
    exact ⟨h.sound, hopen, hstopped, hnext, hmono.follows⟩
  · rw [if_pos (Option.isSome_iff_ne_none.mpr hend)]
    exact ⟨h.sound.close, ⟨fun _ => hend, fun _ => rfl⟩, hstopped, hnext, hmono.follows⟩

section Sending

variable {budget fetched : Nat} {p : Progress} {sent rest : List ρ} {r : ρ}
  (h : line.AtWork initial e l traffic (.sending budget p fetched sent (r :: rest)) loaders)

include h

/-- As long as the extraction sends rows it keeps the channel open. -/
theorem open_of_sending : traffic.hub.closed = false := by
  rw [← Bool.not_eq_true, h.closed]
  exact not_not.mpr rfl

/-- **The extraction sends a row.** -/
theorem send (hsend : traffic.hub.send r
      = (.sent, { traffic.hub with channel := traffic.hub.channel ++ [r] })) :
    line.AtWork initial e l (traffic.step (.send r)) (.sending budget p fetched (sent ++ [r]) rest)
      loaders := by
  have htraffic := h.sound.send r
  have hstep : traffic.step (.send r) = { traffic with
      hub := { traffic.hub with channel := traffic.hub.channel ++ [r] }
      accepted := traffic.accepted ++ [r] } := by
    simp only [FanOut.Traffic.step, hsend]
  rw [hstep] at htraffic ⊢
  have hstopped : ∀ q, Extraction.Phase.sending budget p fetched (sent ++ [r]) rest ≠ .stopped q :=
    fun q hq => by cases hq
  exact ⟨htraffic, h.closed, fun q hq => absurd hq (hstopped q), h.supplies.send, h.follows⟩

/-- **The extraction stops** if nobody receives. -/
theorem stop (hgone : traffic.hub.closed = true ∨ ∀ k, traffic.hub.cursor? k = none) :
    line.AtWork initial e l (traffic.step .close) (.stopped (p.extend sent)) loaders := by
  have hnobody := hgone.resolve_left (by simp [h.open_of_sending])
  exact ⟨h.sound.close, ⟨fun _ => nofun, fun _ => rfl⟩, fun _ _ => hnobody, h.supplies.stop _,
    h.follows⟩

end Sending

/-! ### One move -/

/-- **A move of a pipeline at work** on a ledger that others work on, too. -/
theorem act {parts : Assembly.State Unit Unit ρ}
    (h : line.AtWork initial e s.ledger parts.traffic parts.extraction parts.loaders)
    (hu : e.Underway line.source initial s.ledger) (hplain : ∀ o ∈ line.outlets, o.feed = .direct)
    (m : Assembly.Move) :
    let out := line.pipeline.assembly.act e m parts s
    s.ledger.Grows out.2.ledger ∧
      line.AtWork initial e out.2.ledger out.1.traffic out.1.extraction out.1.loaders := by
  have heffect := Assembly.step_effect line.pipeline.assembly e (parts.placed s fun _ => s) m
  unfold Assembly.act
  generalize Assembly.step line.pipeline.assembly e (parts.placed s fun _ => s) m = next
    at heffect ⊢
  have hsame : s.ledger.Grows s.ledger := .refl s.ledger
  cases heffect with
  | idle => cases m <;> exact ⟨hsame, h⟩
  | stop hphase hgone =>
    rw [show parts.extraction = _ from hphase] at h
    exact ⟨hsame, h.stop hgone⟩
  | send hphase hsend =>
    rw [show parts.extraction = _ from hphase] at h
    exact ⟨hsame, h.send hsend⟩
  | turn hrest hturn => exact h.turn hu hrest hturn
  | look hreads hready hlive => exact ⟨hsame, h.look hreads hready hlive⟩
  | claim => exact ⟨hsame, h.quiet (.claim _ _) (h.sound.claim _)⟩
  | receive => exact ⟨hsame, h.quiet (.receive _) h.sound.receive⟩
  | append => exact ⟨hsame, h.quiet (.append _) h.sound.append⟩
  | announce => exact ⟨hsame, h.quiet (.announce _) h.sound.announce⟩
  | @work k sink phase world hsink hworks hwork =>
    obtain ⟨o, ho, rfl⟩ : ∃ o, line.outlets[k]? = some o ∧ (o.branch (ι := ι)).sink = sink := by
      simpa [Pipeline.assembly, pipeline] using hsink
    have hout := h.work hu hplain ho hwork
    simpa [Assembly.State.placed] using hout
  | leave hphase => exact ⟨hsame, h.leave hphase⟩

/-! ### The result -/

/-- What each loader of a pipeline at its end said is true. -/
theorem attained (h : line.AtWork initial e l traffic extraction loaders) {o : Outlet σ ρ}
    (ho : line.outlets[k]? = some o) {outcome : Loading.Outcome} (hdone : loaders k = .done outcome)
    {r : LoadResult} (hr : outcome.result = .ok r) :
    o.Attained line.source initial e.window.since l r.upTo := by
  have hfollows := h.follows k o ho
  rw [hdone] at hfollows
  exact hfollows r hr

/-- **The result of a pipeline** is where it is done up to. -/
theorem done {parts : Assembly.State Unit Unit ρ}
    (h : line.AtWork initial e s.ledger parts.traffic parts.extraction parts.loaders)
    (hdone : line.Done initial s.ledger e.window.since) {name : String} {r : PipelineResult}
    (hanswer : (line.pipeline.assembly.answer? e name parts s).1 = some (.ok r)) :
    line.Done initial s.ledger (max r.upTo e.window.since) := by
  let shared := parts.placed s fun _ => s
  obtain ⟨hfinished, hresult⟩ : Assembly.Finished line.pipeline.assembly shared ∧
      Assembly.result? line.pipeline.assembly name e shared = some (.ok r) := by
    simp only [Assembly.answer?] at hanswer
    split_ifs at hanswer with hfinished
    obtain ⟨out, hout, hr⟩ := Option.map_eq_some_iff.mp hanswer
    rcases out with cause | r'
    · cases hr
    · obtain rfl := Except.ok.inj hr
      exact ⟨hfinished, hout⟩
  have hpanic := Assembly.panic?_eq_none_of_result? hresult
  rw [Assembly.result?_of_panic?_eq_none hpanic] at hresult
  obtain ⟨ending, -, hends⟩ := Option.map_eq_some_iff.mp hresult
  obtain ⟨-, loaded, hloaded, -, rfl⟩ := Pipeline.answer_eq_ok_iff.mp hends
  have hsinks : ∀ (k : Nat) sink, line.pipeline.assembly.sinks[k]? = some sink →
      ∃ o, line.outlets[k]? = some o ∧ (o.branch (ι := ι)).sink = sink := fun k sink hsink => by
    simpa [Pipeline.assembly, pipeline] using hsink
  refine hdone.conclude _ _ (fun x hx => ?_) fun o ho => ?_
  · obtain ⟨outcome, hmem, hok⟩ := Pipeline.exists_mem_of_mem_collect hloaded hx
    obtain ⟨k, sink, hsink, -, hend⟩ := Assembly.mem_outcomes.mp hmem
    obtain ⟨o, ho, -⟩ := hsinks k sink hsink
    have hattained := h.attained ho hend hok
    exact ⟨hattained.since_le, hattained.closed⟩
  · obtain ⟨k, hk⟩ := List.mem_iff_getElem?.mp ho
    have hsink : line.pipeline.assembly.sinks[k]? = some (o.branch (ι := ι)).sink := by
      simp [Pipeline.assembly, pipeline, hk]
    obtain ⟨outcome, hend⟩ := (hfinished hpanic).2 k (List.getElem?_eq_some_iff.mp hsink).1
    obtain ⟨result, hok, hin⟩ := Pipeline.exists_mem_of_collect hloaded
      (Assembly.mem_outcomes.mpr ⟨k, _, hsink, rfl, hend⟩)
    exact ⟨_, hin, (h.attained hk hend hok).loaded⟩

end Line.AtWork

end Ingest
