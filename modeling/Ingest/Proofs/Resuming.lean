import Ingest.Proofs.Aggregation.Reaching
import Ingest.Proofs.World.Estate
import Ingest.Proofs.World.Execution

/-!
# Proofs/Resuming — a run after a success has nothing to do

A loader that succeeds has read its stream to the end, and the bound of the last row is then as late
as everything that was sent (`Loading.run_success`). So a pipeline that succeeds leaves no row
between its result and the end of its window (`Pipeline.execute_success`), and a pipeline that finds
no row in its window commits nothing (`Pipeline.execute_idle`). Main statement: `Roster.resumes`.
-/

namespace Ingest

variable {ω π ρ : Type} [Timed ρ]

/-! ## Loaders -/

namespace Loading

variable {sink : Sink ω ρ} {e : Execution} {s s' : State ρ} {w w' : ω}
  {items : List (Except Error (Staged ρ))}

/-- A loader that goes on has read a row that does not descend. -/
theorem step_of_none {item : Staged ρ} (h : step sink e s (.ok item) w = ((s', none), w')) :
    s'.last = some (time item.row) ∧ s'.settled = item.settled ∧
      ∀ t ∈ s.last, t ≤ time item.row := by
  have hle : s.descent? (time item.row) = none → ∀ t ∈ s.last, t ≤ time item.row :=
    fun hd t ht => not_lt.mp (State.not_lt_of_descent? hd ht)
  cases step_spec_of_eq h with
  | early hd => exact ⟨rfl, rfl, hle hd⟩
  | gathers hd => exact ⟨State.accept_last s item, State.accept_settled s item, hle hd⟩
  | @closes _ _ s' _ hd => exact ⟨State.accept_last s' item, State.accept_settled s' item, hle hd⟩

/-- **A loader that ends well** has read all rows of its window, in order. -/
theorem consume_of_finished (h : consume sink e items s w = ((s', .finished), w'))
    (hup : ∀ it : Staged ρ, .ok it ∈ items → time it.row ≤ e.window.upTo) :
    ∃ done : List (Staged ρ), items = done.map .ok ∧ (done = [] → s' = s) ∧
      ∀ last ∈ done.getLast?, s'.last = some (time last.row) ∧ s'.settled = last.settled ∧
        (∀ t ∈ s.last, t ≤ time last.row) ∧ ∀ it ∈ done, time it.row ≤ time last.row := by
  induction items generalizing s w with
  | nil =>
    obtain ⟨hs, -⟩ := Prod.mk.inj h
    exact ⟨[], rfl, fun _ => (Prod.mk.inj hs).1.symm, by simp⟩
  | cons item items ih =>
    rcases hstep : step sink e s item w with ⟨⟨s₁, _ | ending⟩, w₁⟩
    swap
    · rw [consume_cons_of_some hstep] at h
      obtain ⟨hs, -⟩ := Prod.mk.inj h
      obtain ⟨rfl, rfl⟩ := Prod.mk.inj hs
      rcases item with err | it
      · cases hstep
      · exact absurd (by rw [hstep]) (step_ne_finished s (hup it (by simp)) w)
    rcases item with err | it
    · cases hstep
    obtain ⟨hlast, hsettled, hle⟩ := step_of_none hstep
    rw [consume_cons_of_none hstep] at h
    obtain ⟨done, rfl, hnil, hdone⟩ := ih h fun x hx => hup x (List.mem_cons_of_mem _ hx)
    refine ⟨it :: done, rfl, by simp, fun last hl => ?_⟩
    rcases done with _ | ⟨next, done⟩
    · obtain rfl : it = last := by simpa using hl
      obtain rfl := hnil rfl
      exact ⟨hlast, hsettled, hle, by simp⟩
    · obtain ⟨hlast', hsettled', hle', hall⟩ := hdone last (by simpa using hl)
      have hit : time it.row ≤ time last.row := hle' _ hlast
      refine ⟨hlast', hsettled', fun t ht => (hle t ht).trans hit, fun x hx => ?_⟩
      rcases List.mem_cons.mp hx with rfl | hx
      · exact hit
      · exact hall x hx

omit [Timed ρ] in
/-- The end of a stream moves the result to the last row read, or it goes wrong. -/
theorem finish_of_finished (h : finish sink e s w = ((s', .finished), w')) :
    ∀ t ∈ s.last, checkpointAfter t s.settled e.window.since ≤ s'.total.upTo := by
  intro t ht
  by_cases hempty : s.buffer = []
  · rw [finish_of_nil ht hempty] at h
    obtain ⟨hs, -⟩ := Prod.mk.inj h
    obtain ⟨rfl, -⟩ := Prod.mk.inj hs
    exact le_max_right _ _
  · rcases hflush : flush sink e.group (checkpointAfter t s.settled e.window.since) s w with
      ⟨⟨s₁, _ | ending⟩, w₁⟩
    · rw [finish_of_ne_nil ht hempty hflush] at h
      obtain ⟨-, -, -, htotal, -⟩ := flush_of_none hflush
      obtain ⟨hs, -⟩ := Prod.mk.inj h
      obtain ⟨rfl, -⟩ := Prod.mk.inj hs
      exact htotal ▸ le_max_right _ _
    · rw [finish_of_ne_nil ht hempty hflush] at h
      obtain rfl : ending = .finished := (Prod.mk.inj (Prod.mk.inj h).1).2
      exact absurd rfl (flush_of_some hflush).2.2

/-- **A loader that succeeds** has read its stream to the end. If the last row has no bound, the
result is as late as every row. -/
theorem run_success {r : LoadResult} (h : (run sink e items w).1.result = .ok r)
    (hr : r.status = .success)
    (hup : ∀ it : Staged ρ, .ok it ∈ items → time it.row ≤ e.window.upTo) :
    ∃ done : List (Staged ρ), items = done.map .ok ∧
      ((∀ last ∈ done.getLast?, last.settled = none) → ∀ it ∈ done, time it.row ≤ r.upTo) := by
  rcases hread : consume sink e items { total := .started e.window.since } w with ⟨⟨s, ending⟩, w₁⟩
  by_cases hend : ending = .finished
  swap
  · rw [run_of_stopped hread hend] at h
    exact absurd (finished_of_success h hr) hend
  subst hend
  rcases hfinish : finish sink e s w₁ with ⟨⟨s₂, ending⟩, w₂⟩
  rw [run_of_finished hread hfinish] at h
  obtain rfl := finished_of_success h hr
  obtain ⟨done, rfl, -, hdone⟩ := consume_of_finished hread hup
  refine ⟨done, rfl, fun hsettled it hit => ?_⟩
  obtain ⟨last, hlast⟩ : ∃ last, done.getLast? = some last := by
    rw [← Option.ne_none_iff_exists', ne_eq, List.getLast?_eq_none_iff]
    exact List.ne_nil_of_mem hit
  obtain ⟨hl, hset, -, hall⟩ := hdone last hlast
  have hreach := finish_of_finished hfinish _ hl
  rw [hset, hsettled last hlast] at hreach
  rw [upTo_of_conclude h]
  exact (hall it hit).trans ((le_max_left _ _).trans hreach)

/-- Without rows there is nothing to do. -/
theorem run_nil (sink : Sink ω ρ) (e : Execution) (w : ω) : ∃ events,
    run sink e [] w = (⟨.ok ⟨.success, 0, e.window.since, 0, none⟩, events⟩, w) := ⟨_, rfl⟩

end Loading

/-! ## Pipelines -/

/-- Without rows nothing is sent and, if fetches do not fail, nothing goes wrong. -/
theorem Extraction.Delivers.of_nil {limit budget : Nat} {alive : Prop} {cursor : Instant}
    {sent : List ρ} {result : Attempt Progress}
    (h : Delivers limit alive (fun _ _ => False) budget cursor [] result sent) :
    sent = [] ∧ ∃ q, result = .ok q := by
  cases h with
  | complete q h sparse => exact ⟨rfl, q, rfl⟩
  | crowded r page h mem crowd first => cases mem
  | refused c fault h hc => exact h.elim
  | exhausted c h hc many => cases many

/-- An extraction that succeeds has sent all rows. -/
theorem Extraction.Delivers.sent_eq {limit budget : Nat} {alive : Prop}
    {refused : Instant → Fault → Prop} {cursor : Instant} {rows sent : List ρ} {q : Progress}
    (h : Delivers limit alive refused budget cursor rows (.ok q) sent) : sent = rows := by
  cases h
  rfl

namespace Pipeline

variable {p : Pipeline ω ρ} {e : Execution} {sent : List ρ} {branches : List (Branch ω ρ)}
  {loaded : List (String × LoadResult × List LoadEvent)} {w w' : ω}

/-- Loaders that all give a result run one after the other. -/
theorem exists_of_loadAll_cons {branch : Branch ω ρ}
    (h : loadAll e sent (branch :: branches) w = (.ok loaded, w')) :
    ∃ r events others w₁,
      Loading.run branch.sink e (branch.stage.transform (sent.map .ok)) w = (⟨.ok r, events⟩, w₁) ∧
      loadAll e sent branches w₁ = (.ok others, w') ∧
      loaded = (branch.sink.name, r, events) :: others := by
  rcases hfirst : Loading.run branch.sink e (branch.stage.transform (sent.map .ok)) w
    with ⟨⟨q | r, events⟩, w₁⟩ <;> rw [loadAll_cons hfirst] at h
  · cases (Prod.mk.inj h).1
  rcases hrest : loadAll e sent branches w₁ with ⟨q | others, w₂⟩ <;> rw [hrest] at h
  · cases (Prod.mk.inj h).1
  obtain ⟨hloaded, rfl⟩ := Prod.mk.inj h
  exact ⟨r, events, others, w₁, rfl, hrest, (Except.ok.inj hloaded).symm⟩

/-- Every branch has loaded the stream, in some world, and so left its result. -/
theorem loadAll_results (h : loadAll e sent branches w = (.ok loaded, w')) :
    loaded.length = branches.length ∧ ∀ x ∈ loaded, ∃ branch ∈ branches, ∃ w₁,
      (Loading.run branch.sink e (branch.stage.transform (sent.map .ok)) w₁).1.result
        = .ok x.2.1 := by
  induction branches generalizing w w' loaded with
  | nil =>
    obtain ⟨hloaded, -⟩ := Prod.mk.inj h
    obtain rfl := Except.ok.inj hloaded
    simp
  | cons branch rest ih =>
    obtain ⟨r, events, others, w₁, hfirst, hrest, rfl⟩ := exists_of_loadAll_cons h
    obtain ⟨hlength, hothers⟩ := ih hrest
    refine ⟨by simp [hlength], fun x hx => ?_⟩
    rcases List.mem_cons.mp hx with rfl | hx
    · exact ⟨branch, by simp, w, by rw [hfirst]⟩
    · obtain ⟨other, hother, hrun⟩ := hothers x hx
      exact ⟨other, List.mem_cons_of_mem _ hother, hrun⟩

omit [Timed ρ] in
/-- A pipeline succeeds only if nothing went wrong in any of its parts. -/
theorem of_conclude_success {since : Instant} {fault : Option Error}
    (h : (p.conclude since fault loaded).status = .success) :
    fault = none ∧ ∀ x ∈ loaded, x.2.1.status = .success := by
  simp only [conclude, PipelineResult.reduce] at h
  split_ifs at h with hall
  rw [Bool.and_eq_true, List.all_map, List.all_eq_true, List.isEmpty_iff] at hall
  obtain ⟨hstatus, hfaults⟩ := hall
  refine ⟨?_, fun x hx => by simpa using hstatus x hx⟩
  have hnone := (List.append_eq_nil_iff.mp hfaults).1
  simpa using hnone

/-- The result of an execution is concluded from what its extraction and its loaders did. -/
theorem exists_of_execute (hbranches : p.branches ≠ []) {r : PipelineResult}
    (h : (p.toJob.execute e w).1 = .ok r) :
    ∃ extracted w₁ loaded w₂ fault,
      p.extraction.run (pure true) e.group e.window w = (extracted, w₁) ∧
      loadAll e extracted.sent p.branches w₁ = (.ok loaded, w₂) ∧
      (fault = none ↔ ∃ progress, extracted.result = .ok progress) ∧
      r = p.conclude e.window.since fault loaded := by
  rcases hextract : p.extraction.run (pure true) e.group e.window w with ⟨extracted, w₁⟩
  by_cases hpanic : ∃ cause, extracted.result = .error (.panic cause)
  · obtain ⟨cause, hpanic⟩ := hpanic
    rw [execute_of_panic hbranches hextract hpanic] at h
    cases h
  rcases hload : loadAll e extracted.sent p.branches w₁ with ⟨out, w₂⟩
  obtain ⟨fault, hfault, hexecute⟩ :=
    execute_of_sent hbranches hextract (fun c hc => hpanic ⟨c, hc⟩) hload
  rw [hexecute] at h
  obtain ⟨loaded, rfl, -, hr⟩ := exists_loaded h
  exact ⟨extracted, w₁, loaded, w₂, fault, rfl, hload, hfault, hr⟩

/-- **A pipeline that succeeds** leaves no row between its result and the end of its window. -/
theorem execute_success {table : List ρ} {I : ω → Prop} {E : Fetch → Fault → ω → Prop}
    (hserves : p.extraction.source.Serves table e.window.upTo I E) (asc : Ascending table)
    (hstages : ∀ branch ∈ p.branches, branch.stage.Provided) (hw : I w)
    (hbranches : p.branches ≠ []) {r : PipelineResult}
    (hrun : p.toJob.execute e w = (.ok r, w')) (hr : r.status = .success) :
    Window.rows ⟨r.upTo, e.window.upTo⟩ table = [] := by
  obtain ⟨extracted, w₁, loaded, w₂, fault, hextract, hload, hfault, rfl⟩ :=
    exists_of_execute hbranches (congrArg Prod.fst hrun)
  have hdelivers := p.extraction.run_delivers e.group e.window hserves asc hw
  rw [hextract] at hdelivers
  obtain ⟨hnone, hsuccess⟩ := of_conclude_success hr
  obtain ⟨progress, hprogress⟩ := hfault.mp hnone
  simp only [hprogress] at hdelivers
  have hsent := hdelivers.sent_eq
  obtain ⟨hlength, hresults⟩ := loadAll_results hload
  -- every loader has come as far as the last row of the window
  have hreach : ∀ t ∈ loaded.map (·.2.1.upTo),
      e.window.since ≤ t ∧ ∀ x ∈ e.window.rows table, time x ≤ t := by
    intro t ht
    obtain ⟨y, hy, rfl⟩ := List.mem_map.mp ht
    obtain ⟨branch, hbranch, w₃, hresult⟩ := hresults y hy
    have hreaches := (hstages branch hbranch).reaches extracted.sent
    obtain ⟨done, hdone, hall⟩ := Loading.run_success hresult (hsuccess y hy) fun it hit => by
      obtain ⟨z, hz, hle⟩ := hreaches.within it hit
      exact hle.trans (Window.mem_rows.mp (hsent ▸ hz)).2.2
    obtain ⟨_, _, _, -, hbooks⟩ := Loading.run_books branch.sink e
      (branch.stage.transform (extracted.sent.map .ok)) w₃
    refine ⟨(hbooks _ hresult).since_le, fun x hx => ?_⟩
    obtain ⟨it, hit, hle⟩ := hreaches.reach done hdone x (hsent ▸ hx)
    exact hle.trans (hall (hreaches.settled done hdone) it hit)
  have hupTo : (p.conclude e.window.since fault loaded).upTo
      = PipelineResult.leastUpTo e.window.since (loaded.map (·.2.1.upTo)) := by
    simp [conclude, PipelineResult.reduce, Function.comp_def]
  have hne : loaded.map (·.2.1.upTo) ≠ [] := by
    rw [ne_eq, List.map_eq_nil_iff, ← List.length_eq_zero_iff, hlength, List.length_eq_zero_iff]
    exact hbranches
  obtain ⟨-, -, hleast⟩ := leastUpTo_spec e.window.since (loaded.map (·.2.1.upTo)) fun t ht =>
    (hreach t ht).1
  obtain ⟨hsince, hrows⟩ := hreach _ (hleast.resolve_left fun h => hne h.1)
  rw [hupTo, List.eq_nil_iff_forall_not_mem]
  intro x hx
  obtain ⟨hmem, hlt, hle⟩ := Window.mem_rows.mp hx
  exact absurd (hrows x (Window.mem_rows.mpr ⟨hmem, hsince.trans_lt hlt, hle⟩)) (not_le.mpr hlt)

/-- Loaders without rows do nothing. -/
theorem loadAll_nil (hstages : ∀ branch ∈ branches, branch.stage.transform [] = []) (w : ω) :
    ∃ loaded, loadAll e [] branches w = (.ok loaded, w) ∧
      ∀ x ∈ loaded, x.2.1 = ⟨.success, 0, e.window.since, 0, none⟩ := by
  induction branches with
  | nil => exact ⟨[], rfl, by simp⟩
  | cons branch rest ih =>
    obtain ⟨loaded, hrest, hloaded⟩ := ih fun b hb => hstages b (List.mem_cons_of_mem _ hb)
    obtain ⟨events, hrun⟩ := Loading.run_nil branch.sink e w
    have hfirst : Loading.run branch.sink e (branch.stage.transform (([] : List ρ).map .ok)) w
        = (⟨.ok ⟨.success, 0, e.window.since, 0, none⟩, events⟩, w) := by
      rw [List.map_nil, hstages branch (by simp), hrun]
    rw [loadAll_cons hfirst]
    simp only [hrest]
    refine ⟨_, rfl, fun x hx => ?_⟩
    rcases List.mem_cons.mp hx with rfl | hx
    · rfl
    · exact hloaded x hx

omit [Timed ρ] in
theorem foldr_add_eq_zero {α : Type} {f : α → Nat} {xs : List α} (h : ∀ x ∈ xs, f x = 0) :
    xs.foldr (fun x n => f x + n) 0 = 0 := by
  induction xs with
  | nil => rfl
  | cons x xs ih =>
    rw [List.foldr_cons, h x List.mem_cons_self, Nat.zero_add]
    exact ih fun y hy => h y (List.mem_cons_of_mem _ hy)

omit [Timed ρ] in
/-- The result of loaders that had nothing to do. -/
theorem conclude_idle (p : Pipeline ω ρ) (since : Instant)
    (loaded : List (String × LoadResult × List LoadEvent))
    (h : ∀ x ∈ loaded, x.2.1 = ⟨.success, 0, since, 0, none⟩) :
    p.conclude since none loaded = ⟨p.name, .success, since, 0, 0, none,
      loaded.map fun l => (l.1, l.2.1)⟩ := by
  have hall : (loaded.map fun l => (l.1, l.2.1))
      = loaded.map fun l => (l.1, ⟨.success, 0, since, 0, none⟩) :=
    List.map_congr_left fun x hx => by rw [h x hx]
  have hfaults : PipelineResult.faults none (loaded.map fun l => (l.1, l.2.1)) = [] := by
    simp [PipelineResult.faults, hall]
  have hstatus : (loaded.map fun l => (l.1, l.2.1)).all fun l => l.2.status = .success := by
    simp [hall]
  have hupTo : PipelineResult.leastUpTo since (loaded.map (·.2.1.upTo)) = since := by
    obtain ⟨-, -, ⟨-, heq⟩ | hmem⟩ := leastUpTo_spec since (loaded.map (·.2.1.upTo)) fun t ht => by
      obtain ⟨x, hx, rfl⟩ := List.mem_map.mp ht
      rw [h x hx]
    · exact heq
    · obtain ⟨x, hx, heq⟩ := List.mem_map.mp hmem
      rw [← heq, h x hx]
  have hrows : (loaded.map fun l => (l.1, l.2.1)).foldr (fun l n => l.2.rows + n) 0 = 0 := by
    rw [List.foldr_map]
    exact foldr_add_eq_zero fun x hx => by rw [h x hx]
  have hduration : loaded.foldr (fun l n => l.2.1.duration + n) 0 = 0 :=
    foldr_add_eq_zero fun x hx => by rw [h x hx]
  have hupTos : (loaded.map fun l => (l.1, l.2.1)).map (·.2.upTo) = loaded.map (·.2.1.upTo) := by
    rw [List.map_map]
    rfl
  rw [conclude, PipelineResult.reduce, Option.map_none, hfaults, hstatus, hrows, hduration, hupTos,
    hupTo]
  rfl

/-- **A pipeline that finds no row in its window** succeeds where it is, and it does nothing but
fetch. -/
theorem execute_idle {table : List ρ} {I J : ω → Prop}
    (hserves : p.extraction.source.Serves table e.window.upTo I fun _ _ _ => False)
    (asc : Ascending table) (hstages : ∀ branch ∈ p.branches, branch.stage.Provided) (hw : I w)
    (hkeeps : ∀ f w, J w → J (p.extraction.source.fetch f w).2) (hJ : J w)
    (hnone : p.branches ≠ [] → e.window.rows table = []) :
    ∃ loaders w', p.toJob.execute e w
      = (.ok ⟨p.name, .success, e.window.since, 0, 0, none, loaders⟩, w') ∧ J w' := by
  by_cases hempty : p.branches = []
  · exact ⟨_, w, (execute_of_isEmpty hempty).trans (by rw [conclude_idle p _ [] (by simp)]), hJ⟩
  rcases hextract : p.extraction.run (pure true) e.group e.window w with ⟨extracted, w₁⟩
  have hdelivers := p.extraction.run_delivers e.group e.window hserves asc hw
  have hJ₁ := p.extraction.run_keeps hkeeps e.group e.window hJ
  rw [hextract] at hdelivers hJ₁
  rw [hnone hempty] at hdelivers
  obtain ⟨hsent, progress, hprogress⟩ :
      extracted.sent = [] ∧ ∃ q, extracted.result = .ok q := hdelivers.of_nil
  have hpanic : ∀ cause, extracted.result ≠ .error (.panic cause) := by simp [hprogress]
  obtain ⟨loaded, hload, hloaded⟩ := loadAll_nil (e := e)
    (fun branch hbranch => (hstages branch hbranch).transform_nil) w₁
  rw [← hsent] at hload
  obtain ⟨fault, hfault, hexecute⟩ := execute_of_sent hempty hextract hpanic hload
  obtain rfl := hfault.mpr ⟨progress, hprogress⟩
  simp only [Except.bind, conclude_idle p e.window.since loaded hloaded] at hexecute
  exact ⟨_, w₁, hexecute, hJ₁⟩

end Pipeline

/-! ## Runs -/

namespace Roster

variable (roster : Roster π) {job : Job π} {s : Estate π}

/-- A run that succeeds has got a result, and its report is stored. -/
theorem recorded_of_success (hs : s.stored.Labelled) {report : RunReport}
    (h : (roster.runJob job s).1 = .ok report) (hstatus : report.status = .success) :
    (∃ r, (roster.execution job s).1 = .ok r ∧ r.status = .success ∧
      report.upTo = max r.upTo (roster.previous job s).upTo) ∧
    ∃ c, (roster.runJob job s).2.stored.get? roster.group job.name = some c ∧
      c.upTo = report.upTo ∧ c.TotalsFit := by
  revert h
  refine roster.runJob_cases hs (P := fun out => out.1 = .ok report →
    (∃ r, (roster.execution job s).1 = .ok r ∧ r.status = .success ∧
      report.upTo = max r.upTo (roster.previous job s).upTo) ∧
    ∃ c, out.2.stored.get? roster.group job.name = some c ∧ c.upTo = report.upTo ∧ c.TotalsFit)
    ?unread ?unmarked (fun _ _ _ => nofun) ?unrecorded ?recorded
  case unread | unmarked =>
    rintro e ⟨⟩
    cases hstatus
  case unrecorded =>
    rintro e - - ⟨⟩
    cases hstatus
  case recorded =>
    rintro - - hfit ⟨⟩
    refine ⟨?_, _, roster.recorded_get? job hs _, rfl, hfit⟩
    unfold Roster.report at hstatus ⊢
    rcases hout : (roster.execution job s).1 with fault | r <;> rw [hout] at hstatus
    · cases hstatus
    · exact ⟨r, rfl, hstatus, rfl⟩

/-- **A run that finds nothing to do** reports so, and leaves the totals as they are. -/
theorem runJob_of_idle (hs : s.stored.Labelled)
    (hgranted : ∀ n, s.refusals (some job.name) n = none)
    (hfits : (roster.previous job s).TotalsFit) {loaders : List (String × LoadResult)} {w : π}
    (hexecution : roster.execution job s
      = (.ok ⟨job.name, .success, (roster.previous job s).upTo, 0, 0, none, loaders⟩, w)) :
    ∃ s', roster.runJob job s = (.ok ⟨roster.group, job.name, .success,
      (roster.previous job s).upTo, 0, 0, none⟩, s') ∧ s'.work = w := by
  have hreport : roster.report job s
      = ⟨roster.group, job.name, .success, (roster.previous job s).upTo, 0, 0, none⟩ := by
    rw [report, hexecution]
    simp [Orchestrator.reportOf, orchestrator]
  have hfits' : (roster.recorded job s).TotalsFit := by
    have hzero : Orchestrator.signed 0 = 0 := rfl
    simpa [recorded, hreport, Orchestrator.checkpointOf, Checkpoint.recorded,
      Checkpoint.TotalsFit, hzero] using hfits
  have hrun := roster.runJob_of_recorded hs (hgranted 0) (hgranted 1) hfits' (hgranted 2)
  rw [hreport] at hrun
  exact ⟨_, hrun, congrArg Prod.snd hexecution⟩

/-- Three rows, two of them at one instant. -/
def threeRows : List Row := [⟨.atSecond 1, ∅⟩, ⟨.atSecond 2, ∅⟩, ⟨.atSecond 2, ∅⟩]

/-- All rows in one group, as the latest of them. -/
def latestOf : GroupBy Unit Row where
  key _ := .ok ()
  merge a b := .ok (if time a ≤ time b then b else a)

theorem latestOf_keepsLater {a b c : Row} (h : latestOf.merge a b = .ok c) :
    time c = max (time a) (time b) := by
  obtain rfl := Except.ok.inj h
  split_ifs with hle
  · exact (max_eq_right hle).symm
  · exact (max_eq_left (le_of_not_ge hle)).symm

/-- Three sinks with one log: one wants no row of the last instant, one gets one group in bounded
memory, and one gets groups of a single row. -/
def threefold : Pipeline (List (List Row)) Row where
  name := "p"
  extraction := ⟨⟨"source", fun f log => (.ok (f.page threeRows), log)⟩, 3⟩
  branches :=
    let sink (name : String) (processable : Row → Bool) : Sink (List (List Row)) Row :=
      ⟨name, processable, fun c log => (.ok (.committed c.rows.length 1), log ++ [c.rows]),
        fun _ log => (.ok (), log)⟩
    [⟨.direct Row, sink "early" fun r => time r < .atSecond 2⟩,
      ⟨StreamingAggregation.stage ⟨latestOf, "latest", 1⟩, sink "latest" fun _ => true⟩,
      ⟨GroupingAggregation.stage ⟨latestOf, "grouped", 1, fun _ groups => groups⟩,
        sink "grouped" fun _ => true⟩]

theorem threefold_serves (upTo : Instant) :
    threefold.extraction.source.Serves threeRows upTo (fun _ => True) fun _ _ _ => False where
  answer := by
    rintro f w rows w' - - h
    exact ⟨trivial, (Except.ok.inj (Prod.mk.inj h).1).symm⟩
  refusal := by
    rintro f w fault w' - - ⟨⟩

end Roster

end Ingest
