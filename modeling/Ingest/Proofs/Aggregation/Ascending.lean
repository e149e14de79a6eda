import Ingest.Proofs.Aggregation.Course
import Ingest.Proofs.Aggregation.Grouping
import Ingest.Proofs.Loading.Reach

/-!
# Proofs/Aggregation/Ascending — groups leave by timestamp

If a merge keeps the later timestamp, the group that a row joins becomes the latest one. So the
groups of a bounded stage, the least recently touched first, stand by timestamp behind those that
were sent (`StreamingAggregation.Course.ascending_next`), and a flush of the other stage sends
nothing that is earlier than what was flushed before. Main statements: `ascending_stage` of either
stage, and `given_of_stage` — on ascending rows its only errors are those it was given.
-/

namespace Ingest

variable {κ ρ : Type} [Timed ρ]

/-! ## What fails -/

/-- A key or a merge fails with this fault. -/
def GroupBy.Fails (g : GroupBy κ ρ) (f : Fault) : Prop :=
  (∃ r p, g.key r = .error p ∧ f = .panic p) ∨ ∃ x r, g.merge x r = .error f

/-- An error that a stage did not find itself: the input has it, or a key or a merge gave it. -/
def GroupBy.Given (g : GroupBy κ ρ) (items : List (Except Error ρ)) (err : Error) : Prop :=
  .error err ∈ items ∨ ∃ f, g.Fails f ∧ err = f.caught

namespace GroupBy

variable {g : GroupBy κ ρ} {c : InputClock} {r : ρ} {f : Fault}

/-- A row that does not descend is refused for its key only. -/
theorem fails_of_enter {c' : InputClock} (hadv : c.advance (time r) = .ok c')
    (h : g.enter c r = .error f) : g.Fails f := by
  rw [enter, hadv] at h
  rcases hkey : g.key r with p | k <;> rw [hkey] at h
  · obtain rfl : .panic p = f := Except.error.inj h
    exact .inl ⟨r, p, hkey, rfl⟩
  · cases h

omit [Timed ρ] in
theorem fails_of_extend {group : Option (Pending ρ)} (h : g.extend c r group = .error f) :
    g.Fails f := by
  rcases group with _ | q
  · cases h
  rw [extend] at h
  rcases hmerge : g.merge q.row r with f' | y <;> rw [hmerge] at h
  · obtain rfl : f' = f := Except.error.inj h
    exact .inr ⟨q.row, r, hmerge⟩
  · cases h

/-- **A stage whose steps fail for keys and merges only** sends no error but those it was given, if
its input ascends and the end of the input does not fail. -/
theorem given_of_fold {σ : Type} {step : σ → ρ → Attempt (σ × List (Staged ρ))}
    {finish : σ → Attempt (List (Staged ρ))} {s : σ}
    (hstep : ∀ {read out s' r f}, Stage.Runs step s read out s' → (∀ x ∈ read, time x ≤ time r) →
      step s' r = .error f → g.Fails f)
    (hfinish : ∀ {read out s'}, Stage.Runs step s read out s' → ∃ last, finish s' = .ok last)
    {items : List (Except Error ρ)} (asc : Ascending (inputRows items)) {err : Error}
    (h : .error err ∈ Stage.fold step finish s items) : g.Given items err := by
  obtain hinput | ⟨read, out, s', f, hruns, rfl, hfails⟩ := Stage.error_cases h
  · exact .inl hinput
  refine .inr ⟨f, ?_, rfl⟩
  rcases hfails with ⟨r, rest, rfl, hfails⟩ | hfails
  · rw [inputRows_append, inputRows_map_ok, inputRows_cons_ok] at asc
    exact hstep hruns (fun x hx => (List.pairwise_append.mp asc).2.2 x hx r List.mem_cons_self)
      hfails
  · obtain ⟨last, hlast⟩ := hfinish hruns
    cases hlast.symm.trans hfails

end GroupBy

/-- The row that a group was last given makes it the latest group. -/
theorem GroupBy.KeepsLater.ascending_concat {g : GroupBy κ ρ} (hlater : g.KeepsLater)
    {read : List ρ} {r : ρ} {earlier : List (Held κ ρ)} {x : Held κ ρ}
    (asc : Ascending (read ++ [r])) (hearlier : Ascending (earlier.map (·.group.row)))
    (hmakes : ∀ y ∈ earlier, g.Makes y.key y.members y.group.row ∧ y.members ⊆ read ++ [r])
    (hx : g.Makes x.key x.members x.group.row) (hr : r ∈ x.members) :
    Ascending ((earlier ++ [x]).map (·.group.row)) := by
  rw [List.map_append, Ascending, List.pairwise_append]
  refine ⟨hearlier, List.pairwise_singleton _ _, fun row hrow last hlast => ?_⟩
  obtain ⟨y, hy, rfl⟩ := List.mem_map.mp hrow
  obtain rfl := List.mem_singleton.mp hlast
  obtain ⟨hmakes, hread⟩ := hmakes y hy
  obtain ⟨⟨m, hm, htime⟩, -⟩ := hmakes.time_mem hlater
  calc time y.group.row = time m := htime.symm
    _ ≤ time r := asc.le_getLast (by simp) (hread hm)
    _ ≤ time x.group.row := (hx.time_mem hlater).2 r hr

variable [DecidableEq κ]

/-! ## A bounded stage -/

namespace StreamingAggregation

variable {a : StreamingAggregation κ ρ} {s s' : State κ ρ} {read left : List ρ} {r : ρ}
  {out more : List (Staged ρ)} {sent held : List (Held κ ρ)}

theorem Keeps.fails_of_step (h : a.Keeps s read left held) (hr : ∀ x ∈ read, time x ≤ time r)
    {f : Fault} (hs : a.step s r = .error f) : a.Fails f := by
  obtain ⟨c', hadv⟩ := h.clock.exists_advance hr
  rcases henter : a.enter s.clock r with f' | ⟨c, k⟩
  · obtain rfl : f' = f := by simpa [StreamingAggregation.step, henter, bind, Except.bind] using hs
    exact GroupBy.fails_of_enter hadv henter
  obtain ⟨hadv, hkey⟩ := GroupBy.enter_eq_ok henter
  rcases hext : a.extend c r (s.cache.get? k) with f' | p
  · obtain rfl : f' = f := by
      simpa [StreamingAggregation.step, henter, RecencyCache.compute, hext, bind, Except.bind]
        using hs
    exact GroupBy.fails_of_extend hext
  · rw [step_of_extend h.handOff hadv hkey hext rfl] at hs
    cases hs

/-- **The latest row makes its group the latest one**, and the others keep their order. -/
theorem Course.ascending_next {leaving stay : List (Held κ ρ)} {h' : Held κ ρ}
    (h : a.Course s' (read ++ [r]) (out ++ more) (sent ++ leaving) stay)
    (hasc : Ascending ((sent ++ held).map (·.group.row))) (hlater : a.KeepsLater)
    (hr : r ∈ h'.members)
    (hheld : leaving ++ stay = (held.filter fun x => x.key ≠ h'.key) ++ [h']) :
    Ascending ((sent ++ leaving ++ stay).map (·.group.row)) := by
  have hall : sent ++ leaving ++ stay = sent ++ (held.filter fun x => x.key ≠ h'.key) ++ [h'] := by
    rw [List.append_assoc, hheld, List.append_assoc]
  have hmakes := fun y hy => h.makes_of_mem (g := y) (hall ▸ hy)
  rw [hall]
  refine hlater.ascending_concat h.ascending ?_ (fun y hy => hmakes y ?_) (hmakes h' (by simp)).1 hr
  · exact hasc.sublist ((List.filter_sublist.append_left sent).map _)
  · exact List.mem_append_left _ hy

/-- **What was sent and what is held stand by timestamp**, as the recency of a group is the recency
of its timestamp. By induction on the rows read. -/
theorem exists_course (hruns : Stage.Runs a.step a.start read out s) :
    ∃ sent held, a.Course s read out sent held ∧
      (a.KeepsLater → Ascending ((sent ++ held).map (·.group.row))) := by
  induction hruns with
  | start => exact ⟨[], [], .start a, fun _ => .nil⟩
  | @next read r out more s₁ s₂ _ hstep ih =>
    obtain ⟨sent, held, h, hasc⟩ := ih
    obtain ⟨leaving, stay, f, hcourse, -, -, -, -, h', hjoined, hheld⟩ := h.next hstep
    exact ⟨_, stay, hcourse, fun hlater =>
      hcourse.ascending_next (hasc hlater) hlater hjoined.mem hheld⟩

/-- **A bounded stage sends ascending rows.** -/
theorem ascending_stage (a : StreamingAggregation κ ρ) (hlater : a.KeepsLater)
    (items : List (Except Error ρ)) : Ascending (rowsOf (a.stage.transform items)) := by
  obtain ⟨read, rest, out, s, tail, -, hruns, hends, hfold⟩ :=
    Stage.fold_cases a.step a.finish a.start items
  obtain ⟨sent, held, h, hasc⟩ := exists_course hruns
  have hall := hasc hlater
  rw [List.map_append, ← h.rows] at hall
  have hout := hall.sublist (List.sublist_append_left _ _)
  change Ascending (rowsOf (Stage.fold a.step a.finish a.start items))
  rw [hfold, rowsOf_append, rowsOf_map_ok]
  cases hends with
  | finished hfinish =>
    obtain rfl := h.keeps.finish hfinish
    rw [rowsOf_map_ok, Floors.drain_rows, List.map_map]
    exact hall
  | unfinished | failed | stuck => simpa using hout

/-- On ascending rows a bounded stage finds no fault of its own. -/
theorem given_of_stage {items : List (Except Error ρ)} (asc : Ascending (inputRows items))
    {err : Error} (h : .error err ∈ a.stage.transform items) : a.Given items err := by
  refine GroupBy.given_of_fold (fun hruns hr hstep => ?_) (fun hruns => ?_) asc h
  · obtain ⟨sent, held, hcourse, -⟩ := exists_course hruns
    exact hcourse.keeps.fails_of_step hr hstep
  · obtain ⟨sent, held, hcourse, -⟩ := exists_course hruns
    exact ⟨_, hcourse.keeps.finish_eq hcourse.fits⟩

end StreamingAggregation

/-! ## A stage that flushes -/

namespace GroupingAggregation

variable {a : GroupingAggregation κ ρ} {s s' : State κ ρ} {read left : List ρ} {r : ρ}
  {out : List (Staged ρ)} {held : List (Held κ ρ)}

theorem Keeps.fails_of_step (h : a.Keeps s read left held) (hr : ∀ x ∈ read, time x ≤ time r)
    {f : Fault} (hs : a.step s r = .error f) : a.Fails f := by
  obtain ⟨c', hadv⟩ := h.clock.exists_advance hr
  rcases henter : a.enter s.clock r with f' | ⟨c, k⟩
  · obtain rfl : f' = f := by simpa [GroupingAggregation.step, henter, bind, Except.bind] using hs
    exact GroupBy.fails_of_enter hadv henter
  rcases hext : a.extend c r (find? s.groups k) with f' | p
  · obtain rfl : f' = f := by
      simpa [GroupingAggregation.step, henter, hext, bind, Except.bind] using hs
    exact GroupBy.fails_of_extend hext
  · simp only [GroupingAggregation.step, henter, hext, bind, Except.bind] at hs
    split at hs <;> cases hs

/-- **What was sent stands by timestamp, before what is held.** By induction on the rows read. -/
theorem exists_keeps (horder : a.Reorders) (hruns : Stage.Runs a.step start read out s) :
    ∃ left held, a.Keeps s read left held ∧
      (a.KeepsLater → Ascending read → a.Sends read held out) := by
  induction hruns with
  | start => exact ⟨[], [], a.keeps_start, fun _ _ => ⟨.nil, by simp, by simp⟩⟩
  | @next read r out more s₁ s₂ _ hstep ih =>
    obtain ⟨left, held, h, hsends⟩ := ih
    obtain ⟨held', -, hholding, hcase⟩ := h.step horder hstep
    have hjoin : a.KeepsLater → Ascending (read ++ [r]) → a.Sends (read ++ [r]) held' out :=
      fun hlater asc =>
        (hsends hlater (asc.sublist (List.sublist_append_left _ _))).join hlater h.holding hholding
          fun m hm => asc.le_getLast (by simp) (List.mem_append_left _ hm)
    rcases hcase with ⟨rfl, hkeeps⟩ | ⟨hflush, hkeeps⟩
    · exact ⟨left, held', hkeeps, by simpa using hjoin⟩
    · exact ⟨_, [], hkeeps, fun hlater asc => (hjoin hlater asc).flush hlater hholding hflush⟩

omit [DecidableEq κ] in
theorem Sends.perm (h : a.Sends read held out) {leaving : List (Held κ ρ)}
    (hperm : leaving.Perm held) : a.Sends read leaving out where
  ascending := h.ascending
  made := h.made
  le_held x hx m hm := h.le_held x hx m ((hperm.flatMap_right _).mem_iff.mp hm)

/-- **A stage that flushes sends ascending rows.** -/
theorem ascending_stage (a : GroupingAggregation κ ρ) (hlater : a.KeepsLater) (horder : a.Reorders)
    {items : List (Except Error ρ)} (asc : Ascending (inputRows items)) :
    Ascending (rowsOf (a.stage.transform items)) := by
  obtain ⟨read, rest, out, s, tail, rfl, hruns, hends, hfold⟩ :=
    Stage.fold_cases a.step a.finish start items
  rw [inputRows_append, inputRows_map_ok] at asc
  obtain ⟨left, held, h, hsends⟩ := exists_keeps horder hruns
  replace hsends := hsends hlater (asc.sublist (List.sublist_append_left _ _))
  have hrows : ∀ {sent : List (Staged ρ)}, (sent.Pairwise fun x y => time x.row ≤ time y.row) →
      Ascending (sent.map (·.row)) := fun hsent => by rwa [Ascending, List.pairwise_map]
  change Ascending (rowsOf (Stage.fold a.step a.finish start _))
  rw [hfold, rowsOf_append, rowsOf_map_ok]
  cases hends with
  | finished hfinish =>
    obtain rfl := Except.ok.inj hfinish
    obtain ⟨leaving, hperm, hflush, -⟩ := h.flush horder
    have hall := (hsends.perm hperm).flush hlater (h.holding.perm hperm.symm) hflush
    rw [rowsOf_map_ok, ← List.map_append]
    exact hrows hall.ascending
  | unfinished | failed | stuck => simpa using hrows hsends.ascending

/-- On ascending rows a stage that flushes finds no fault of its own. -/
theorem given_of_stage (horder : a.Reorders) {items : List (Except Error ρ)}
    (asc : Ascending (inputRows items)) {err : Error} (h : .error err ∈ a.stage.transform items) :
    a.Given items err := by
  refine GroupBy.given_of_fold (fun hruns hr hstep => ?_) (fun _ => ⟨_, rfl⟩) asc h
  obtain ⟨left, held, hkeeps, -⟩ := exists_keeps horder hruns
  exact hkeeps.fails_of_step hr hstep

end GroupingAggregation

end Ingest
