import Ingest.Proofs.Watching
import Mathlib.Algebra.Order.Ring.Nat

/-!
# Proofs/PageEvents — what an extraction tells is what it did

The events of an extraction are held against what its watchers saw (`Visit`): one event for each
page that was completed, with the numbers of that page, and a failure at the end if there was one.
Nothing is assumed of the source, which may break every rule, nor of the receiver. Main statement:
`run_tells`.
-/

namespace Ingest

variable {ω ρ : Type} [Timed ρ]

/-- The rows of a page that are to be sent: a full page keeps those of its last timestamp back. -/
def Extraction.sendable (limit : Nat) (rows : List ρ) : List ρ :=
  if rows.length < limit then rows else beforeLast rows

/-- The event tells what happened to a page that was completed. The next page starts after the last
row that was sent, or where this one did. -/
structure PageInfo.Tells (limit : Nat) (info : PageInfo) (v : Visit ρ) : Prop where
  answered : ∃ rows, v.answer = .ok rows ∧ info.fetched = rows.length ∧
    v.sent = Extraction.sendable limit rows
  emitted : info.emitted = v.sent.length
  cursor : info.cursor = (v.sent.getLast?.map time).getD v.cursor

/-- The receiver went away before the page was completed. -/
def Visit.CutShort (limit : Nat) (v : Visit ρ) : Prop :=
  ∃ rows, v.answer = .ok rows ∧ v.sent <+: Extraction.sendable limit rows ∧
    v.sent ≠ Extraction.sendable limit rows

namespace Extraction

variable {x : Extraction ω ρ} {group : String} {window : Window} {p : Progress}
  {out : Outcome ρ} {visits : List (Visit ρ)} {rows safe sent : List ρ}

theorem eq_sendable_of_safeRows {limit page : Nat} {lastAt : Option Instant}
    (h : safeRows limit page lastAt rows = .ok safe) : safe = sendable limit rows := by
  have hdescent : firstDescent? lastAt rows = none := by
    cases hd : firstDescent? lastAt rows with
    | none => rfl
    | some descent => simp [safeRows, hd] at h
  by_cases hlen : rows.length < limit
  · rw [safeRows, hdescent] at h
    simp only [if_pos hlen] at h
    rw [sendable, if_pos hlen]
    exact (Except.ok.inj h).symm
  · rw [safeRows_of_le page hdescent (not_lt.mp hlen)] at h
    split_ifs at h
    rw [sendable, if_neg hlen]
    exact (Except.ok.inj h).symm

/-! ## Order -/

/-- **The timestamps of a trail never decrease.** -/
theorem Trail.ascending (h : Trail x group window p out visits) :
    Ascending out.sent ∧ ∀ t ∈ p.lastAt, ∀ r ∈ out.sent, t ≤ time r := by
  have hnil : ∀ p : Progress,
      Ascending ([] : List ρ) ∧ ∀ t ∈ p.lastAt, ∀ r ∈ ([] : List ρ), t ≤ time r :=
    fun p => ⟨.nil, fun _ _ _ hr => absurd hr List.not_mem_nil⟩
  induction h with
  | complete => exact hnil _
  | uncounted => exact hnil _
  | fault => exact hnil _
  | refused => exact hnil _
  | closed _ hsafe hpart =>
    obtain ⟨-, hasc, hle, -⟩ := safeRows_spec hsafe
    exact ⟨hasc.sublist hpart.sublist, fun t ht r hr => hle t ht r (hpart.subset hr)⟩
  | last _ hsafe =>
    obtain ⟨-, hasc, hle, -⟩ := safeRows_spec hsafe
    exact ⟨hasc, hle⟩
  | @page p rows safe out visits _ hsafe hfull _ ih =>
    obtain ⟨-, hasc, hle, hne⟩ := safeRows_spec hsafe
    obtain ⟨hrest, hlater⟩ := ih
    obtain ⟨last, hlast⟩ :=
      Option.ne_none_iff_exists'.mp (mt List.getLast?_eq_none_iff.mp (hne (not_lt.mp hfull)))
    have hlastAt : (p.extend safe).lastAt = some (time last) := by simp [Progress.extend, hlast]
    have hcross : ∀ a ∈ safe, ∀ b ∈ out.sent, time a ≤ time b := fun a ha b hb =>
      (hasc.le_getLast hlast ha).trans (hlater _ hlastAt b hb)
    refine ⟨List.pairwise_append.mpr ⟨hasc, hrest, hcross⟩, fun t ht r hr => ?_⟩
    rcases List.mem_append.mp hr with hr | hr
    · exact hle t ht r hr
    · exact (hle t ht last (List.mem_of_getLast? hlast)).trans (hlater _ hlastAt r hr)

/-! ## The end -/

/-- How an extraction ends that had come to `p`: `cut` is the page that it did not complete. -/
def Ends (limit : Nat) (p : Progress) (sent : List ρ) (visits : List (Visit ρ))
    (infos : List PageInfo) (cut : List (Visit ρ)) : Attempt Progress → Prop
  | .ok q =>
    q.pages = p.pages + visits.length ∧ q.rows = p.rows + sent.length ∧
    q.lastAt = (sent.getLast?.map time).or p.lastAt ∧
    if q.receiversClosed then ∃ v, cut = [v] ∧ v.CutShort limit
    else cut = [] ∧ (infos.map (·.emitted)).sum = sent.length
  | .error (.error _) => ∃ v, cut = [v] ∧ v.sent = []
  | .error (.panic _) => ∀ v ∈ cut, v.sent = []

variable {limit : Nat} {infos : List PageInfo} {info : PageInfo} {completed cut : List (Visit ρ)}
  {v : Visit ρ} {result : Attempt Progress}

theorem Ends.idle (hp : p.receiversClosed = false) :
    Ends limit p ([] : List ρ) [] [] [] (.ok p) := by
  simp [Ends, hp]

/-- **A page that is completed** changes nothing at the end. -/
theorem Ends.cons (h : Ends limit (p.extend safe) sent visits infos cut result)
    (hinfo : info.emitted = safe.length) :
    Ends limit p (safe ++ sent) (v :: visits) (info :: infos) cut result := by
  rcases result with (e | cause) | q
  · exact h
  · exact h
  obtain ⟨hpages, hrows, hlast, hcut⟩ := h
  have hcounted : (p.extend safe).pages = p.pages + 1 := rfl
  have hsent : (p.extend safe).rows = p.rows + safe.length := rfl
  refine ⟨?_, ?_, ?_, ?_⟩
  · rw [hpages, hcounted, List.length_cons]
    omega
  · rw [hrows, hsent, List.length_append, Nat.add_assoc]
  · rw [hlast, Progress.extend, List.getLast?_append, Option.map_or, Option.or_assoc]
  · rw [List.map_cons, List.sum_cons, List.length_append, hinfo]
    split_ifs at hcut ⊢
    · exact hcut
    · exact ⟨hcut.1, by rw [hcut.2]⟩

/-! ## The events -/

/-- What an extraction that had come to `p` told: `infos`, one for each visit that it completed. -/
structure Told (x : Extraction ω ρ) (window : Window) (p : Progress) (out : Outcome ρ)
    (visits : List (Visit ρ)) (infos : List PageInfo) (completed cut : List (Visit ρ)) : Prop where
  visits_eq : visits = completed ++ cut
  events_eq : out.events = infos.map .page
  tells : List.Forall₂ (PageInfo.Tells x.limit) infos completed
  pages : infos.map (·.page) = List.range' (p.pages + 1) infos.length
  cursors : visits.map Visit.cursor <+: p.cursor window.since :: infos.map (·.cursor)
  ends : Ends x.limit p out.sent visits infos cut out.result

/-- Nothing is told of a page that was not completed. -/
theorem Told.unfinished {answer : Attempt (List ρ)} {received : Nat}
    (h : Ends x.limit p sent [x.nextVisit group window p answer received] []
      [x.nextVisit group window p answer received] result) :
    Told x window p ⟨result, sent, []⟩ [x.nextVisit group window p answer received] [] []
      [x.nextVisit group window p answer received] where
  visits_eq := rfl
  events_eq := rfl
  tells := .nil
  pages := rfl
  cursors := List.prefix_rfl
  ends := h

theorem Told.idle (h : Ends x.limit p ([] : List ρ) [] [] [] result) :
    Told x window p ⟨result, [], []⟩ [] [] [] [] where
  visits_eq := rfl
  events_eq := rfl
  tells := .nil
  pages := rfl
  cursors := List.nil_prefix
  ends := h

theorem tells_pageInfo (hrows : safe <+: rows) (hsafe : safe = sendable x.limit rows) :
    (pageInfo window p rows safe).Tells x.limit
      (x.nextVisit group window p (.ok rows) safe.length) where
  answered := ⟨rows, rfl, rfl, (sent_nextVisit hrows).trans hsafe⟩
  emitted := by rw [sent_nextVisit hrows]; rfl
  cursor := by
    rw [sent_nextVisit hrows]
    cases hlast : safe.getLast? <;>
      simp [pageInfo, Progress.cursor, Progress.extend, hlast, nextVisit, Visit.cursor, nextFetch]

/-- **A page that is completed** is told before the others. -/
theorem Told.cons (group : String)
    (h : Told x window (p.extend safe) out visits infos completed cut) (hrows : safe <+: rows)
    (hsafe : safe = sendable x.limit rows) :
    let v := x.nextVisit group window p (.ok rows) safe.length
    let info := pageInfo window p rows safe
    Told x window p ⟨out.result, safe ++ out.sent, .page info :: out.events⟩ (v :: visits)
      (info :: infos) (v :: completed) cut where
  visits_eq := congrArg _ h.visits_eq
  events_eq := congrArg _ h.events_eq
  tells := .cons (tells_pageInfo hrows hsafe) h.tells
  pages := congrArg _ h.pages
  cursors := (List.prefix_cons_inj _).mpr h.cursors
  ends := h.ends.cons rfl

/-- **Every trail is told.** -/
theorem Trail.exists_told (h : Trail x group window p out visits)
    (hp : p.receiversClosed = false) :
    ∃ infos completed cut, Told x window p out visits infos completed cut := by
  induction h with
  | complete => exact ⟨[], [], [], .idle (.idle hp)⟩
  | uncounted => exact ⟨[], [], [], .idle fun _ hv => absurd hv List.not_mem_nil⟩
  | @fault p fault =>
    refine ⟨[], [], _, .unfinished ?_⟩
    cases fault with
    | error e => exact ⟨_, rfl, rfl⟩
    | panic cause => exact List.forall_mem_singleton.mpr rfl
  | refused => exact ⟨[], [], _, .unfinished ⟨_, rfl, rfl⟩⟩
  | @closed p rows safe sent _ hsafe hpart hne =>
    obtain ⟨hrows, -⟩ := safeRows_spec hsafe
    obtain rfl := eq_sendable_of_safeRows hsafe
    have hsent : (x.nextVisit group window p (.ok rows) sent.length).sent = sent :=
      sent_nextVisit (hpart.trans hrows)
    refine ⟨[], [], _, .unfinished ⟨rfl, rfl, rfl, ?_⟩⟩
    rw [if_pos rfl]
    exact ⟨_, rfl, rows, rfl, hsent.symm ▸ hpart, hsent.symm ▸ hne⟩
  | @last p rows safe _ hsafe =>
    obtain ⟨hrows, -⟩ := safeRows_spec hsafe
    have hidle : Told x window (p.extend safe) ⟨.ok (p.extend safe), [], []⟩ [] [] [] [] :=
      .idle (.idle hp)
    have hcons := hidle.cons group hrows (eq_sendable_of_safeRows hsafe)
    rw [List.append_nil] at hcons
    exact ⟨_, _, _, hcons⟩
  | page _ hsafe _ _ ih =>
    obtain ⟨hrows, -⟩ := safeRows_spec hsafe
    obtain ⟨infos, completed, cut, hrest⟩ := ih hp
    exact ⟨_, _, _, hrest.cons group hrows (eq_sendable_of_safeRows hsafe)⟩

/-! ## The whole extraction -/

/-- An extraction tells of its pages, and then of its failure. -/
theorem run_events (x : Extraction ω ρ) (receiving : StateM ω Bool) (group : String)
    (window : Window) (w : ω) :
    (x.run receiving group window w).1.events =
      (x.readPages receiving group window maxPages {} w).1.events ++
        match (x.run receiving group window w).1.result with
        | .error (.error e) => [.failed e.message]
        | _ => [] := by
  rw [run]
  simp only [bind, StateT.bind]
  rcases x.readPages receiving group window maxPages {} w with ⟨⟨(e | cause) | q, sent, events⟩, w'⟩
  · rfl
  · exact (List.append_nil events).symm
  · exact (List.append_nil events).symm

/-- **What an extraction tells is what it did**, for every source and every receiver. The timestamps
that it sends never decrease. Its events are one for each page that it completed, numbered from 1,
and at the end its failure, if it fails. The first fetch starts at the window, and each later one at
the cursor that the event before it has. If it fails on a page, it has sent nothing of that page. If
it does not fail, its result has the numbers of what was sent, and the events add up to them unless
the receiver went away. -/
theorem run_tells (x : Extraction ω ρ) (receiving : StateM ω Bool) (group : String)
    (window : Window) (w : ω) :
    let out := x.run receiving group window w
    let visits := x.visits receiving group window w
    x.watched.run (watchedReceiver ρ receiving) group window (w, []) = (out.1, out.2, visits) ∧
      Ascending out.1.sent ∧ out.1.sent = visits.flatMap Visit.sent ∧
      ∃ (infos : List PageInfo) (completed cut : List (Visit ρ)),
        visits = completed ++ cut ∧ List.Forall₂ (PageInfo.Tells x.limit) infos completed ∧
        infos.map (·.page) = List.range' 1 infos.length ∧
        visits.map Visit.cursor <+: window.since :: infos.map (·.cursor) ∧
        match out.1.result with
        | .ok p =>
          out.1.events = infos.map .page ∧ p.pages = visits.length ∧
          p.rows = out.1.sent.length ∧ p.lastAt = out.1.sent.getLast?.map time ∧
          if p.receiversClosed then ∃ v, cut = [v] ∧ v.CutShort x.limit
          else cut = [] ∧ (infos.map (·.emitted)).sum = p.rows
        | .error (.error e) =>
          out.1.events = infos.map .page ++ [.failed e.message] ∧ ∃ v, cut = [v] ∧ v.sent = []
        | .error (.panic _) => out.1.events = infos.map .page ∧ ∀ v ∈ cut, v.sent = [] := by
  intro out visits
  have htrail := x.trail_visits receiving group window w
  have hevents := x.run_events receiving group window w
  obtain ⟨hresult, hsent, -⟩ := x.run_eq_readPages receiving group window w
  obtain ⟨infos, completed, cut, htold⟩ := htrail.exists_told rfl
  refine ⟨x.run_watched receiving group window w, hsent ▸ htrail.ascending.1,
    (x.course_visits receiving group window w).sent_eq, infos, completed, cut, htold.visits_eq,
    htold.tells, htold.pages, htold.cursors, ?_⟩
  have hends := htold.ends
  rw [← hresult, ← hsent] at hends
  rw [htold.events_eq] at hevents
  change out.1.events = _ ++ match out.1.result with | .error (.error e) => _ | _ => _ at hevents
  change Ends x.limit {} out.1.sent visits infos cut out.1.result at hends
  generalize out.1.result = result at hevents hends
  rcases result with (e | cause) | q
  · exact ⟨hevents, hends⟩
  · exact ⟨hevents.trans (List.append_nil _), hends⟩
  · obtain ⟨hpages, hrows, hlast, hcut⟩ := hends
    refine ⟨hevents.trans (List.append_nil _), hpages.trans (Nat.zero_add _),
      hrows.trans (Nat.zero_add _), hlast.trans (Option.or_none), ?_⟩
    rwa [hrows.trans (Nat.zero_add _)]

end Extraction

end Ingest
