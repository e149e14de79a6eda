import Ingest.Proofs.Pagination
import Mathlib.Data.List.Chain
import Mathlib.Data.List.ModifyLast

/-!
# Proofs/Watching — an extraction seen from both ends

Whoever watches the source and the receiver of an extraction sees, page by page, what was asked for,
what was answered and how many rows were received before the next request (`Visit`). Watching
changes nothing (`run_watched`), and what is seen is a `Trail`, with one case for each way in which
a page can go. The rows of the visits are the rows that were sent, and each visit but the first asks
for what is after the last row of the one before it (`Visit.Link`).
-/

namespace Ingest

variable {ω ρ : Type}

/-- A page of an extraction, seen from both ends. -/
structure Visit (ρ : Type) where
  /-- The request. -/
  fetch : Fetch
  /-- The answer of the source. -/
  answer : Attempt (List ρ)
  /-- The rows that were received before the next request. -/
  received : Nat := 0

namespace Visit

/-- The page starts right after this instant. -/
def cursor (v : Visit ρ) : Instant := v.fetch.window.since

/-- The rows of the page that were sent. -/
def sent (v : Visit ρ) : List ρ := (v.answer.toOption.getD []).take v.received

/-- One more row was received. -/
def receive (v : Visit ρ) : Visit ρ := { v with received := v.received + 1 }

/-- How two visits in a row hang together: the second one starts after the last row of the first
one, and sends nothing earlier. -/
structure Link [Timed ρ] (v v' : Visit ρ) : Prop where
  ascending : Ascending v.sent
  cursor_eq : v.sent.getLast?.map time = some v'.cursor
  cursor_le : ∀ r ∈ v'.sent, v'.cursor ≤ time r

end Visit

/-! ## Watching

What is seen is kept beside the world of the source and the receiver, so the extraction that is
watched is the same one. -/

/-- The source, with each request and its answer noted. -/
def PageSource.watched (source : PageSource ω ρ) : PageSource (ω × List (Visit ρ)) ρ where
  name := source.name
  fetch f := fun (w, visits) =>
    let (answer, w) := source.fetch f w
    (answer, w, visits ++ [{ fetch := f, answer := answer }])

/-- The receiver, with each row that it takes noted with the last page. -/
def watchedReceiver (ρ : Type) (receiving : StateM ω Bool) : StateM (ω × List (Visit ρ)) Bool :=
  fun (w, visits) =>
    let (took, w) := receiving w
    (took, w, if took then visits.modifyLast Visit.receive else visits)

namespace Extraction

/-- The extraction from the watched source. -/
def watched (x : Extraction ω ρ) : Extraction (ω × List (Visit ρ)) ρ :=
  ⟨x.source.watched, x.pageSize⟩

theorem watched_fetch {x : Extraction ω ρ} {group : String} {window : Window} {p : Progress}
    {answer : Attempt (List ρ)} {w w' : ω}
    (h : x.source.fetch (x.nextFetch group window p) w = (answer, w')) (seen : List (Visit ρ)) :
    x.watched.source.fetch (x.watched.nextFetch group window p) (w, seen) =
      (answer, w', seen ++ [{ fetch := x.nextFetch group window p, answer := answer }]) := by
  change x.source.watched.fetch (x.nextFetch group window p) (w, seen) = _
  rw [PageSource.watched]
  simp only [h]

/-! ## Sending -/

section Send

variable {receiving : StateM ω Bool} {w w' : ω}

theorem send_cons_closed (h : receiving w = (false, w')) (r : ρ) (rest : List ρ) :
    send receiving (r :: rest) w = (([], false), w') := by
  rw [send]
  simp only [bind, StateT.bind, h]
  rfl

theorem send_cons_open (h : receiving w = (true, w')) (r : ρ) (rest : List ρ) :
    send receiving (r :: rest) w =
      let out := send receiving rest w'
      ((r :: out.1.1, out.1.2), out.2) := by
  rw [send]
  simp only [bind, StateT.bind, h]
  rfl

/-- **A part of the rows is sent**, and all of them exactly if the receiver stays. -/
theorem send_prefix (receiving : StateM ω Bool) (rows : List ρ) (w : ω) :
    (send receiving rows w).1.1 <+: rows ∧
      ((send receiving rows w).1.2 = true ↔ (send receiving rows w).1.1 = rows) := by
  induction rows generalizing w with
  | nil => exact ⟨List.prefix_rfl, fun _ => rfl, fun _ => rfl⟩
  | cons r rest ih =>
    obtain ⟨w', hclosed | hopen⟩ : ∃ w', receiving w = (false, w') ∨ receiving w = (true, w') := by
      rcases h : receiving w with ⟨_ | _, w'⟩
      · exact ⟨w', .inl rfl⟩
      · exact ⟨w', .inr rfl⟩
    · rw [send_cons_closed hclosed]
      exact ⟨List.nil_prefix, nofun, nofun⟩
    · rw [send_cons_open hopen]
      obtain ⟨hfront, hall⟩ := ih w'
      exact ⟨(List.prefix_cons_inj r).mpr hfront, hall.trans (by simp)⟩

/-- Who is watched sends the same rows. -/
theorem send_watched (receiving : StateM ω Bool) (rows : List ρ) (w : ω) (visits : List (Visit ρ))
    (v : Visit ρ) :
    send (watchedReceiver ρ receiving) rows (w, visits ++ [v]) =
      ((send receiving rows w).1, (send receiving rows w).2,
        visits ++ [{ v with received := v.received + (send receiving rows w).1.1.length }]) := by
  induction rows generalizing w v with
  | nil => rfl
  | cons r rest ih =>
    obtain ⟨took, w', hw⟩ : ∃ took w', receiving w = (took, w') := ⟨_, _, rfl⟩
    have hwatched : watchedReceiver ρ receiving (w, visits ++ [v]) =
        (took, w', if took then visits ++ [v.receive] else visits ++ [v]) := by
      rw [watchedReceiver]
      simp only [hw, List.modifyLast_concat]
    cases took with
    | false => rw [send_cons_closed hw, send_cons_closed hwatched]; rfl
    | true =>
      rw [send_cons_open hw, send_cons_open hwatched]
      simp only [if_true, ih]
      simp only [Visit.receive, List.length_cons, Nat.add_assoc, Nat.add_comm 1]

/-- **A page that was sent as far as the receiver took it**, and what was noted of it. -/
theorem send_noted {safe sent : List ρ} {all : Bool}
    (h : send receiving safe w = ((sent, all), w')) (f : Fetch) (rows : List ρ)
    (visits : List (Visit ρ)) :
    send (watchedReceiver ρ receiving) safe (w, visits ++ [{ fetch := f, answer := .ok rows }]) =
        ((sent, all), w',
          visits ++ [{ fetch := f, answer := .ok rows, received := sent.length }]) ∧
      sent <+: safe ∧ (all = true ↔ sent = safe) := by
  have hsend := send_watched receiving safe w visits { fetch := f, answer := .ok rows }
  have hpart := send_prefix receiving safe w
  rw [h] at hsend hpart
  dsimp only at hsend hpart
  rw [Nat.zero_add] at hsend
  exact ⟨hsend, hpart⟩

end Send

/-! ## One page -/

section Page

variable [Timed ρ]

/-- Without a descent the rows ascend from the last one sent. -/
theorem ascending_of_firstDescent? {lastAt : Option Instant} {rows : List ρ}
    (h : firstDescent? lastAt rows = none) :
    Ascending rows ∧ ∀ t ∈ lastAt, ∀ r ∈ rows, t ≤ time r := by
  induction rows generalizing lastAt with
  | nil => exact ⟨List.Pairwise.nil, by simp⟩
  | cons r rest ih =>
    have hrest : firstDescent? (some (time r)) rest = none ∧ ∀ t ∈ lastAt, t ≤ time r := by
      cases lastAt with
      | none => exact ⟨h, by simp⟩
      | some t =>
        rw [firstDescent?] at h
        split_ifs at h with hlt
        exact ⟨h, fun t' ht' => Option.mem_some.mp ht' ▸ not_lt.mp hlt⟩
    obtain ⟨hasc, hle⟩ := ih hrest.1
    refine ⟨List.pairwise_cons.mpr ⟨hle _ rfl, hasc⟩, fun t ht => ?_⟩
    exact List.forall_mem_cons.mpr
      ⟨hrest.2 t ht, fun s hs => (hrest.2 t ht).trans (hle _ rfl s hs)⟩

theorem beforeLast_isPrefix (rows : List ρ) : beforeLast rows <+: rows := by
  rw [beforeLast]
  cases rows.getLast? with
  | none => exact List.nil_prefix
  | some last => exact List.takeWhile_prefix _

/-- What may be sent of a page is a part of it, in order of time and not before what was sent; of a
full page it is some row at least. -/
theorem safeRows_spec {limit page : Nat} {lastAt : Option Instant} {rows safe : List ρ}
    (h : safeRows limit page lastAt rows = .ok safe) :
    safe <+: rows ∧ Ascending safe ∧ (∀ t ∈ lastAt, ∀ r ∈ safe, t ≤ time r) ∧
      (limit ≤ rows.length → safe ≠ []) := by
  have hdescent : firstDescent? lastAt rows = none := by
    rw [safeRows] at h
    cases hd : firstDescent? lastAt rows with
    | none => rfl
    | some descent =>
      rw [hd] at h
      cases h
  obtain ⟨hasc, hle⟩ := ascending_of_firstDescent? hdescent
  have hfront : safe <+: rows ∧ (limit ≤ rows.length → safe ≠ []) := by
    by_cases hlen : limit ≤ rows.length
    · rw [safeRows_of_le page hdescent hlen] at h
      split_ifs at h with hempty
      obtain rfl := Except.ok.inj h
      exact ⟨beforeLast_isPrefix rows, fun _ hnil => hempty (by rw [hnil]; rfl)⟩
    · rw [safeRows, hdescent] at h
      simp only [if_pos (not_le.mp hlen)] at h
      obtain rfl := Except.ok.inj h
      exact ⟨List.prefix_rfl, fun hle => absurd hle hlen⟩
  exact ⟨hfront.1, hasc.sublist hfront.1.sublist,
    fun t ht r hr => hle t ht r (hfront.1.subset hr), hfront.2⟩

end Page

/-! ## All pages -/

section Pages

variable [Timed ρ] {x : Extraction ω ρ} {receiving : StateM ω Bool} {group : String}
  {window : Window} {w : ω}

/-- What is told of the next page once `safe` was sent of it. -/
def pageInfo (window : Window) (p : Progress) (rows safe : List ρ) : PageInfo :=
  ⟨(p.extend safe).pages, rows.length, safe.length, (p.extend safe).cursor window.since⟩

/-- The visit of the next page, if this is the answer and so many rows were received. -/
def nextVisit (x : Extraction ω ρ) (group : String) (window : Window) (p : Progress)
    (answer : Attempt (List ρ)) (received : Nat) : Visit ρ :=
  ⟨x.nextFetch group window p, answer, received⟩

/-- The source may answer the request for the next page like this. -/
def Answers (x : Extraction ω ρ) (group : String) (window : Window) (p : Progress)
    (answer : Attempt (List ρ)) : Prop :=
  ∃ w w', x.source.fetch (x.nextFetch group window p) w = (answer, w')

/-- **What an extraction does** from some progress on: its outcome, and what its watchers see. -/
inductive Trail (x : Extraction ω ρ) (group : String) (window : Window) :
    Progress → Outcome ρ → List (Visit ρ) → Prop where
  /-- Nothing of the window is left. -/
  | complete {p : Progress} (h : ¬p.cursor window.since < window.upTo) :
      Trail x group window p ⟨.ok p, [], []⟩ []
  /-- The next page cannot be counted. -/
  | uncounted {p : Progress} :
      Trail x group window p ⟨.error (.panic (.text "attempt to add with overflow")), [], []⟩ []
  /-- The source does not give the next page. -/
  | fault {p : Progress} {fault : Fault} (h : x.Answers group window p (.error fault)) :
      Trail x group window p ⟨.error fault, [], []⟩ [x.nextVisit group window p (.error fault) 0]
  /-- Nothing of the next page may be sent. -/
  | refused {p : Progress} {rows : List ρ} {e : Error} (h : x.Answers group window p (.ok rows))
      (hsafe : safeRows x.limit (p.pages + 1) p.lastAt rows = .error e) :
      Trail x group window p ⟨.error (.error e), [], []⟩ [x.nextVisit group window p (.ok rows) 0]
  /-- The receiver goes away before the next page is sent. -/
  | closed {p : Progress} {rows safe sent : List ρ} (h : x.Answers group window p (.ok rows))
      (hsafe : safeRows x.limit (p.pages + 1) p.lastAt rows = .ok safe) (hpart : sent <+: safe)
      (hne : sent ≠ safe) :
      Trail x group window p ⟨.ok { p.extend sent with receiversClosed := true }, sent, []⟩
        [x.nextVisit group window p (.ok rows) sent.length]
  /-- The next page is short, so it is the last one. -/
  | last {p : Progress} {rows safe : List ρ} (h : x.Answers group window p (.ok rows))
      (hsafe : safeRows x.limit (p.pages + 1) p.lastAt rows = .ok safe)
      (hshort : rows.length < x.limit) :
      Trail x group window p ⟨.ok (p.extend safe), safe, [.page (pageInfo window p rows safe)]⟩
        [x.nextVisit group window p (.ok rows) safe.length]
  /-- The next page is full, and others follow. -/
  | page {p : Progress} {rows safe : List ρ} {out : Outcome ρ} {visits : List (Visit ρ)}
      (h : x.Answers group window p (.ok rows))
      (hsafe : safeRows x.limit (p.pages + 1) p.lastAt rows = .ok safe)
      (hfull : ¬rows.length < x.limit) (hrest : Trail x group window (p.extend safe) out visits) :
      Trail x group window p
        ⟨out.result, safe ++ out.sent, .page (pageInfo window p rows safe) :: out.events⟩
        (x.nextVisit group window p (.ok rows) safe.length :: visits)

omit [Timed ρ] in
theorem sent_nextVisit {p : Progress} {rows sent : List ρ} (h : sent <+: rows) :
    (x.nextVisit group window p (.ok rows) sent.length).sent = sent :=
  (List.prefix_iff_eq_take.mp h).symm

/-- **Watching changes nothing**, and what is seen is a trail. -/
theorem readPages_watched (x : Extraction ω ρ) (receiving : StateM ω Bool) (group : String)
    (window : Window) (budget : Nat) (p : Progress) (w : ω) (seen : List (Visit ρ)) :
    ∃ visits,
      x.watched.readPages (watchedReceiver ρ receiving) group window budget p (w, seen) =
        ((x.readPages receiving group window budget p w).1,
          (x.readPages receiving group window budget p w).2, seen ++ visits) ∧
      Trail x group window p (x.readPages receiving group window budget p w).1 visits := by
  induction budget generalizing p w seen with
  | zero =>
    refine ⟨[], ?_, ?_⟩
    all_goals
      by_cases hlt : p.cursor window.since < window.upTo
      · simp only [readPages_zero hlt, List.append_nil, Trail.uncounted]
      · simp only [readPages_of_not_lt hlt, List.append_nil, Trail.complete hlt]
  | succ budget ih =>
    by_cases hlt : p.cursor window.since < window.upTo
    swap
    · refine ⟨[], ?_, ?_⟩
      all_goals simp only [readPages_of_not_lt hlt, List.append_nil, Trail.complete hlt]
    obtain ⟨answer, w', hfetch⟩ : ∃ answer w',
        x.source.fetch (x.nextFetch group window p) w = (answer, w') := ⟨_, _, rfl⟩
    have hanswers : x.Answers group window p answer := ⟨w, w', hfetch⟩
    have hwatched := watched_fetch hfetch seen
    cases answer with
    | error fault =>
      rw [readPages_of_fault hlt hwatched, readPages_of_fault hlt hfetch]
      exact ⟨_, rfl, .fault hanswers⟩
    | ok rows =>
      cases hsafe : safeRows x.limit (p.pages + 1) p.lastAt rows with
      | error e =>
        rw [readPages_of_safeRows_error hlt hwatched hsafe,
          readPages_of_safeRows_error hlt hfetch hsafe]
        exact ⟨_, rfl, .refused hanswers hsafe⟩
      | ok safe =>
        obtain ⟨⟨sent, all⟩, w'', hout⟩ : ∃ out w'', send receiving safe w' = (out, w'') :=
          ⟨_, _, rfl⟩
        obtain ⟨hsend, hpart, hall⟩ := send_noted hout (x.nextFetch group window p) rows seen
        cases all with
        | false =>
          rw [readPages_of_closed hlt hwatched hsafe hsend,
            readPages_of_closed hlt hfetch hsafe hout]
          exact ⟨_, rfl, .closed hanswers hsafe hpart fun heq => nomatch hall.mpr heq⟩
        | true =>
          obtain rfl := hall.mp rfl
          have hlimit : x.watched.limit = x.limit := rfl
          rw [readPages_of_page hlt hwatched hsafe hsend, readPages_of_page hlt hfetch hsafe hout]
          by_cases hshort : rows.length < x.limit
          · simp only [hlimit, if_pos hshort]
            exact ⟨_, rfl, .last hanswers hsafe hshort⟩
          · obtain ⟨visits, hrest, htrail⟩ := ih (p.extend sent) w''
              (seen ++ [⟨x.nextFetch group window p, .ok rows, sent.length⟩])
            simp only [hlimit, if_neg hshort]
            rw [hrest, List.append_assoc, List.singleton_append]
            exact ⟨_, rfl, .page hanswers hsafe hshort htrail⟩

/-! ### How the visits hang together -/

/-- The visits of the rest of an extraction whose progress is `p`. -/
structure Course (x : Extraction ω ρ) (window : Window) (p : Progress) (sent : List ρ)
    (visits : List (Visit ρ)) : Prop where
  /-- The visits have the rows that were sent. -/
  sent_eq : sent = visits.flatMap Visit.sent
  /-- The source gave the answers. -/
  answered : ∀ v ∈ visits, ∃ w w', x.source.fetch v.fetch w = (v.answer, w')
  /-- The first visit goes on where the progress ends. -/
  head : ∀ v ∈ visits.head?, v.cursor = p.cursor window.since ∧
    ∀ t ∈ p.lastAt, ∀ r ∈ v.sent, t ≤ time r
  links : visits.IsChain Visit.Link

theorem Course.nil (p : Progress) : Course x window p [] [] where
  sent_eq := rfl
  answered := by simp
  head := by simp
  links := List.IsChain.nil

section

variable {p : Progress} {answer : Attempt (List ρ)} {received : Nat} {sent : List ρ}
  (h : x.Answers group window p answer) (hle : ∀ t ∈ p.lastAt, ∀ r ∈ sent, t ≤ time r)
  (hsent : (x.nextVisit group window p answer received).sent = sent)

include h hle hsent

/-- **The last page.** -/
theorem Course.last : Course x window p sent [x.nextVisit group window p answer received] where
  sent_eq := by rw [List.flatMap_singleton, hsent]
  answered := List.forall_mem_singleton.mpr h
  head := by simpa [hsent] using ⟨rfl, hle⟩
  links := List.IsChain.singleton _

/-- **A page with others behind it.** -/
theorem Course.cons (hasc : Ascending sent) (hne : sent ≠ []) {rest : List ρ}
    {visits : List (Visit ρ)} (hrest : Course x window (p.extend sent) rest visits) :
    Course x window p (sent ++ rest)
      (x.nextVisit group window p answer received :: visits) where
  sent_eq := by rw [List.flatMap_cons, hsent, hrest.sent_eq]
  answered := List.forall_mem_cons.mpr ⟨h, hrest.answered⟩
  head := by simpa [hsent] using ⟨rfl, hle⟩
  links := by
    refine List.isChain_cons.mpr ⟨fun v' hv' => ?_, hrest.links⟩
    obtain ⟨last, hlast⟩ := Option.ne_none_iff_exists'.mp (mt List.getLast?_eq_none_iff.mp hne)
    obtain ⟨hcursor', hle'⟩ := hrest.head v' hv'
    have hlastAt : (p.extend sent).lastAt = some (time last) := by simp [Progress.extend, hlast]
    have hnext : v'.cursor = time last := by rw [hcursor', Progress.cursor, hlastAt]; rfl
    exact ⟨hsent ▸ hasc, by rw [hsent, hlast, hnext]; rfl, hnext ▸ hle' _ hlastAt⟩

end

/-- **A trail is a course of visits.** -/
theorem Trail.course {p : Progress} {out : Outcome ρ} {visits : List (Visit ρ)}
    (h : Trail x group window p out visits) : Course x window p out.sent visits := by
  have hnone : ∀ t ∈ p.lastAt, ∀ r ∈ ([] : List ρ), t ≤ time r :=
    fun _ _ _ hr => absurd hr List.not_mem_nil
  induction h with
  | complete => exact .nil _
  | uncounted => exact .nil _
  | fault h => exact .last h hnone rfl
  | refused h => exact .last h hnone rfl
  | closed h hsafe hpart =>
    obtain ⟨hrows, -, hle, -⟩ := safeRows_spec hsafe
    exact .last h (fun t ht r hr => hle t ht r (hpart.subset hr))
      (sent_nextVisit (hpart.trans hrows))
  | last h hsafe =>
    obtain ⟨hrows, -, hle, -⟩ := safeRows_spec hsafe
    exact .last h hle (sent_nextVisit hrows)
  | page h hsafe hfull _ ih =>
    obtain ⟨hrows, hasc, hle, hne⟩ := safeRows_spec hsafe
    exact .cons h hle (sent_nextVisit hrows) hasc (hne (not_lt.mp hfull))
      (ih fun _ _ _ hr => absurd hr List.not_mem_nil)

end Pages

/-! ## The whole extraction -/

section Run

variable [Timed ρ] (x : Extraction ω ρ) (receiving : StateM ω Bool) (group : String)
  (window : Window) (w : ω)

/-- The visits of an extraction. -/
def visits : List (Visit ρ) :=
  (x.watched.run (watchedReceiver ρ receiving) group window (w, [])).2.2

variable {x receiving group window w} in
/-- A run ends as its pages do. -/
theorem run_fst_congr {ω' : Type} {x' : Extraction ω' ρ} {receiving' : StateM ω' Bool} {w' : ω'}
    (h : (x'.readPages receiving' group window maxPages {} w').1 =
      (x.readPages receiving group window maxPages {} w).1) :
    (x'.run receiving' group window w').1 = (x.run receiving group window w).1 := by
  rw [run, run]
  simp only [bind, StateT.bind]
  generalize x.readPages receiving group window maxPages {} w = pages at h ⊢
  generalize x'.readPages receiving' group window maxPages {} w' = pages' at h ⊢
  obtain ⟨out, v⟩ := pages
  obtain ⟨out', v'⟩ := pages'
  obtain rfl : out' = out := h
  obtain ⟨(e | panic) | p, sent, events⟩ := out' <;> rfl

/-- **A watched extraction** does what it does when nobody watches. -/
theorem run_watched : x.watched.run (watchedReceiver ρ receiving) group window (w, []) =
    ((x.run receiving group window w).1, (x.run receiving group window w).2,
      x.visits receiving group window w) := by
  obtain ⟨visits, hpages, -⟩ := readPages_watched x receiving group window maxPages {} w []
  obtain ⟨-, -, hworld⟩ := x.run_eq_readPages receiving group window w
  obtain ⟨-, -, hworld'⟩ :=
    x.watched.run_eq_readPages (watchedReceiver ρ receiving) group window (w, [])
  refine Prod.ext (run_fst_congr (congrArg Prod.fst hpages)) (Prod.ext ?_ rfl)
  rw [hworld', hpages, hworld]

/-- **The visits of an extraction** are the trail of its pages. -/
theorem trail_visits : Trail x group window {}
    (x.readPages receiving group window maxPages {} w).1
    (x.visits receiving group window w) := by
  obtain ⟨visits, hpages, htrail⟩ := readPages_watched x receiving group window maxPages {} w []
  obtain ⟨-, -, hworld'⟩ :=
    x.watched.run_eq_readPages (watchedReceiver ρ receiving) group window (w, [])
  have hvisits : x.visits receiving group window w = visits := by
    rw [Extraction.visits, hworld', hpages, List.nil_append]
  rwa [hvisits]

/-- **The visits of an extraction** have the rows that were sent, and hang together. -/
theorem course_visits : Course x window {} (x.run receiving group window w).1.sent
    (x.visits receiving group window w) := by
  obtain ⟨-, hsent, -⟩ := x.run_eq_readPages receiving group window w
  exact hsent ▸ (x.trail_visits receiving group window w).course

end Run

end Extraction

end Ingest
