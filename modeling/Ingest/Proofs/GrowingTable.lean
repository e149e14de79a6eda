import Ingest.Proofs.Pagination
import Mathlib.Data.List.Perm.Basic

/-!
# Proofs/GrowingTable — reading a table that grows meanwhile

Each fetch sees the table as it is then. What was sent lies up to the cursor of the next fetch, and
up to there the table does not change any more, so all later snapshots agree on it; what comes later
is read from a later snapshot. Main statement: `run_ofSnapshots` — an extraction that succeeds has
sent the window of the last snapshot it saw.
-/

namespace Ingest

variable {ρ : Type} [Timed ρ]

/-- A source that answers each fetch from the next snapshot of a table unless `fails` says
otherwise. The world is the list of fetches so far. -/
def PageSource.ofSnapshots (name : String) (snapshots : Nat → List ρ)
    (fails : List Fetch → Option Fault) : PageSource (List Fetch) ρ where
  name := name
  fetch f := fun made =>
    (match fails (made ++ [f]) with
      | some fault => .error fault
      | none => .ok (f.page (snapshots made.length)), made ++ [f])

/-! ## Tables that agree -/

/-- A way to say that two tables have the same rows: in the same order, or in any order. -/
structure Alike (R : List ρ → List ρ → Prop) : Prop where
  refl : ∀ l, R l l
  trans : ∀ {l₁ l₂ l₃}, R l₁ l₂ → R l₂ l₃ → R l₁ l₃
  append : ∀ {l₁ l₂ m₁ m₂}, R l₁ l₂ → R m₁ m₂ → R (l₁ ++ m₁) (l₂ ++ m₂)
  filter : ∀ {l₁ l₂} (q : ρ → Bool), R l₁ l₂ → R (l₁.filter q) (l₂.filter q)

omit [Timed ρ] in
/-- Rows can be compared as they are. -/
theorem alike_eq : Alike (Eq : List ρ → List ρ → Prop) where
  refl _ := rfl
  trans := Eq.trans
  append h h' := congrArg₂ (· ++ ·) h h'
  filter q h := congrArg (List.filter q) h

omit [Timed ρ] in
/-- Rows can be compared without their order. -/
theorem alike_perm : Alike (List.Perm : List ρ → List ρ → Prop) where
  refl := List.Perm.refl
  trans := List.Perm.trans
  append := List.Perm.append
  filter q h := h.filter q

/-- Two tables have the same rows up to an instant. -/
def AgreeUpTo (R : List ρ → List ρ → Prop) (t : Instant) (before after : List ρ) : Prop :=
  R (before.filter fun r => time r ≤ t) (after.filter fun r => time r ≤ t)

namespace Alike

variable {R : List ρ → List ρ → Prop} {t t' : Instant} {before after : List ρ}

/-- Tables that agree up to an instant agree up to every earlier one. -/
theorem upTo_mono (hR : Alike R) (h : AgreeUpTo R t before after) (hle : t' ≤ t) :
    AgreeUpTo R t' before after := by
  have hfilter : ∀ l : List ρ, (l.filter fun r => time r ≤ t).filter (fun r => time r ≤ t')
      = l.filter fun r => time r ≤ t' := by
    intro l
    rw [List.filter_filter]
    refine List.filter_congr fun r _ => ?_
    by_cases hr : time r ≤ t'
    · simp [hr, hr.trans hle]
    · simp [hr]
  have hsub := hR.filter (fun r => time r ≤ t') h
  rwa [hfilter, hfilter] at hsub

/-- Tables that agree agree on every window. -/
theorem upTo_rows (hR : Alike R) (h : AgreeUpTo R t before after) (w : Window) :
    AgreeUpTo R t (w.rows before) (w.rows after) := by
  have hsub := hR.filter (fun r => w.contains (time r)) h
  rwa [List.filter_comm, List.filter_comm _ _ after] at hsub

end Alike

/-- A table has grown: it has the same rows and some more, which are all later than an instant. -/
def GrownAfter (t : Instant) (before after : List ρ) : Prop :=
  ∃ added, after.Perm (before ++ added) ∧ ∀ r ∈ added, t < time r

namespace GrownAfter

variable {t : Instant} {before after : List ρ}

/-- A table that grew after an instant agrees with what it was up to there. -/
theorem agreeUpTo_perm (h : GrownAfter t before after) : AgreeUpTo List.Perm t before after := by
  obtain ⟨added, hperm, hlater⟩ := h
  have hnone : added.filter (fun r => time r ≤ t) = [] :=
    List.filter_eq_nil_iff.mpr fun r hr => by simpa using hlater r hr
  have hfilter := hperm.filter fun r => decide (time r ≤ t)
  rw [List.filter_append, hnone, List.append_nil] at hfilter
  exact hfilter.symm

/-- Rows that keep their order are the same list up to there. -/
theorem agreeUpTo_eq (h : GrownAfter t before after) (hsub : before.Sublist after) :
    AgreeUpTo Eq t before after :=
  (hsub.filter _).eq_of_length h.agreeUpTo_perm.length_eq

end GrownAfter

namespace Extraction

/-! ## What successive fetches see -/

variable {R : List ρ → List ρ → Prop} {T : Nat → List ρ} {first : Nat} {cursor upTo : Instant}
  {fetches : List Fetch} {f : Fetch} {result : Attempt Progress} {sent : List ρ}

/-- Up to the cursor of each fetch but the first, the snapshot before it had the rows already. -/
def Settled (R : List ρ → List ρ → Prop) (T : Nat → List ρ) (first : Nat) (fetches : List Fetch) :
    Prop :=
  ∀ k f, fetches[k + 1]? = some f → AgreeUpTo R f.window.since (T (first + k)) (T (first + k + 1))

/-- What is settled at a fetch is settled at the later ones. -/
theorem Settled.tail (h : Settled R T first (f :: fetches)) : Settled R T (first + 1) fetches := by
  intro k g hg
  have hnext := h (k + 1) g hg
  rwa [← Nat.add_assoc, Nat.add_right_comm first k 1] at hnext

/-- **All snapshots agree on what was sent**: up to an instant that no later cursor is before. -/
theorem Settled.agreeUpTo (hR : Alike R) (h : Settled R T first (f :: fetches)) {t : Instant}
    (hle : ∀ g ∈ fetches, t ≤ g.window.since) {k : Nat} (hk : k ≤ fetches.length) :
    AgreeUpTo R t (T first) (T (first + k)) := by
  induction k with
  | zero => exact hR.refl _
  | succ k ih =>
    have hstep := h k fetches[k] (by simp)
    exact hR.trans (ih (Nat.le_of_succ_le hk))
      (hR.upTo_mono hstep (hle _ (List.getElem_mem hk)))

/-- What reading from a cursor has done with the fetches it made: the rows it sent are in order and
come after the cursor, and in the end they are those that the last snapshot has there. -/
structure Reads (R : List ρ → List ρ → Prop) (T : Nat → List ρ) (first : Nat)
    (cursor upTo : Instant) (fetches : List Fetch) (result : Attempt Progress) (sent : List ρ) :
    Prop where
  since_le : ∀ g ∈ fetches, cursor ≤ g.window.since
  after : ∀ r ∈ sent, cursor < time r
  ascending : Ascending sent
  fetched : cursor < upTo → (∃ p, result = .ok p) → fetches ≠ []
  sends : Settled R T first fetches → (∃ p, result = .ok p) →
    R sent (Window.rows ⟨cursor, upTo⟩ (T (first + (fetches.length - 1))))

namespace Reads

/-- An extraction that is at its end reads nothing. -/
theorem idle (hR : Alike R) (h : ¬cursor < upTo) : Reads R T first cursor upTo [] result [] where
  since_le _ hg := absurd hg List.not_mem_nil
  after _ hr := absurd hr List.not_mem_nil
  ascending := List.Pairwise.nil
  fetched hlt := absurd hlt h
  sends _ _ := by
    rw [Window.rows_eq_nil h]
    exact hR.refl []

/-- An extraction that fails reads nothing more. -/
theorem failed {fault : Fault} (hf : ∀ g ∈ fetches, cursor ≤ g.window.since) :
    Reads R T first cursor upTo fetches (.error fault) [] where
  since_le := hf
  after _ hr := absurd hr List.not_mem_nil
  ascending := List.Pairwise.nil
  fetched _ := by rintro ⟨p, hp⟩; cases hp
  sends _ := by rintro ⟨p, hp⟩; cases hp

/-- A short page is the rest of its snapshot's window. -/
theorem last (hR : Alike R) (asc : Ascending (T first)) (hf : cursor ≤ f.window.since) :
    Reads R T first cursor upTo [f] result (Window.rows ⟨cursor, upTo⟩ (T first)) where
  since_le g hg := by rwa [List.mem_singleton.mp hg]
  after r hr := (Window.mem_rows.mp hr).2.1
  ascending := asc.filter _
  fetched _ _ := List.cons_ne_nil _ _
  sends _ _ := hR.refl _

/-- **A full page in front.** What it sends is up to `t`, where the next fetch starts. -/
theorem page (hR : Alike R) (asc : ∀ k, Ascending (T k)) {t : Instant} (hlt : cursor ≤ t)
    (hupTo : t < upTo) (hf : cursor ≤ f.window.since)
    (h : Reads R T (first + 1) t upTo fetches result sent) :
    Reads R T first cursor upTo (f :: fetches) result
      ((Window.rows ⟨cursor, upTo⟩ (T first)).filter (fun r => time r ≤ t) ++ sent) where
  since_le g hg := by
    rcases List.mem_cons.mp hg with rfl | hg
    · exact hf
    · exact hlt.trans (h.since_le g hg)
  after r hr := by
    rcases List.mem_append.mp hr with hr | hr
    · exact (Window.mem_rows.mp (List.mem_of_mem_filter hr)).2.1
    · exact hlt.trans_lt (h.after r hr)
  ascending := by
    refine List.pairwise_append.mpr ⟨((asc first).filter _).filter _, h.ascending, ?_⟩
    intro r hr s hs
    have hrt : time r ≤ t := by simpa using (List.mem_filter.mp hr).2
    exact hrt.trans (h.after s hs).le
  fetched _ _ := List.cons_ne_nil _ _
  sends hsettled hok := by
    have hpos : 0 < fetches.length := List.length_pos_iff.mpr (h.fetched hupTo hok)
    have hindex : first + 1 + (fetches.length - 1) = first + fetches.length := by omega
    have hrest := h.sends hsettled.tail hok
    rw [hindex] at hrest
    rw [List.length_cons, Nat.add_sub_cancel,
      ← Window.filter_le_append_rows (w := ⟨cursor, upTo⟩) (asc (first + fetches.length)) hlt]
    exact hR.append (hR.upTo_rows (hsettled.agreeUpTo hR h.since_le le_rfl) _) hrest

end Reads

section Reading

variable {x : Extraction (List Fetch) ρ} {name : String} {fails : List Fetch → Option Fault}
  {group : String} {window : Window}

/-- A fetch finds the snapshot of its turn. -/
theorem fetch_ofSnapshots (hx : x.source = .ofSnapshots name T fails) (f : Fetch)
    (made : List Fetch) :
    (∃ fault, x.source.fetch f made = (.error fault, made ++ [f])) ∨
      x.source.fetch f made = (.ok (f.page (T made.length)), made ++ [f]) := by
  rw [hx]
  simp only [PageSource.ofSnapshots]
  rcases fails (made ++ [f]) with _ | fault
  · exact .inr rfl
  · exact .inl ⟨fault, rfl⟩

/-- Not all rows are up to `t`, so one of them is later. -/
theorem exists_later {rows : List ρ} {t : Instant}
    (h : (rows.filter fun r => time r ≤ t).length < rows.length) : ∃ r ∈ rows, t < time r := by
  by_contra hnone
  push Not at hnone
  rw [List.filter_eq_self.mpr fun r hr => by simpa using hnone r hr] at h
  exact lt_irrefl _ h

/-- **One page of a table** is the rest of the window, or cannot be cut, or is cut at some instant
before the end of the window, where the next page starts. -/
theorem readPages_page_cases {ω : Type} {x : Extraction ω ρ} {group : String} {window : Window}
    (budget : Nat) {p : Progress} {w w' : ω} {table : List ρ} (asc : Ascending table)
    (hlt : p.cursor window.since < window.upTo)
    (hfetch : x.source.fetch (x.nextFetch group window p) w
      = (.ok ((x.nextFetch group window p).page table), w')) :
    let out := x.readPages (pure true) group window (budget + 1) p w
    let rows := Window.rows ⟨p.cursor window.since, window.upTo⟩ table
    (out.1.sent = rows ∧ out.2 = w') ∨
      (∃ fault, out.1.result = .error fault ∧ out.1.sent = [] ∧ out.2 = w') ∨
      ∃ (p' : Progress) (t : Instant), p.cursor window.since ≤ t ∧ t < window.upTo ∧
        p'.cursor window.since = t ∧
        let rest := x.readPages (pure true) group window budget p' w'
        out.1.result = rest.1.result ∧
          out.1.sent = rows.filter (fun r => time r ≤ t) ++ rest.1.sent ∧ out.2 = rest.2 := by
  intro out rows
  have hlast : ∀ t ∈ p.lastAt, ∀ r ∈ rows, t ≤ time r := by
    intro t ht r hr
    have hcursor : p.cursor window.since = t := by rw [Progress.cursor, ht, Option.getD_some]
    exact hcursor ▸ (Window.mem_rows.mp hr).2.1.le
  rcases safeRows_cases (p.pages + 1) x.limit_pos (asc.filter _) hlast with
    ⟨hshort, hsafe⟩ | ⟨r, -, -, -, hsafe⟩ | ⟨safe, last, hl, hall, hlen, hfull, hsafe⟩
  · have hout : x.readPages (pure true) group window (budget + 1) p w = _ :=
      readPages_of_page hlt hfetch hsafe (send_open _ _)
    have hpage : ((x.nextFetch group window p).page table).length < x.limit :=
      (List.length_take_le' _ _).trans_lt hshort
    simp only [hpage, if_true] at hout
    exact .inl ⟨congrArg (·.1.sent) hout, congrArg Prod.snd hout⟩
  · have hout : x.readPages (pure true) group window (budget + 1) p w = _ :=
      readPages_of_safeRows_error hlt hfetch hsafe
    exact .inr (.inl
      ⟨_, congrArg (·.1.result) hout, congrArg (·.1.sent) hout, congrArg Prod.snd hout⟩)
  · have hout : x.readPages (pure true) group window (budget + 1) p w = _ :=
      readPages_of_page hlt hfetch hsafe (send_open _ _)
    have hpage : ¬((x.nextFetch group window p).page table).length < x.limit := by
      have : ((x.nextFetch group window p).page table).length = x.limit :=
        List.length_take_of_le hfull
      omega
    simp only [hpage, if_false] at hout
    have hmem : last ∈ rows := List.mem_of_mem_filter (hall ▸ List.mem_of_getLast? hl)
    obtain ⟨r, hr, hlater⟩ := exists_later (hall ▸ hlen.trans_le hfull)
    refine .inr (.inr ⟨p.extend safe, time last, (Window.mem_rows.mp hmem).2.1.le,
      hlater.trans_le (Window.mem_rows.mp hr).2.2, ?_, congrArg (·.1.result) hout, ?_,
      (congrArg Prod.snd hout :)⟩)
    · simp [Progress.cursor, Progress.extend, hl]
    · rw [show rows.filter (fun r => time r ≤ time last) = safe from hall.symm]
      exact congrArg (·.1.sent) hout

/-- **Reading while the table grows.** Each page moves the cursor, and the snapshots that follow
agree on what lies before it. -/
theorem readPages_reads (hR : Alike R) (asc : ∀ k, Ascending (T k))
    (hx : x.source = .ofSnapshots name T fails) {budget : Nat} {p : Progress}
    {made : List Fetch} :
    let out := x.readPages (pure true) group window budget p made
    ∃ fetches, out.2 = made ++ fetches ∧ Reads R T made.length (p.cursor window.since) window.upTo
      fetches out.1.result out.1.sent := by
  by_cases hlt : p.cursor window.since < window.upTo
  swap
  · rw [readPages_of_not_lt hlt]
    exact ⟨[], (List.append_nil _).symm, .idle hR hlt⟩
  induction budget generalizing p made with
  | zero =>
    rw [readPages_zero hlt]
    exact ⟨[], (List.append_nil _).symm, .failed fun _ hg => absurd hg List.not_mem_nil⟩
  | succ budget ih =>
    have hfirst : ∀ g ∈ [x.nextFetch group window p], p.cursor window.since ≤ g.window.since := by
      intro g hg
      rw [List.mem_singleton.mp hg]
      exact le_rfl
    rcases fetch_ofSnapshots hx (x.nextFetch group window p) made with ⟨fault, hfetch⟩ | hfetch
    · rw [readPages_of_fault hlt hfetch]
      exact ⟨_, rfl, .failed hfirst⟩
    rcases readPages_page_cases budget (asc made.length) hlt hfetch with
      ⟨hsent, hworld⟩ | ⟨fault, hresult, hsent, hworld⟩ |
      ⟨p', t, hle, hupTo, hcursor, hresult, hsent, hworld⟩
    · simp only [hsent]
      exact ⟨_, hworld, .last hR (asc _) le_rfl⟩
    · simp only [hresult, hsent]
      exact ⟨_, hworld, .failed hfirst⟩
    · obtain ⟨fetches, hrest, hreads⟩ :=
        @ih p' (made ++ [x.nextFetch group window p]) (by rwa [hcursor])
      rw [hcursor, List.length_append, List.length_singleton] at hreads
      simp only [hresult, hsent]
      refine ⟨x.nextFetch group window p :: fetches, ?_, .page hR asc hle hupTo le_rfl hreads⟩
      rw [hworld, hrest, List.append_assoc]
      rfl

end Reading

end Extraction

/-- **A table that grows while it is read is read completely.** If between two fetches it only gets
rows later than the cursor of the second one, an extraction that succeeds has sent the rows that the
last snapshot has in the window, each once and in order of time; and in the very order of that
snapshot, if rows keep their order from one snapshot to the next. -/
theorem run_ofSnapshots (name : String) (snapshots : Nat → List ρ)
    (asc : ∀ k, Ascending (snapshots k)) (fails : List Fetch → Option Fault) (pageSize : Nat)
    (group : String) (window : Window) :
    let x : Extraction (List Fetch) ρ := ⟨.ofSnapshots name snapshots fails, pageSize⟩
    let out := x.run (pure true) group window []
    let rows := window.rows (snapshots (out.2.length - 1))
    (∀ k f, out.2[k + 1]? = some f →
      GrownAfter f.window.since (snapshots k) (snapshots (k + 1))) →
    (∃ p, out.1.result = .ok p) →
      out.1.sent.Perm rows ∧ Ascending out.1.sent ∧
        ((∀ k, k + 1 < out.2.length → (snapshots k).Sublist (snapshots (k + 1))) →
          out.1.sent = rows) := by
  intro x out rows hgrown hok
  obtain ⟨hresult, hsent, hworld⟩ := Extraction.run_eq_readPages x (pure true) group window []
  have hreads : ∀ R, Alike R → Extraction.Reads R snapshots 0 window.since window.upTo out.2
      out.1.result out.1.sent := by
    intro R hR
    obtain ⟨fetches, hfetches, hreads⟩ := Extraction.readPages_reads (x := x) (p := {}) hR asc rfl
    rw [← hresult, ← hsent] at hreads
    obtain rfl : out.2 = fetches := hworld.trans hfetches
    exact hreads
  have hperm := (hreads _ alike_perm).sends
    (fun k f hf => by simpa using (hgrown k f hf).agreeUpTo_perm) hok
  rw [Nat.zero_add] at hperm
  refine ⟨hperm, (hreads _ alike_perm).ascending, ?_⟩
  intro hsub
  have heq := (hreads _ alike_eq).sends (fun k f hf => by
    obtain ⟨hlen, -⟩ := List.getElem?_eq_some_iff.mp hf
    simpa using (hgrown k f hf).agreeUpTo_eq (hsub k hlen)) hok
  rwa [Nat.zero_add] at heq

/-- A table that gets a second row at the timestamp that the first page withheld, and one before
it. -/
def growing : Nat → List Row
  | 0 => [⟨.atSecond 1, ∅⟩, ⟨.atSecond 2, ∅⟩, ⟨.atSecond 4, ∅⟩]
  | _ => [⟨.atSecond 1, ∅⟩, ⟨.atSecond 2, ∅⟩, ⟨.atSecond 3, ∅⟩, ⟨.atSecond 4, ∅⟩, ⟨.atSecond 4, ∅⟩]

theorem growing_grownAfter : GrownAfter (.atSecond 2) (growing 0) (growing 1) :=
  ⟨[⟨.atSecond 3, ∅⟩, ⟨.atSecond 4, ∅⟩], .cons _ (.cons _ (.swap _ _ _)), by decide⟩

theorem run_ofSnapshots_growing :
    let x : Extraction (List Fetch) Row := ⟨.ofSnapshots "events" growing fun _ => none, 3⟩
    let out := x.run (pure true) "g" ⟨.epoch, .atSecond 9⟩ []
    out.2.map (·.window.since) = [.epoch, .atSecond 2, .atSecond 3] ∧ out.1.sent = growing 2 := by
  intro x out
  have hfetches : out.2.map (·.window.since) = [.epoch, .atSecond 2, .atSecond 3] := by decide
  have asc : ∀ k, Ascending (growing k)
    | 0 => by decide
    | k + 1 => (by decide : Ascending (growing 1))
  have hgrown : ∀ k f, out.2[k + 1]? = some f →
      GrownAfter f.window.since (growing k) (growing (k + 1)) := by
    intro k f hf
    cases k with
    | zero =>
      have hsince : (out.2.map (·.window.since))[1]? = some f.window.since := by
        rw [List.getElem?_map, hf]
        rfl
      rw [hfetches] at hsince
      rw [← Option.some.inj hsince]
      exact growing_grownAfter
    | succ k => exact ⟨[], by simp [growing], by simp⟩
  have h := run_ofSnapshots "events" growing asc (fun _ => none) 3 "g" ⟨.epoch, .atSecond 9⟩ hgrown
    ⟨_, rfl⟩
  have hwindow : Window.rows ⟨.epoch, .atSecond 9⟩ (growing 2) = growing 2 :=
    List.filter_eq_self.mpr (by decide)
  refine ⟨hfetches, (h.2.2 ?_).trans hwindow⟩
  intro k hk
  cases k with
  | zero => exact .cons_cons _ (.cons_cons _ (.cons _ (.cons_cons _ (.cons _ .slnil))))
  | succ k => exact List.Sublist.refl _

end Ingest
