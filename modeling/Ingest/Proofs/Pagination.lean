import Ingest.Extraction
import Ingest.Proofs.TimeOrder

/-!
# Proofs/Pagination — pages that never cut a timestamp

A *timestamp group* is the run of rows with one timestamp. While a source answers from a table, each
page moves the cursor to the end of a group, so what was sent and what is left are always the two
halves of the window at the cursor. Main statement: `run_ofTable` — reading a table sends the whole
window exactly if every group is smaller than a page, and otherwise stops before the first that is
not.
-/

namespace Ingest

/-- The rows with one timestamp. -/
def groupAt {ρ : Type} [Timed ρ] (rows : List ρ) (t : Instant) : List ρ :=
  rows.filter fun r => time r = t

/-- Rows of one timestamp are found in both parts. -/
theorem groupAt_append {ρ : Type} [Timed ρ] (l₁ l₂ : List ρ) (t : Instant) :
    groupAt (l₁ ++ l₂) t = groupAt l₁ t ++ groupAt l₂ t := List.filter_append _ _

theorem groupAt_eq_nil {ρ : Type} [Timed ρ] {rows : List ρ} {t : Instant}
    (h : ∀ r ∈ rows, time r ≠ t) : groupAt rows t = [] :=
  List.filter_eq_nil_iff.mpr fun r hr => by simpa using h r hr

/-- While `I` holds of the world, fetches up to an instant answer with the page of a table, or they
fail and leave `E`. -/
structure PageSource.Serves {ω ρ : Type} [Timed ρ] (source : PageSource ω ρ) (table : List ρ)
    (upTo : Instant) (I : ω → Prop) (E : Fetch → Fault → ω → Prop) : Prop where
  answer : ∀ {f w rows w'}, f.window.upTo = upTo → I w → source.fetch f w = (.ok rows, w') →
    I w' ∧ rows = f.page table
  refusal : ∀ {f w fault w'}, f.window.upTo = upTo → I w → source.fetch f w = (.error fault, w') →
    E f fault w'

namespace Extraction

variable {ω ρ : Type} [Timed ρ]

omit [Timed ρ] in
theorem limit_pos (x : Extraction ω ρ) : 0 < x.limit :=
  Nat.lt_of_lt_of_le Nat.one_pos (le_max_right _ _)

/-! ## One step of the loop -/

section Step

variable {x : Extraction ω ρ} {receiving : StateM ω Bool} {group : String} {window : Window}
  {budget : Nat} {p : Progress} {w w' : ω}

/-- The request for the page after some progress. -/
def nextFetch (x : Extraction ω ρ) (group : String) (window : Window) (p : Progress) : Fetch :=
  ⟨group, ⟨p.cursor window.since, window.upTo⟩, x.limit⟩

/-- At the end of the window nothing is fetched. -/
theorem readPages_of_not_lt (h : ¬p.cursor window.since < window.upTo) :
    x.readPages receiving group window budget p w = (⟨.ok p, [], []⟩, w) := by
  rw [readPages.eq_def]
  simp [h]
  rfl

/-- Without a number for the page the extraction panics. -/
theorem readPages_zero (h : p.cursor window.since < window.upTo) :
    x.readPages receiving group window 0 p w
      = (⟨.error (.panic (.text "attempt to add with overflow")), [], []⟩, w) := by
  rw [readPages]
  simp only [h, decide_true, Bool.not_true, Bool.false_eq_true, if_false]
  rfl

/-- A fetch that fails ends the extraction. -/
theorem readPages_of_fault (h : p.cursor window.since < window.upTo) {fault : Fault}
    (hf : x.source.fetch (x.nextFetch group window p) w = (.error fault, w')) :
    x.readPages receiving group window (budget + 1) p w = (⟨.error fault, [], []⟩, w') := by
  rw [readPages]
  simp only [h, decide_true, Bool.not_true, Bool.false_eq_true, if_false]
  rw [nextFetch] at hf
  simp only [bind, StateT.bind, hf]
  rfl

/-- A page that cannot be cut ends the extraction. -/
theorem readPages_of_safeRows_error (h : p.cursor window.since < window.upTo) {rows : List ρ}
    {e : Error}
    (hf : x.source.fetch (x.nextFetch group window p) w = (.ok rows, w'))
    (hs : safeRows x.limit (p.pages + 1) p.lastAt rows = .error e) :
    x.readPages receiving group window (budget + 1) p w = (⟨.error (.error e), [], []⟩, w') := by
  rw [readPages]
  simp only [h, decide_true, Bool.not_true, Bool.false_eq_true, if_false]
  rw [nextFetch] at hf
  simp only [bind, StateT.bind, hf, hs]
  rfl

/-- A page whose rows are all sent is the last one if it is short. -/
theorem readPages_of_page (h : p.cursor window.since < window.upTo) {rows safe : List ρ}
    (hf : x.source.fetch (x.nextFetch group window p) w = (.ok rows, w'))
    (hs : safeRows x.limit (p.pages + 1) p.lastAt rows = .ok safe) {w'' : ω}
    (hsend : send receiving safe w' = ((safe, true), w'')) :
    x.readPages receiving group window (budget + 1) p w =
      let p' := p.extend safe
      let event := .page ⟨p'.pages, rows.length, safe.length, p'.cursor window.since⟩
      if rows.length < x.limit then (⟨.ok p', safe, [event]⟩, w'')
      else
        let rest := x.readPages receiving group window budget p' w''
        (⟨rest.1.result, safe ++ rest.1.sent, event :: rest.1.events⟩, rest.2) := by
  rw [readPages]
  simp only [h, decide_true, Bool.not_true, Bool.false_eq_true, if_false]
  rw [nextFetch] at hf
  simp only [bind, StateT.bind, hf, hs, hsend]
  by_cases hlen : rows.length < x.limit
  · simp only [hlen, if_true]
    rfl
  · simp only [hlen, if_false]
    rfl

/-- A page of which not all rows are sent is the last one. -/
theorem readPages_of_closed (h : p.cursor window.since < window.upTo) {rows safe sent : List ρ}
    (hf : x.source.fetch (x.nextFetch group window p) w = (.ok rows, w'))
    (hs : safeRows x.limit (p.pages + 1) p.lastAt rows = .ok safe) {w'' : ω}
    (hsend : send receiving safe w' = ((sent, false), w'')) :
    x.readPages receiving group window (budget + 1) p w =
      (⟨.ok { p.extend sent with receiversClosed := true }, sent, []⟩, w'') := by
  rw [readPages]
  simp only [h, decide_true, Bool.not_true, Bool.false_eq_true, if_false]
  rw [nextFetch] at hf
  simp only [bind, StateT.bind, hf, hs, hsend]
  rfl

end Step

omit [Timed ρ] in
theorem send_open (rows : List ρ) (w : ω) : send (pure true) rows w = ((rows, true), w) := by
  suffices h : send (pure true : StateM ω Bool) rows = pure (rows, true) by rw [h]; rfl
  induction rows with
  | nil => rfl
  | cons r rest ih => simp [send, ih]

/-! ## One page of a table -/

section Page

variable {limit page : Nat} {lastAt : Option Instant} {rows : List ρ}

/-- In ascending rows there is no descent. -/
theorem firstDescent?_eq_none (asc : Ascending rows)
    (hl : ∀ t ∈ lastAt, ∀ r ∈ rows, t ≤ time r) : firstDescent? lastAt rows = none := by
  induction rows generalizing lastAt with
  | nil => cases lastAt <;> rfl
  | cons r rest ih =>
    obtain ⟨hr, hrest⟩ := List.pairwise_cons.mp asc
    have hnext : firstDescent? (some (time r)) rest = none :=
      ih hrest fun t ht s hs => by
        obtain rfl := Option.mem_some.mp ht
        exact hr s hs
    cases lastAt with
    | none => exact hnext
    | some t =>
      have htr : ¬time r < t := not_lt.mpr (hl t rfl r List.mem_cons_self)
      rw [firstDescent?, if_neg htr, hnext]

/-- The rows of a full page that may be sent are those of the table before the page's last
timestamp, since no row beyond the page is earlier than that. -/
theorem beforeLast_take (asc : Ascending rows) {last : ρ}
    (hlast : (rows.take limit).getLast? = some last) :
    beforeLast (rows.take limit) = rows.filter fun r => time r < time last := by
  have hbeyond : (rows.drop limit).filter (fun r => time r < time last) = [] := by
    rw [List.filter_eq_nil_iff]
    intro r hr
    have hsplit : Ascending (rows.take limit ++ rows.drop limit) := by
      rwa [List.take_append_drop]
    have hle := (List.pairwise_append.mp hsplit).2.2 last (List.mem_of_getLast? hlast) r hr
    simpa using hle
  have htake := (asc.sublist (List.take_sublist limit rows)).takeWhile_lt (time last)
  conv_rhs => rw [← List.take_append_drop limit rows, List.filter_append, hbeyond, List.append_nil]
  rw [beforeLast, hlast, ← htake]

omit [Timed ρ] in
/-- A full page has a last row. -/
theorem getLast?_take (hlimit : 0 < limit) (hle : limit ≤ rows.length) :
    ∃ last, (rows.take limit).getLast? = some last := by
  rw [← Option.ne_none_iff_exists', ne_eq, List.getLast?_eq_none_iff]
  intro hnil
  have hlen : (rows.take limit).length = limit := List.length_take_of_le hle
  rw [hnil] at hlen
  exact hlimit.ne hlen

/-- The last row of a page is held back. -/
theorem length_beforeLast_lt {got : List ρ} {last : ρ} (hlast : got.getLast? = some last) :
    (beforeLast got).length < got.length := by
  have hsub : (beforeLast got).Sublist got := by
    rw [beforeLast, hlast]
    exact List.takeWhile_sublist _
  refine lt_of_le_of_ne hsub.length_le fun hlen => ?_
  have hmem : last ∈ beforeLast got := by
    rw [hsub.eq_of_length hlen]
    exact List.mem_of_getLast? hlast
  rw [beforeLast, hlast] at hmem
  simpa using List.all_eq_true.mp List.all_takeWhile last hmem

/-- If no row is earlier than the last one of a full page, then the page is in one group. -/
theorem le_length_groupAt (asc : Ascending rows) (hle : limit ≤ rows.length) {last : ρ}
    (hlast : (rows.take limit).getLast? = some last) (hmin : ∀ s ∈ rows, time last ≤ time s) :
    limit ≤ (groupAt rows (time last)).length := by
  have hpage : (rows.take limit).filter (fun r => time r = time last) = rows.take limit := by
    refine List.filter_eq_self.mpr fun r hr => ?_
    have hup := (asc.sublist (List.take_sublist limit rows)).le_getLast hlast hr
    simpa using le_antisymm hup (hmin r (List.mem_of_mem_take hr))
  calc limit = ((rows.take limit).filter fun r => time r = time last).length := by
        rw [hpage, List.length_take_of_le hle]
    _ ≤ (groupAt rows (time last)).length :=
        ((List.take_sublist limit rows).filter _).length_le

/-- A full page is cut before its last timestamp. -/
theorem safeRows_of_le (page : Nat) {got : List ρ} (hd : firstDescent? lastAt got = none)
    (hlen : limit ≤ got.length) :
    safeRows limit page lastAt got =
      if (beforeLast got).isEmpty then .error (.pageBoundary limit page)
      else .ok (beforeLast got) := by
  rw [safeRows, hd]
  simp only [not_lt.mpr hlen, if_false]
  cases beforeLast got with
  | nil => rfl
  | cons r rs => rfl

/-- **What may be sent of a page of a table**: all of a short page; nothing if the first group
fills the page; else the groups before the last one, which are fewer rows than the page holds. -/
theorem safeRows_cases (page : Nat) (hlimit : 0 < limit) (asc : Ascending rows)
    (hl : ∀ t ∈ lastAt, ∀ r ∈ rows, t ≤ time r) :
    (rows.length < limit ∧ safeRows limit page lastAt (rows.take limit) = .ok rows)
    ∨ (∃ r ∈ rows, limit ≤ (groupAt rows (time r)).length ∧ (∀ s ∈ rows, time r ≤ time s) ∧
        safeRows limit page lastAt (rows.take limit) = .error (.pageBoundary limit page))
    ∨ ∃ safe last, safe.getLast? = some last ∧ safe = rows.filter (fun r => time r ≤ time last) ∧
        safe.length < limit ∧ limit ≤ rows.length ∧
        safeRows limit page lastAt (rows.take limit) = .ok safe := by
  have hd : firstDescent? lastAt (rows.take limit) = none :=
    firstDescent?_eq_none (asc.sublist (List.take_sublist _ _)) fun t ht r hr =>
      hl t ht r (List.mem_of_mem_take hr)
  by_cases hlen : rows.length < limit
  · refine .inl ⟨hlen, ?_⟩
    rw [safeRows, hd]
    simp [List.take_of_length_le hlen.le, hlen]
  have hle : limit ≤ rows.length := not_lt.mp hlen
  have hfull : (rows.take limit).length = limit := List.length_take_of_le hle
  obtain ⟨last, hlast⟩ := getLast?_take hlimit hle
  have hshorter := length_beforeLast_lt hlast
  have hsafe := safeRows_of_le page hd hfull.ge
  rw [beforeLast_take asc hlast] at hshorter hsafe
  rcases hcase : (rows.filter fun r => time r < time last).getLast? with _ | top
  · -- every row of the page has the page's last timestamp
    rw [List.getLast?_eq_none_iff] at hcase
    have hmin : ∀ s ∈ rows, time last ≤ time s := fun s hs => by
      simpa using List.filter_eq_nil_iff.mp hcase s hs
    have hmem : last ∈ rows := List.mem_of_mem_take (List.mem_of_getLast? hlast)
    refine .inr (.inl ⟨last, hmem, le_length_groupAt asc hle hlast hmin, hmin, ?_⟩)
    rw [hsafe, hcase]
    rfl
  · have hne : rows.filter (fun r => time r < time last) ≠ [] := by
      intro hnil
      rw [hnil] at hcase
      exact absurd hcase (Option.some_ne_none top).symm
    refine .inr (.inr ⟨rows.filter fun r => time r < time last, top, hcase,
      asc.filter_lt_eq_filter_le hcase, hfull ▸ hshorter, hle, ?_⟩)
    rw [hsafe, List.isEmpty_eq_false_iff.mpr hne]
    rfl

end Page

/-! ## The whole window -/

/-- How reading ends when `rows` are left after the cursor, and what it sends. `alive` holds if no
fetch failed, and `refused c fault` if the fetch at the cursor `c` failed. -/
inductive Delivers (limit : Nat) (alive : Prop) (refused : Instant → Fault → Prop) (budget : Nat)
    (cursor : Instant) (rows : List ρ) : Attempt Progress → List ρ → Prop where
  /-- Every group is smaller than a page. -/
  | complete (p : Progress) (h : alive)
      (sparse : ∀ r ∈ rows, (groupAt rows (time r)).length < limit) :
      Delivers limit alive refused budget cursor rows (.ok p) rows
  /-- The group of `r` is the first that fills a page. -/
  | crowded (r : ρ) (page : Nat) (h : alive) (mem : r ∈ rows)
      (crowd : limit ≤ (groupAt rows (time r)).length)
      (first : ∀ s ∈ rows, time s < time r → (groupAt rows (time s)).length < limit) :
      Delivers limit alive refused budget cursor rows
        (.error (.error (.pageBoundary limit page))) (rows.filter fun s => time s < time r)
  /-- The source failed. -/
  | refused (c : Instant) (fault : Fault) (h : refused c fault) (hc : cursor ≤ c) :
      Delivers limit alive refused budget cursor rows (.error fault)
        (rows.filter fun s => time s ≤ c)
  /-- There are more pages than can be counted. -/
  | exhausted (c : Instant) (h : alive) (hc : cursor ≤ c) (many : budget < rows.length) :
      Delivers limit alive refused budget cursor rows
        (.error (.panic (.text "attempt to add with overflow"))) (rows.filter fun s => time s ≤ c)

namespace Delivers

variable {limit budget : Nat} {alive : Prop} {refused : Instant → Fault → Prop}
  {cursor : Instant} {rows : List ρ} {result : Attempt Progress} {sent : List ρ}

/-- **A page in front.** Groups before the cursor `t` were sent with less than a page of rows. -/
theorem prepend {safe rest : List ρ} {t : Instant} (hsafe : ∀ r ∈ safe, time r ≤ t)
    (hrest : ∀ r ∈ rest, t < time r) (hpos : 0 < safe.length) (hlen : safe.length < limit)
    (hc : cursor ≤ t) (h : Delivers limit alive refused budget t rest result sent) :
    Delivers limit alive refused (budget + 1) cursor (safe ++ rest) result (safe ++ sent) := by
  have hsmall : ∀ s ∈ safe, (groupAt (safe ++ rest) (time s)).length < limit := fun s hs => by
    rw [groupAt_append, groupAt_eq_nil fun r hr => ((hsafe s hs).trans_lt (hrest r hr)).ne',
      List.append_nil]
    exact lt_of_le_of_lt List.filter_sublist.length_le hlen
  have hlater : ∀ s ∈ rest, groupAt (safe ++ rest) (time s) = groupAt rest (time s) :=
    fun s hs => by
      rw [groupAt_append, groupAt_eq_nil fun r hr => ((hsafe r hr).trans_lt (hrest s hs)).ne,
        List.nil_append]
  have hupTo : ∀ c, t ≤ c →
      safe ++ rest.filter (fun s => time s ≤ c) = (safe ++ rest).filter fun s => time s ≤ c :=
    fun c htc => by
      rw [List.filter_append, (List.filter_eq_self (l := safe)).mpr fun s hs => by
        simpa using (hsafe s hs).trans htc]
  cases h with
  | complete p h sparse =>
    refine .complete p h fun r hr => ?_
    rcases List.mem_append.mp hr with hr | hr
    · exact hsmall r hr
    · rw [hlater r hr]
      exact sparse r hr
  | crowded r page h mem crowd first =>
    have hbefore : safe ++ rest.filter (fun s => time s < time r)
        = (safe ++ rest).filter fun s => time s < time r := by
      rw [List.filter_append, (List.filter_eq_self (l := safe)).mpr fun s hs => by
        simpa using (hsafe s hs).trans_lt (hrest r mem)]
    rw [hbefore]
    refine .crowded r page h (List.mem_append_right _ mem) (by rwa [hlater r mem]) ?_
    intro s hs hsr
    rcases List.mem_append.mp hs with hs | hs
    · exact hsmall s hs
    · rw [hlater s hs]
      exact first s hs hsr
  | refused c fault h hc' =>
    rw [hupTo c hc']
    exact .refused c fault h (hc.trans hc')
  | exhausted c h hc' many =>
    rw [hupTo c hc']
    refine .exhausted c h (hc.trans hc') ?_
    rw [List.length_append]
    omega

/-- Up to the timestamp of a row that was sent, everything was sent. -/
theorem filter_le (h : Delivers limit alive refused budget cursor rows result sent) {s : ρ}
    (hs : s ∈ sent) {t : Instant} (ht : t ≤ time s) :
    sent.filter (fun r => time r ≤ t) = rows.filter fun r => time r ≤ t := by
  have hdown : ∀ q : ρ → Bool, s ∈ rows.filter q → (∀ a b, time a ≤ time b → q b → q a) →
      (rows.filter q).filter (fun r => time r ≤ t) = rows.filter fun r => time r ≤ t := by
    intro q hq down
    rw [List.filter_filter]
    refine List.filter_congr fun r _ => ?_
    by_cases hr : time r ≤ t
    · simp [hr, down r s (hr.trans ht) (List.mem_filter.mp hq).2]
    · simp [hr]
  cases h with
  | complete p h sparse => rfl
  | crowded r page h mem crowd first =>
    exact hdown _ hs fun a b hab hb => by simpa using hab.trans_lt (by simpa using hb)
  | refused c fault h hc =>
    exact hdown _ hs fun a b hab hb => by simpa using hab.trans (by simpa using hb)
  | exhausted c h hc many =>
    exact hdown _ hs fun a b hab hb => by simpa using hab.trans (by simpa using hb)

/-- What holds whether or not a fetch fails holds in the end. -/
theorem survives (h : Delivers limit alive (fun _ _ => alive) budget cursor rows result sent) :
    alive := by
  cases h <;> assumption

theorem sublist (h : Delivers limit alive refused budget cursor rows result sent) :
    sent.Sublist rows := by
  cases h with
  | complete p h sparse => exact List.Sublist.refl _
  | crowded r page h mem crowd first => exact List.filter_sublist
  | refused c fault h hc => exact List.filter_sublist
  | exhausted c h hc many => exact List.filter_sublist

end Delivers

variable {x : Extraction ω ρ} {group : String} {window : Window} {table : List ρ} {I : ω → Prop}
  {E : Fetch → Fault → ω → Prop}

/-- **Reading a table.** The cursor separates what was sent from the rows that are left; a full page
sends the groups before its last one and so leaves at least one row. -/
theorem readPages_delivers (serves : x.source.Serves table window.upTo I E)
    (asc : Ascending table) {budget : Nat} {p : Progress} {w : ω} (hw : I w)
    (hb : 0 < budget + (Window.rows ⟨p.cursor window.since, window.upTo⟩ table).length) :
    let out := x.readPages (pure true) group window budget p w
    Delivers x.limit (I out.2) (fun c fault => E ⟨group, ⟨c, window.upTo⟩, x.limit⟩ fault out.2)
      budget (p.cursor window.since) (Window.rows ⟨p.cursor window.since, window.upTo⟩ table)
      out.1.result out.1.sent := by
  induction budget generalizing p w with
  | zero =>
    by_cases hlt : p.cursor window.since < window.upTo
    · rw [readPages_zero hlt, ← Window.rows_filter_le_since]
      exact .exhausted _ hw le_rfl (by simpa using hb)
    · rw [readPages_of_not_lt hlt, Window.rows_eq_nil hlt]
      exact .complete p hw (by simp)
  | succ budget ih =>
    by_cases hlt : p.cursor window.since < window.upTo
    swap
    · rw [readPages_of_not_lt hlt, Window.rows_eq_nil hlt]
      exact .complete p hw (by simp)
    rcases hfetch : x.source.fetch (x.nextFetch group window p) w with ⟨fault | got, w'⟩
    · rw [readPages_of_fault hlt hfetch, ← Window.rows_filter_le_since]
      exact .refused _ _ (serves.refusal rfl hw hfetch) le_rfl
    obtain ⟨hw', rfl⟩ := serves.answer rfl hw hfetch
    have hlast : ∀ t ∈ p.lastAt, ∀ r ∈ Window.rows ⟨p.cursor window.since, window.upTo⟩ table,
        t ≤ time r := fun t ht r hr => by
      have hcursor : p.cursor window.since = t := by rw [Progress.cursor, ht, Option.getD_some]
      exact hcursor ▸ (Window.mem_rows.mp hr).2.1.le
    have hrows : Ascending (Window.rows ⟨p.cursor window.since, window.upTo⟩ table) :=
      asc.filter _
    rcases safeRows_cases (p.pages + 1) x.limit_pos hrows hlast with
      ⟨hshort, hsafe⟩ | ⟨r, hr, hcrowd, hmin, hsafe⟩ | ⟨safe, last, hl, hall, hlen, hfull, hsafe⟩
    · -- a short page is the rest of the window
      rw [readPages_of_page hlt hfetch hsafe (send_open _ _)]
      have hpage : ((x.nextFetch group window p).page table).length < x.limit :=
        (List.length_take_le' _ _).trans_lt hshort
      simp only [hpage, if_true]
      exact .complete _ hw' fun r _ => lt_of_le_of_lt List.filter_sublist.length_le hshort
    · rw [readPages_of_safeRows_error hlt hfetch hsafe]
      have hnone : (Window.rows ⟨p.cursor window.since, window.upTo⟩ table).filter
          (fun s => time s < time r) = [] :=
        List.filter_eq_nil_iff.mpr fun s hs => by simpa using hmin s hs
      rw [← hnone]
      exact .crowded r _ hw' hr hcrowd fun s hs hsr => absurd hsr (not_lt.mpr (hmin s hs))
    · -- a full page moves the cursor to the last row before its last group
      rw [readPages_of_page hlt hfetch hsafe (send_open _ _)]
      have hpage : ¬((x.nextFetch group window p).page table).length < x.limit := by
        have : ((x.nextFetch group window p).page table).length = x.limit :=
          List.length_take_of_le hfull
        omega
      have hcursor : (p.extend safe).cursor window.since = time last := by
        simp [Progress.cursor, Progress.extend, hl]
      have hmem : last ∈ Window.rows ⟨p.cursor window.since, window.upTo⟩ table :=
        List.mem_of_mem_filter (hall ▸ List.mem_of_getLast? hl)
      have hle : p.cursor window.since ≤ time last := (Window.mem_rows.mp hmem).2.1.le
      have hsplit : Window.rows ⟨p.cursor window.since, window.upTo⟩ table
          = safe ++ Window.rows ⟨time last, window.upTo⟩ table := by
        rw [hall]
        exact (Window.filter_le_append_rows asc hle).symm
      have hcount := congrArg List.length hsplit
      rw [List.length_append] at hcount
      have hrest := ih (p := p.extend safe) hw' (by rw [hcursor]; omega)
      rw [hcursor] at hrest
      simp only [hpage, if_false]
      rw [hsplit]
      refine hrest.prepend (fun s hs => ?_) (fun s hs => (Window.mem_rows.mp hs).2.1)
        (List.length_pos_of_mem (List.mem_of_getLast? hl)) hlen hle
      rw [hall] at hs
      simpa using (List.mem_filter.mp hs).2

section Run

variable (x : Extraction ω ρ) (receiving : StateM ω Bool) (group : String) (window : Window) (w : ω)

/-- Reading a window tells its observers about an error, and does nothing else beside reading. -/
theorem run_eq_readPages :
    let read := x.readPages receiving group window maxPages {} w
    let out := x.run receiving group window w
    out.1.result = read.1.result ∧ out.1.sent = read.1.sent ∧ out.2 = read.2 := by
  rw [Extraction.run]
  rcases hread : x.readPages receiving group window maxPages {} w with ⟨⟨result, sent, events⟩, w'⟩
  simp only [bind, StateT.bind, hread]
  rcases result with (e | p) | p <;> exact ⟨rfl, rfl, rfl⟩

end Run

section Keeps

variable {x : Extraction ω ρ} {J : ω → Prop} (hfetch : ∀ f w, J w → J (x.source.fetch f w).2)
  (group : String) (window : Window)

include hfetch in
/-- With its receivers open, reading does nothing to the world beside fetching. -/
theorem readPages_keeps {budget : Nat} {p : Progress} {w : ω} (hw : J w) :
    J (x.readPages (pure true) group window budget p w).2 := by
  induction budget generalizing p w with
  | zero =>
    by_cases hlt : p.cursor window.since < window.upTo
    · rwa [readPages_zero hlt]
    · rwa [readPages_of_not_lt hlt]
  | succ budget ih =>
    by_cases hlt : p.cursor window.since < window.upTo
    swap
    · rwa [readPages_of_not_lt hlt]
    have hnext := hfetch (x.nextFetch group window p) w hw
    rcases hf : x.source.fetch (x.nextFetch group window p) w with ⟨fault | got, w'⟩ <;>
      rw [hf] at hnext
    · rwa [readPages_of_fault hlt hf]
    rcases hs : safeRows x.limit (p.pages + 1) p.lastAt got with e | safe
    · rwa [readPages_of_safeRows_error hlt hf hs]
    rw [readPages_of_page hlt hf hs (send_open _ _)]
    by_cases hlen : got.length < x.limit
    · rwa [if_pos hlen]
    · rw [if_neg hlen]
      exact ih hnext

include hfetch in
/-- What every fetch keeps, the extraction keeps. -/
theorem run_keeps {w : ω} (hw : J w) : J (x.run (pure true) group window w).2 := by
  rw [(run_eq_readPages x (pure true) group window w).2.2]
  exact readPages_keeps hfetch group window hw

end Keeps

/-- **Reading the window of a table.** -/
theorem run_delivers (x : Extraction ω ρ) (group : String) (window : Window)
    (serves : x.source.Serves table window.upTo I E) (asc : Ascending table)
    {w : ω} (hw : I w) :
    let out := x.run (pure true) group window w
    Delivers x.limit (I out.2) (fun c fault => E ⟨group, ⟨c, window.upTo⟩, x.limit⟩ fault out.2)
      maxPages window.since (window.rows table) out.1.result out.1.sent := by
  have hbudget :
      0 < maxPages + (Window.rows ⟨Progress.cursor {} window.since, window.upTo⟩ table).length :=
    Nat.lt_of_lt_of_le (by decide) (Nat.le_add_right _ _)
  obtain ⟨hresult, hsent, hworld⟩ := run_eq_readPages x (pure true) group window w
  simp only [hresult, hsent, hworld]
  exact readPages_delivers serves asc hw hbudget

end Extraction

/-! ## A source with one table -/

/-- A source that answers from a table unless `fails` says otherwise. The world is the list of
fetches so far, on which `fails` may depend. -/
def PageSource.ofTable {ρ : Type} [Timed ρ] (name : String) (table : List ρ)
    (fails : List Fetch → Option Fault) : PageSource (List Fetch) ρ where
  name := name
  fetch f := fun made =>
    (match fails (made ++ [f]) with
      | some fault => .error fault
      | none => .ok (f.page table), made ++ [f])

/-- A table serves its rows. -/
theorem PageSource.serves_ofTable {ρ : Type} [Timed ρ] (name : String) (table : List ρ)
    (fails : List Fetch → Option Fault) (upTo : Instant) :
    (PageSource.ofTable name table fails).Serves table upTo
      (fun made => made = [] ∨ fails made = none)
      (fun f fault made => made.getLast? = some f ∧ fails made = some fault) where
  answer := by
    intro f made rows made' _ _ h
    obtain ⟨hanswer, rfl⟩ := Prod.mk.inj h
    rcases hf : fails (made ++ [f]) with _ | fault
    · exact ⟨.inr rfl, by simpa [hf] using hanswer.symm⟩
    · simp [hf] at hanswer
  refusal := by
    intro f made fault made' _ _ h
    obtain ⟨hanswer, rfl⟩ := Prod.mk.inj h
    rcases hf : fails (made ++ [f]) with _ | fault'
    · simp [hf] at hanswer
    · exact ⟨List.getLast?_concat, by simpa [hf] using hanswer⟩

/-- **A table is read without gaps and without repetition.** If no fetch fails, the extraction
succeeds exactly if every timestamp group of the window is smaller than a page, and then it sends
the window; otherwise it reports an ambiguous page boundary and has sent the window up to the first
group that fills a page. (More pages than a 32-bit counter can number take more rows than that, and
end in a panic.) If a fetch fails, the extraction ends with that fault and has sent the window up to
the cursor of that fetch. -/
theorem run_ofTable {ρ : Type} [Timed ρ] (name : String) (table : List ρ) (asc : Ascending table)
    (fails : List Fetch → Option Fault) (pageSize : Nat) (group : String) (window : Window) :
    let x : Extraction (List Fetch) ρ := ⟨.ofTable name table fails, pageSize⟩
    let rows := window.rows table
    let out := x.run (pure true) group window []
    (out.2 = [] ∨ fails out.2 = none →
      out.1.result = .error (.panic (.text "attempt to add with overflow")) ∧
          Extraction.maxPages < rows.length ∨
        ((∃ p, out.1.result = .ok p) ↔
          ∀ r ∈ rows, (groupAt rows (time r)).length < max pageSize 1) ∧
        ((∃ p, out.1.result = .ok p) → out.1.sent = rows) ∧
        ((¬∃ p, out.1.result = .ok p) → ∃ r ∈ rows, ∃ page,
          out.1.result = .error (.error (.pageBoundary (max pageSize 1) page)) ∧
          max pageSize 1 ≤ (groupAt rows (time r)).length ∧
          (∀ s ∈ rows, time s < time r → (groupAt rows (time s)).length < max pageSize 1) ∧
          out.1.sent = rows.filter fun s => time s < time r)) ∧
    ∀ fault, out.2 ≠ [] → fails out.2 = some fault →
      out.1.result = .error fault ∧ ∃ f, out.2.getLast? = some f ∧
        out.1.sent = rows.filter fun s => time s ≤ f.window.since := by
  intro x rows out
  have h := Extraction.run_delivers x group window (w := [])
    (PageSource.serves_ofTable name table fails window.upTo) asc (.inl rfl)
  change Extraction.Delivers (max pageSize 1) (out.2 = [] ∨ fails out.2 = none) _ _ _ rows
    out.1.result out.1.sent at h
  constructor
  · intro halive
    generalize out.1.result = result, out.1.sent = sent at h ⊢
    cases h with
    | complete p _ sparse =>
      exact .inr ⟨⟨fun _ => sparse, fun _ => ⟨p, rfl⟩⟩, fun _ => rfl, fun hp => absurd ⟨p, rfl⟩ hp⟩
    | crowded r page _ mem crowd first =>
      refine .inr ⟨⟨?_, ?_⟩, ?_, fun _ => ⟨r, mem, page, rfl, crowd, first, rfl⟩⟩
      · rintro ⟨p, hp⟩
        cases hp
      · exact fun sparse => absurd crowd (not_le.mpr (sparse r mem))
      · rintro ⟨p, hp⟩
        cases hp
    | refused c fault hf _ =>
      obtain ⟨hlast, hfault⟩ := hf
      rcases halive with hnil | hnone
      · exact absurd (hnil ▸ hlast) (by simp)
      · exact absurd (hnone.symm.trans hfault) (by simp)
    | exhausted c _ _ many => exact .inl ⟨rfl, many⟩
  · intro fault hne hfault
    have hdead : ¬(out.2 = [] ∨ fails out.2 = none) := by simp [hne, hfault]
    generalize out.1.result = result, out.1.sent = sent at h ⊢
    cases h with
    | complete p halive _ => exact absurd halive hdead
    | crowded r page halive _ _ _ => exact absurd halive hdead
    | refused c fault' hf _ =>
      obtain ⟨hlast, hsame⟩ := hf
      obtain rfl : fault = fault' := Option.some.inj (hfault.symm.trans hsame)
      exact ⟨rfl, _, hlast, rfl⟩
    | exhausted c halive _ _ => exact absurd halive hdead

/-- Two rows share a timestamp, and a page of three rows gets past them. -/
theorem run_ofTable_ties :
    let table : List Row := [⟨.atSecond 1, ∅⟩, ⟨.atSecond 2, ∅⟩, ⟨.atSecond 2, ∅⟩, ⟨.atSecond 3, ∅⟩]
    let x : Extraction (List Fetch) Row := ⟨.ofTable "events" table fun _ => none, 3⟩
    Ascending table ∧ (x.run (pure true) "g" ⟨.epoch, .atSecond 3⟩ []).1.sent = table := by
  refine ⟨by decide, ?_⟩
  obtain ⟨hread, -⟩ := run_ofTable "events" (ρ := Row)
    [⟨.atSecond 1, ∅⟩, ⟨.atSecond 2, ∅⟩, ⟨.atSecond 2, ∅⟩, ⟨.atSecond 3, ∅⟩] (by decide)
    (fun _ => none) 3 "g" ⟨.epoch, .atSecond 3⟩
  rcases hread (.inr rfl) with ⟨-, many⟩ | ⟨hok, hsent, -⟩
  · exact absurd many (by decide)
  · exact hsent (hok.mpr (by decide))

end Ingest
