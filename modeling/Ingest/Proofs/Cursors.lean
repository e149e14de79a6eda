import Ingest.Proofs.Watching

/-!
# Proofs/Cursors — whether the cursor of an extraction moves

Each page starts right after the last row that was sent. Nothing keeps a source from answering with
rows at that instant once more: the cursor then stays, and rows are sent a second time. So the
cursor of every page is later than the one before it, and no timestamp is sent by two pages, exactly
if each page moves beyond its own cursor and the next one starts behind it (`cursors_advance_iff`);
that is so for sources which honour the bound of the request (`cursors_advance_of_exclusive`). A
source that does not may be asked the same for ever (`run_stalls`).
-/

namespace Ingest

variable {ω ρ : Type} [Timed ρ]

namespace Visit

/-- The page moves beyond its cursor, and what the next one sends is later than its own. -/
def Advances (v v' : Visit ρ) : Prop :=
  (∃ r ∈ v.sent, v.cursor < time r) ∧ ∀ r ∈ v'.sent, v'.cursor < time r

/-- No timestamp is sent by both pages. -/
def Apart (v v' : Visit ρ) : Prop := ∀ r ∈ v.sent, ∀ s ∈ v'.sent, time r ≠ time s

/-- The first page and its successor, as far as a chain of pages can be followed. -/
structure Before (v v' : Visit ρ) : Prop where
  sent_le : ∀ r ∈ v.sent, time r ≤ v'.cursor
  cursor_le : v.cursor ≤ v'.cursor
  cursor_lt : ∀ r ∈ v'.sent, v'.cursor < time r

variable {v v' v'' : Visit ρ}

/-- The next cursor is the time of a row that was sent. -/
theorem Link.exists_last (h : v.Link v') : ∃ last ∈ v.sent, time last = v'.cursor := by
  obtain ⟨last, hlast, htime⟩ := Option.map_eq_some_iff.mp h.cursor_eq
  exact ⟨last, List.mem_of_getLast? hlast, htime⟩

/-- No row is sent that is later than the next cursor. -/
theorem Link.sent_le (h : v.Link v') : ∀ r ∈ v.sent, time r ≤ v'.cursor := by
  obtain ⟨last, hlast, htime⟩ := Option.map_eq_some_iff.mp h.cursor_eq
  exact fun r hr => htime ▸ h.ascending.le_getLast hlast hr

theorem Before.trans (h : v.Before v') (h' : v'.Before v'') : v.Before v'' :=
  ⟨fun r hr => (h.sent_le r hr).trans h'.cursor_le, h.cursor_le.trans h'.cursor_le, h'.cursor_lt⟩

instance : Trans (Before (ρ := ρ)) Before Before := ⟨Before.trans⟩

/-- Visits of which one is before the other share no timestamp. -/
theorem Before.apart (h : v.Before v') : v.Apart v' :=
  fun r hr s hs => ((h.sent_le r hr).trans_lt (h.cursor_lt s hs)).ne

end Visit

/-! ## Chains of visits -/

theorem isChain_and {α : Type} {R S : α → α → Prop} {l : List α} (hR : l.IsChain R)
    (hS : l.IsChain S) : l.IsChain fun a b => R a b ∧ S a b :=
  List.isChain_iff_getElem.mpr fun i hi =>
    ⟨List.isChain_iff_getElem.mp hR i hi, List.isChain_iff_getElem.mp hS i hi⟩

section Chains

variable {visits : List (Visit ρ)} (h : visits.IsChain Visit.Link)

include h

/-- **What it takes for the cursor to advance.** -/
theorem isChain_advances_iff :
    visits.IsChain (fun v v' => v.cursor < v'.cursor) ∧ visits.Pairwise Visit.Apart ↔
      visits.IsChain Visit.Advances := by
  constructor
  · rintro ⟨hcursor, hapart⟩
    refine (isChain_and h (isChain_and hcursor hapart.isChain)).imp ?_
    rintro v v' ⟨hlink, hlt, hapart⟩
    obtain ⟨last, hlast, htime⟩ := hlink.exists_last
    refine ⟨⟨last, hlast, htime ▸ hlt⟩, fun s hs => ?_⟩
    exact lt_of_le_of_ne (hlink.cursor_le s hs) (htime ▸ hapart last hlast s hs)
  · intro hadvances
    have hboth := isChain_and h hadvances
    have hcursor : visits.IsChain fun v v' => v.cursor < v'.cursor := by
      refine hboth.imp ?_
      rintro v v' ⟨hlink, ⟨r, hr, hlt⟩, -⟩
      exact hlt.trans_le (hlink.sent_le r hr)
    have hbefore : visits.IsChain Visit.Before := by
      refine (isChain_and hboth hcursor).imp ?_
      rintro v v' ⟨⟨hlink, -, hlater⟩, hlt⟩
      exact ⟨hlink.sent_le, hlt.le, hlater⟩
    exact ⟨hcursor, hbefore.pairwise.imp Visit.Before.apart⟩

/-- **From the second page on the cursor never goes back.** -/
theorem isChain_tail_cursor_le : visits.tail.IsChain fun v v' => v.cursor ≤ v'.cursor := by
  rw [List.isChain_iff_getElem] at h ⊢
  intro i hi
  rw [List.length_tail] at hi
  rw [List.getElem_tail, List.getElem_tail]
  obtain ⟨last, hlast, htime⟩ := (h (i + 1) (by omega)).exists_last
  exact htime ▸ (h i (by omega)).cursor_le last hlast

end Chains

/-! ## Extractions -/

namespace Extraction

/-- **When the cursor of an extraction advances**, for every source and every receiver: each fetch
starts later than the one before it, and no timestamp is sent by two pages, exactly if each page
sends a row later than its own cursor and the next one sends only such rows. Whatever the source
answers, the cursor does not go back from the second fetch on. -/
theorem cursors_advance_iff (x : Extraction ω ρ) (receiving : StateM ω Bool) (group : String)
    (window : Window) (w : ω) :
    let out := x.run receiving group window w
    let visits := x.visits receiving group window w
    x.watched.run (watchedReceiver ρ receiving) group window (w, []) = (out.1, out.2, visits) ∧
      out.1.sent = visits.flatMap Visit.sent ∧
      visits.tail.IsChain (fun v v' => v.cursor ≤ v'.cursor) ∧
      (visits.IsChain (fun v v' => v.cursor < v'.cursor) ∧ visits.Pairwise Visit.Apart ↔
        visits.IsChain Visit.Advances) := by
  intro out visits
  have hcourse := x.course_visits receiving group window w
  exact ⟨x.run_watched receiving group window w, hcourse.sent_eq,
    isChain_tail_cursor_le hcourse.links, isChain_advances_iff hcourse.links⟩

/-- **Sources that honour the bound of a request** let the cursor advance. -/
theorem cursors_advance_of_exclusive (x : Extraction ω ρ) (receiving : StateM ω Bool)
    (group : String) (window : Window) (w : ω)
    (hbound : ∀ f w rows w', x.source.fetch f w = (.ok rows, w') →
      ∀ r ∈ rows, f.window.since < time r) :
    let visits := x.visits receiving group window w
    visits.IsChain (fun v v' => v.cursor < v'.cursor) ∧ visits.Pairwise Visit.Apart := by
  intro visits
  have hcourse := x.course_visits receiving group window w
  have hlater : ∀ v ∈ visits, ∀ r ∈ v.sent, v.cursor < time r := by
    intro v hv r hr
    obtain ⟨w, w', hfetch⟩ := hcourse.answered v hv
    rw [Visit.sent] at hr
    cases hanswer : v.answer with
    | error fault => simp [hanswer, Except.toOption] at hr
    | ok rows =>
      rw [hanswer] at hfetch hr
      exact hbound v.fetch w rows w' hfetch r (List.mem_of_mem_take hr)
  refine (isChain_advances_iff hcourse.links).mpr (List.isChain_iff_getElem.mpr fun i hi => ?_)
  obtain ⟨last, hlast, -⟩ := (List.isChain_iff_getElem.mp hcourse.links i hi).exists_last
  exact ⟨⟨last, hlast, hlater _ (List.getElem_mem _) last hlast⟩, hlater _ (List.getElem_mem _)⟩

/-! ## A source that answers alike -/

section Stalls

variable {x : Extraction ω ρ} {group : String} {window : Window} {rows : List ρ} {t : Instant}
  (hanswer : ∀ f w, x.source.fetch f w = (.ok rows, w)) (hfull : x.limit ≤ rows.length)
  (hasc : Ascending rows) (hle : ∀ r ∈ rows, t ≤ time r)
  (hlast : (beforeLast rows).getLast?.map time = some t) (ht : t < window.upTo)

include hanswer hfull hasc hle hlast ht

/-- **Full pages that come back to the cursor** are asked for until they cannot be counted. -/
theorem readPages_stalls (budget : Nat) {p : Progress} (hp : p.lastAt = some t ∨ p.lastAt = none)
    (hcursor : p.cursor window.since < window.upTo) (w : ω) :
    (x.readPages (pure true) group window budget p w).1.result =
      .error (.panic (.text "attempt to add with overflow")) := by
  induction budget generalizing p with
  | zero => rw [readPages_zero hcursor]
  | succ budget ih =>
    have hdescent : firstDescent? p.lastAt rows = none := by
      refine firstDescent?_eq_none hasc fun t' ht' r hr => ?_
      obtain hp | hp := hp <;> rw [hp] at ht'
      · exact Option.mem_some.mp ht' ▸ hle r hr
      · exact nomatch ht'
    have hne : ¬(beforeLast rows).isEmpty := fun hempty => by
      rw [List.isEmpty_iff.mp hempty] at hlast
      exact nomatch hlast
    have hsafe := safeRows_of_le (p.pages + 1) hdescent hfull
    rw [if_neg hne] at hsafe
    have hnext : (p.extend (beforeLast rows)).lastAt = some t := by
      rw [Progress.extend, hlast]
      rfl
    rw [readPages_of_page hcursor (hanswer _ w) hsafe (send_open _ w)]
    simp only [if_neg (not_lt.mpr hfull)]
    exact ih (.inl hnext) (by rwa [Progress.cursor, hnext])

/-- **An extraction does not end by itself** if the source answers every request with the same full
page, whose rows but those of the last timestamp are all at one instant. -/
theorem run_stalls (hsince : window.since < window.upTo) (w : ω) :
    (x.run (pure true) group window w).1.result =
      .error (.panic (.text "attempt to add with overflow")) := by
  rw [(x.run_eq_readPages (pure true) group window w).1]
  exact readPages_stalls hanswer hfull hasc hle hlast ht maxPages (p := {}) (.inr rfl) hsince w

end Stalls

/-- A source that answers the first two requests with the same rows, and then with none. -/
def answeringTwice : PageSource Nat Row where
  name := "twice"
  fetch _ := fun n => (.ok (if n < 2 then [⟨.atSecond 1, ∅⟩, ⟨.atSecond 2, ∅⟩] else []), n + 1)

/-- **The cursor stays, and a row is sent again**: the second page comes back to the cursor. -/
theorem cursor_stays_answeringTwice :
    let x : Extraction Nat Row := ⟨answeringTwice, 2⟩
    let window : Window := ⟨.epoch, .atSecond 10⟩
    (x.visits (pure true) "g" window 0).map Visit.cursor = [.epoch, .atSecond 1, .atSecond 1] ∧
      (x.run (pure true) "g" window 0).1.sent.map time = [.atSecond 1, .atSecond 1] := by
  decide

end Extraction

end Ingest
