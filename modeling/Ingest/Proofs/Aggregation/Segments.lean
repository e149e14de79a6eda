import Ingest.Proofs.Aggregation.Course
import Mathlib.Data.List.Induction

/-!
# Proofs/Aggregation/Segments — the groups of a key are segments of its rows

If no key panics and no merge fails, a bounded grouping of ascending rows sends rows only, whatever
the size of its cache. The members of its groups, group by group, are the rows of the input, key by
key, and a group is started when no earlier group of its key is left to be sent (`StartsAfter`).
Main statement: `stage_segments`.
-/

namespace Ingest

variable {κ ρ : Type}

/-! ## Groups that start, grow and leave -/

section Segmented

variable [DecidableEq κ]

/-- The first member of a group is the row after `before`, which holds the members of the earlier
groups of its key, and these groups have been sent by then: `count` says how many groups are sent
once some rows are read. -/
def StartsAfter (count : List ρ → Nat) (key : ρ → κ) (read : List ρ) (earlier : List (Held κ ρ))
    (g : Held κ ρ) : Prop :=
  ∃ before first after, read = before ++ first :: after ∧ g.members.head? = some first ∧
    (earlier.filter fun x => x.key = g.key).flatMap (·.members)
      = before.filter (fun r => key r = g.key) ∧
    ∀ x ∈ earlier.drop (count before), x.key ≠ g.key

/-- The groups `sent` and then the groups `held` are made of the rows read, key by key and in order.
-/
structure Segmented (count : List ρ → Nat) (key : ρ → κ) (read : List ρ)
    (sent held : List (Held κ ρ)) : Prop where
  nodup : (held.map Held.key).Nodup
  account : ∀ k, ((sent ++ held).filter fun g => g.key = k).flatMap (·.members)
    = read.filter fun r => key r = k
  sent_starts : ∀ earlier g later, sent = earlier ++ g :: later →
    StartsAfter count key read earlier g
  held_starts : ∀ g ∈ held, StartsAfter count key read sent g

variable {count : List ρ → Nat} {key : ρ → κ} {read : List ρ}
  {earlier sent held leaving stay : List (Held κ ρ)} {g : Held κ ρ}

theorem StartsAfter.read_more (h : StartsAfter count key read earlier g) (r : ρ) :
    StartsAfter count key (read ++ [r]) earlier g := by
  obtain ⟨before, first, after, rfl, hrest⟩ := h
  exact ⟨before, first, after ++ [r], by simp, hrest⟩

/-- Groups of other keys do not matter. -/
theorem StartsAfter.sent_more (h : StartsAfter count key read earlier g) {more : List (Held κ ρ)}
    (hmore : ∀ x ∈ more, x.key ≠ g.key) : StartsAfter count key read (earlier ++ more) g := by
  obtain ⟨before, first, after, hread, hfirst, hmembers, hsent⟩ := h
  have hnone : (more.filter fun x => x.key = g.key) = [] :=
    List.filter_eq_nil_iff.mpr fun x hx => by simpa using hmore x hx
  refine ⟨before, first, after, hread, hfirst, ?_, fun x hx => ?_⟩
  · rw [List.filter_append, hnone, List.append_nil, hmembers]
  · rw [List.drop_append] at hx
    rcases List.mem_append.mp hx with hx | hx
    · exact hsent x hx
    · exact hmore x (List.mem_of_mem_drop hx)

/-- Only the key and the first member of a group matter. -/
theorem StartsAfter.grow (h : StartsAfter count key read earlier g) {g' : Held κ ρ}
    (hkey : g'.key = g.key) (hmembers : g.members <+: g'.members) :
    StartsAfter count key read earlier g' := by
  obtain ⟨before, first, after, hread, hfirst, hrest⟩ := h
  obtain ⟨more, hmore⟩ := hmembers
  refine ⟨before, first, after, hread, ?_, hkey ▸ hrest⟩
  rw [← hmore, List.head?_append, hfirst]
  rfl

theorem Segmented.start (count : List ρ → Nat) (key : ρ → κ) :
    Segmented count key [] [] ([] : List (Held κ ρ)) :=
  ⟨.nil, by simp, by simp, by simp⟩

/-- A group that takes the place of what is held of its key has one more member. -/
theorem flatMap_members_absorb {r : ρ}
    (hmembers : g.members = (held.filter fun x => x.key = g.key).flatMap (·.members) ++ [r])
    (k : κ) :
    (((held.filter fun x => x.key ≠ g.key) ++ [g]).filter fun x => x.key = k).flatMap (·.members)
      = (held.filter fun x => x.key = k).flatMap (·.members) ++ if g.key = k then [r] else [] := by
  rw [List.filter_append, List.filter_filter, List.flatMap_append]
  by_cases hk : g.key = k
  · subst hk
    simp [hmembers]
  · have hother : (held.filter fun x => decide (x.key = k) && decide (x.key ≠ g.key))
        = held.filter fun x => x.key = k := List.filter_congr fun x _ => by
      by_cases hx : x.key = k
      · simp [hx, Ne.symm hk]
      · simp [hx]
    rw [hother]
    simp [hk]

/-- A row starts a group only if nothing is held of its key, and then all groups of the key have
been sent. -/
theorem Segmented.starts (h : Segmented count key read sent held)
    (hcount : count read = sent.length) {r : ρ}
    (hmembers : g.members = (held.filter fun x => x.key = g.key).flatMap (·.members) ++ [r]) :
    StartsAfter count key (read ++ [r]) sent g := by
  rcases hheld : held.filter (fun y => y.key = g.key) with _ | ⟨y, others⟩
  · refine ⟨read, r, [], rfl, by rw [hmembers, hheld]; rfl, ?_, by simp [hcount]⟩
    rw [← h.account, List.filter_append, hheld, List.append_nil]
  · obtain ⟨hy, hkey⟩ := List.mem_filter.mp (hheld ▸ List.mem_cons_self : y ∈ held.filter _)
    refine ((h.held_starts y hy).read_more r).grow (of_decide_eq_true hkey).symm ?_
    rw [hmembers, hheld, List.flatMap_cons, List.append_assoc]
    exact List.prefix_append _ _

/-- **One more row** joins what is held of its key. -/
theorem Segmented.absorb (h : Segmented count key read sent held)
    (hcount : count read = sent.length) {r : ρ} (hkey : key r = g.key)
    (hmembers : g.members = (held.filter fun x => x.key = g.key).flatMap (·.members) ++ [r]) :
    Segmented count key (read ++ [r]) sent ((held.filter fun x => x.key ≠ g.key) ++ [g]) where
  nodup := nodup_filter_append h.nodup rfl
  account k := by
    have hread := h.account k
    rw [List.filter_append, List.flatMap_append] at hread
    rw [List.filter_append sent, List.flatMap_append, flatMap_members_absorb hmembers,
      ← List.append_assoc, hread, List.filter_append]
    congr 1
    by_cases hk : g.key = k <;> simp [hkey, hk]
  sent_starts earlier x later hsplit := (h.sent_starts earlier x later hsplit).read_more r
  held_starts x hx := by
    rcases List.mem_append.mp hx with hx | hx
    · exact (h.held_starts x (List.mem_of_mem_filter hx)).read_more r
    · obtain rfl := List.mem_singleton.mp hx
      exact h.starts hcount hmembers

/-- **Groups leave** one after the other, each behind groups of other keys. -/
theorem Segmented.leave (h : Segmented count key read sent (leaving ++ stay)) :
    Segmented count key read (sent ++ leaving) stay := by
  have hnodup := h.nodup
  rw [List.map_append, List.nodup_append] at hnodup
  obtain ⟨hleaving, hstay, hcross⟩ := hnodup
  -- the groups held have different keys, so it does not matter which of them left before
  have hstarts : ∀ front g back, leaving = front ++ g :: back →
      StartsAfter count key read (sent ++ front) g := by
    rintro front g back rfl
    refine (h.held_starts g (by simp)).sent_more fun x hx => ?_
    rw [List.map_append, List.nodup_append] at hleaving
    exact hleaving.2.2 _ (List.mem_map_of_mem hx) _ (List.mem_map_of_mem List.mem_cons_self)
  refine ⟨hstay, fun k => by rw [List.append_assoc, h.account], fun earlier g later hsplit => ?_,
    fun g hg => ?_⟩
  · rcases append_eq_append_cons hsplit with ⟨mid, hsent, -⟩ | ⟨front, rfl, hfront⟩
    · exact h.sent_starts earlier g mid hsent
    · exact hstarts front g later hfront
  · refine (h.held_starts g (List.mem_append_right _ hg)).sent_more fun x hx => ?_
    exact hcross _ (List.mem_map_of_mem hx) _ (List.mem_map_of_mem hg)

end Segmented

/-! ## A run of the stage -/

namespace StreamingAggregation

variable [Timed ρ] [DecidableEq κ] {a : StreamingAggregation κ ρ} {s : State κ ρ}
  {read left : List ρ} {held sent : List (Held κ ρ)} {out : List (Staged ρ)} {key : ρ → κ}
  {merge : ρ → ρ → ρ}

/-- What the stage has sent once it has read some rows and waits for more. -/
def sentWhile (a : StreamingAggregation κ ρ) (rows : List ρ) : List (Except Error (Staged ρ)) :=
  Stage.fold a.step (fun _ => .ok []) a.start (rows.map .ok)

/-- A course whose groups are segments of the rows read. -/
structure Sends (a : StreamingAggregation κ ρ) (key : ρ → κ) (s : State κ ρ) (read : List ρ)
    (out : List (Staged ρ)) (sent held : List (Held κ ρ)) : Prop
    extends Course a s read out sent held where
  segmented : Segmented (fun rows => (a.sentWhile rows).length) key read sent held

namespace Sends

/-- What is sent while rows are read. -/
theorem sentWhile_eq (h : a.Sends key s read out sent held) :
    a.sentWhile read = out.map .ok := by
  have hreached := h.reached (fun _ => .ok []) []
  rw [List.append_nil] at hreached
  rw [sentWhile, hreached, Stage.fold]
  simp

theorem start (a : StreamingAggregation κ ρ) (key : ρ → κ) : a.Sends key a.start [] [] [] [] :=
  ⟨.start a, .start _ _⟩

/-- **One more row** makes some groups leave. -/
theorem snoc (h : a.Sends key s read out sent held) (hkey : ∀ r, a.key r = .ok (key r))
    (hmerge : ∀ x r, a.merge x r = .ok (merge x r)) {r : ρ} (hr : ∀ x ∈ read, time x ≤ time r) :
    ∃ s' out' sent' held', a.Sends key s' (read ++ [r]) out' sent' held' := by
  obtain ⟨s', more, hstep⟩ := h.keeps.exists_step hkey hmerge hr
  obtain ⟨leaving, stay, f, hcourse, -, -, -, -, g, hjoined, hheld⟩ := h.next hstep
  have hcount : (a.sentWhile read).length = sent.length := by
    simpa [h.sentWhile_eq] using congrArg List.length h.rows
  have habsorb :=
    h.segmented.absorb hcount (Except.ok.inj ((hkey r).symm.trans hjoined.key)) hjoined.members
  exact ⟨s', _, _, stay, hcourse, Segmented.leave (hheld ▸ habsorb)⟩

end Sends

/-- **Ascending rows never fail.** -/
theorem exists_sends (hkey : ∀ r, a.key r = .ok (key r))
    (hmerge : ∀ x r, a.merge x r = .ok (merge x r)) {xs : List ρ} (asc : Ascending xs) :
    ∃ s out sent held, a.Sends key s xs out sent held := by
  -- by the rows read so far: what follows them does not change what was sent
  induction xs using List.reverseRecOn with
  | nil => exact ⟨_, _, _, _, .start a key⟩
  | append_singleton read r ih =>
    obtain ⟨hread, -, hr⟩ := List.pairwise_append.mp asc
    obtain ⟨s, out, sent, held, h⟩ := ih hread
    exact h.snoc hkey hmerge fun x hx => hr x hx r (by simp)

/-- The rows `out`, sent for the rows `xs`, are `groups`, each the left fold of its members. The
members of the groups of a key, in the order in which the groups are sent, are the rows of the key,
and what is sent before a group is started includes every earlier group of its key. -/
structure Segments (a : StreamingAggregation κ ρ) (key : ρ → κ) (merge : ρ → ρ → ρ) (xs : List ρ)
    (out : List (Staged ρ)) (groups : List (Held κ ρ)) : Prop where
  rows : out.map (·.row) = groups.map (·.group.row)
  folds : ∀ g ∈ groups, ∃ first more, g.members = first :: more ∧
    g.group.row = more.foldl merge first
  account : ∀ k, (groups.filter fun g => g.key = k).flatMap (·.members)
    = xs.filter fun r => key r = k
  sent : ∀ before after, xs = before ++ after → a.sentWhile before <+: out.map .ok
  starts : ∀ earlier g later, groups = earlier ++ g :: later →
    StartsAfter (fun rows => (a.sentWhile rows).length) key xs earlier g

/-- **The groups of a key are segments of its rows**, and nothing but groups is sent. -/
theorem stage_segments (a : StreamingAggregation κ ρ) (hkey : ∀ r, a.key r = .ok (key r))
    (hmerge : ∀ x r, a.merge x r = .ok (merge x r)) {xs : List ρ} (asc : Ascending xs) :
    ∃ out groups, a.stage.transform (xs.map .ok) = out.map .ok ∧
      a.Segments key merge xs out groups := by
  obtain ⟨s, out, sent, held, h⟩ := exists_sends hkey hmerge asc
  have hfinish := h.keeps.finish_eq h.fits
  have hsegmented : Segmented _ key xs (sent ++ held) [] :=
    Segmented.leave (by simpa using h.segmented)
  have hsends : a.stage.transform (xs.map .ok)
      = (out ++ (s.floors.drain (held.map (·.group))).2).map .ok := by
    have hreached := h.reached a.finish []
    rw [List.append_nil, Stage.fold, hfinish] at hreached
    rw [List.map_append]
    exact hreached
  refine ⟨_, sent ++ held, hsends, h.rows_drain _ _, fun g hg => ?_, fun k => ?_, ?_,
    hsegmented.sent_starts⟩
  · rcases List.mem_append.mp hg with hg | hg
    · exact (h.makes g hg).foldl hmerge
    · exact (h.keeps.holding.sound g hg).makes.foldl hmerge
  · simpa using hsegmented.account k
  · rintro before after rfl
    obtain ⟨s₁, out₁, sent₁, held₁, h₁⟩ :=
      exists_sends hkey hmerge (asc.sublist (List.sublist_append_left before after))
    rw [← hsends, h₁.sentWhile_eq]
    have hreached := h₁.reached a.finish (after.map .ok)
    rw [← List.map_append] at hreached
    exact ⟨_, hreached.symm⟩

/-- One group at a time, of the rows with a field or of those without it. -/
def oneAtATime : StreamingAggregation Bool Row where
  key r := .ok (r.get? "alarm").isSome
  merge x r := .ok { x with timestamp := max x.timestamp r.timestamp }
  name := "alarms"
  buffer := 0

/-- The field comes and goes. -/
def comesAndGoes : List Row :=
  [⟨.atSecond 1, ∅⟩, ⟨.atSecond 2, ∅⟩, ⟨.atSecond 2, .ofList [("alarm", .null)]⟩, ⟨.atSecond 3, ∅⟩]

/-- A group that comes, goes and comes back. -/
theorem stage_segments_comesAndGoes : Ascending comesAndGoes ∧
    ∃ out groups, oneAtATime.stage.transform (comesAndGoes.map .ok) = out.map .ok ∧
      oneAtATime.Segments (fun r => (r.get? "alarm").isSome)
        (fun x r => { x with timestamp := max x.timestamp r.timestamp }) comesAndGoes out groups :=
  have asc : Ascending comesAndGoes := by decide +kernel
  ⟨asc, oneAtATime.stage_segments (fun _ => rfl) (fun _ _ => rfl) asc⟩

/-- The rows without the field make two groups, one before the alarm and one after it. -/
example : (oneAtATime.stage.transform (comesAndGoes.map .ok)).length = 3 := by decide +kernel

end StreamingAggregation

end Ingest
