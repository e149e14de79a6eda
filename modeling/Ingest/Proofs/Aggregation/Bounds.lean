import Ingest.Proofs.Aggregation.Ascending
import Ingest.Proofs.Aggregation.Segments
import Ingest.Proofs.Aggregation.Traced
import Mathlib.Order.Bounds.Basic

/-!
# Proofs/Aggregation/Bounds — how far the input has left a bounded grouping

Each row that a stage sends has its moment: some rows have been read, some groups have been sent,
the others are still held, and the bound of the row is their least floor (`Moment`). A floor lies
below all rows of its group, and no timestamp of the input lies between it and the first of them
(`Held.Floored`). So the bound is the last stop up to which everything has been sent
(`Moment.isGreatest`). Main statement: `stage_bounds`, on rows that know their positions in the
input.
-/

namespace Ingest

variable {κ ρ : Type} [Timed ρ]

/-! ## Moments of an output -/

/-- The moment at which the last of the rows `out` is sent: `read` has been read, `out` is the
groups `sent`, and the groups `stay` are still held. -/
structure Moment (g : GroupBy κ ρ) (read : List ρ) (out : List (Staged ρ))
    (sent stay : List (Held κ ρ)) : Prop where
  holding : ∃ c, Holding g c read (sent.flatMap (·.members)) stay
  makes : ∀ x ∈ sent, g.Makes x.key x.members x.group.row
  rows : out.map (·.row) = sent.map (·.group.row)
  settled : ∀ it ∈ out.getLast?, it.settled = Held.settled stay

namespace Moment

variable {g : GroupBy κ ρ} {read todo : List ρ} {out front back : List (Staged ρ)} {it : Staged ρ}
  {sent stay leaving : List (Held κ ρ)} {c : InputClock} {f : Floors} {t u : Instant}

/-- Groups that leave, one by one. -/
theorem of_drain (hholding : Holding g c read (sent.flatMap (·.members)) (leaving ++ stay))
    (hmakes : ∀ x ∈ sent, g.Makes x.key x.members x.group.row)
    (hrows : out.map (·.row) = sent.map (·.group.row)) (hf : f.Of (leaving ++ stay))
    (h : (f.drain (leaving.map (·.group))).2 = front ++ it :: back) :
    ∃ sooner later, (back = [] ↔ later = []) ∧
      Moment g read (out ++ front ++ [it]) (sent ++ sooner) (later ++ stay) := by
  obtain ⟨sooner, x, later, rfl, hfront, hit, hback, hsettled⟩ := hf.drain_split h
  have hsplit : sooner ++ x :: later ++ stay = (sooner ++ [x]) ++ (later ++ stay) := by simp
  rw [hsplit] at hholding
  have hback : back = [] ↔ later = [] := by
    rw [← List.map_eq_nil_iff (f := (·.row)), hback, List.map_eq_nil_iff]
  refine ⟨sooner ++ [x], later, hback, ⟨c, ?_⟩, fun y hy => ?_, ?_, by simp [hsettled]⟩
  · rw [List.flatMap_append]
    exact hholding.emitAll
  · rcases List.mem_append.mp hy with hy | hy
    · exact hmakes y hy
    · exact (hholding.sound y (List.mem_append_left _ hy)).makes
  · simp [hrows, hfront, hit]

omit [Timed ρ] in
/-- The bound is the floor of a group that stays. -/
theorem exists_floor_eq (ht : Held.settled stay = some t) :
    (∃ x ∈ stay, x.floor = t) ∧ ∀ x ∈ stay, t ≤ x.floor := by
  obtain ⟨hmem, hle⟩ := List.min?_eq_some_iff.mp ht
  exact ⟨List.mem_map.mp hmem, fun x hx => hle x.floor (List.mem_map_of_mem hx)⟩

/-- **A bound is sound**: every row up to it is a member of a group that was sent. -/
theorem mem_sent_of_le (h : Moment g read out sent stay) (asc : Ascending (read ++ todo))
    (hearliest : ∀ x ∈ read ++ todo, .earliest < time x) (ht : Held.settled stay = some t) {x : ρ}
    (hx : x ∈ read ++ todo) (hle : time x ≤ t) : x ∈ sent.flatMap (·.members) := by
  obtain ⟨c, hholding⟩ := h.holding
  obtain ⟨⟨y, hy, rfl⟩, hmin⟩ := exists_floor_eq ht
  have hlt : ∀ z ∈ stay, ∀ m ∈ z.members, z.floor < time m := fun z hz m hm =>
    (hholding.sound z hz).floor_lt m hm
      (hearliest m (List.mem_append_left _ (hholding.mem_read hz hm)))
  rcases List.mem_append.mp hx with hx | hx
  · rcases List.mem_append.mp (hholding.account.mem_iff.mp hx) with hsent | hstay
    · exact hsent
    · obtain ⟨z, hz, hm⟩ := List.mem_flatMap.mp hstay
      exact absurd ((hlt z hz x hm).trans_le hle) (hmin z hz).not_gt
  · obtain ⟨first, hfirst, -⟩ := (hholding.floored y hy).first
    have hlater : time first ≤ time x :=
      (List.pairwise_append.mp asc).2.2 first (hholding.mem_read hy hfirst) x hx
    exact absurd ((hlt y hy first hfirst).trans_le hlater) hle.not_gt

/-- **A bound is exact**: up to any later timestamp of the input a row is still held. -/
theorem exists_mem_stay (h : Moment g read out sent stay) (asc : Ascending (read ++ todo))
    (ht : Held.settled stay = some t) {x : ρ} (hx : x ∈ read ++ todo) (hlt : t < time x) :
    ∃ m ∈ stay.flatMap (·.members), time m ≤ time x := by
  obtain ⟨c, hholding⟩ := h.holding
  obtain ⟨⟨y, hy, rfl⟩, -⟩ := exists_floor_eq ht
  obtain ⟨first, hfirst, hall⟩ := (hholding.floored y hy).first
  refine ⟨first, List.mem_flatMap.mpr ⟨y, hy, hfirst⟩, ?_⟩
  rcases List.mem_append.mp hx with hx | hx
  · exact (hall x hx).resolve_left (not_le.mpr hlt)
  · exact (List.pairwise_append.mp asc).2.2 first (hholding.mem_read hy hfirst) x hx

/-- A bound is the earliest instant or a timestamp of the input. -/
theorem settled_attained (h : Moment g read out sent stay) (ht : Held.settled stay = some t) :
    t = .earliest ∨ ∃ x ∈ read, time x = t := by
  obtain ⟨c, hholding⟩ := h.holding
  obtain ⟨⟨y, hy, rfl⟩, -⟩ := exists_floor_eq ht
  exact (hholding.floored y hy).attained

end Moment

/-! ## The moments of a bounded stage -/

namespace StreamingAggregation

variable [DecidableEq κ] {a : StreamingAggregation κ ρ} {s : State κ ρ} {read : List ρ}
  {out : List (Staged ρ)}

/-- **Each row that was sent has its moment**, and then a group is held. By induction on the rows
read. -/
theorem exists_moments (hruns : Stage.Runs a.step a.start read out s) :
    ∃ sent held, a.Course s read out sent held ∧ (out ≠ [] → held ≠ []) ∧
      ∀ front it back, out = front ++ it :: back → ∃ before after sooner stay,
        read = before ++ after ∧ stay ≠ [] ∧
        Moment a.toGroupBy before (front ++ [it]) sooner stay := by
  induction hruns with
  | start => exact ⟨[], [], .start a, by simp, by simp⟩
  | @next read r out more s₁ s₂ _ hstep ih =>
    obtain ⟨sent, held, h, -, hmoments⟩ := ih
    obtain ⟨leaving, stay, f, hcourse, hstay, hholding, hfloors, rfl, -⟩ := h.next hstep
    refine ⟨_, stay, hcourse, fun _ => hstay, fun front it back hsplit => ?_⟩
    rcases append_eq_append_cons hsplit with ⟨mid, hout, -⟩ | ⟨mid, rfl, hmore⟩
    · obtain ⟨before, after, sooner, stay', rfl, hrest⟩ := hmoments front it mid hout
      exact ⟨before, after ++ [r], sooner, stay', by simp, hrest⟩
    · obtain ⟨sooner, later, -, hmoment⟩ := Moment.of_drain hholding h.makes h.rows hfloors hmore
      exact ⟨read ++ [r], [], sent ++ sooner, later ++ stay, by simp, by simp [hstay], hmoment⟩

/-- At the end of the input every group that is held has its moment. -/
theorem exists_moment_of_finish {sent held : List (Held κ ρ)}
    (h : a.Course s read out sent held) {last : List (Staged ρ)} (hfinish : a.finish s = .ok last)
    {front back : List (Staged ρ)} {it : Staged ρ} (hlast : last = front ++ it :: back) :
    ∃ sooner later, (back = [] ↔ later = []) ∧
      Moment a.toGroupBy read (out ++ front ++ [it]) sooner later := by
  obtain rfl := h.keeps.finish hfinish
  have hholding := h.keeps.holding
  have hfloors := h.keeps.floors
  rw [← List.append_nil held] at hholding hfloors
  obtain ⟨sooner, later, hback, hmoment⟩ := Moment.of_drain hholding h.makes h.rows hfloors hlast
  exact ⟨_, later, hback, List.append_nil later ▸ hmoment⟩

/-- As long as groups are held something is to be sent. -/
theorem ends_ne_nil {sent held : List (Held κ ρ)} (h : a.Course s read out sent held)
    (hheld : held ≠ []) {rest : List (Except Error ρ)} {tail : List (Except Error (Staged ρ))}
    (hends : Stage.Ends a.step a.finish s rest tail) : tail ≠ [] := by
  intro hnil
  have hnone := h.keeps.finish (hends.finish_of_nil hnil)
  have hrows := s.floors.drain_rows (held.map (·.group))
  rw [← hnone] at hrows
  exact hheld (by simpa using hrows.symm)

/-- **The moment of a row of the output.** Nothing is held any more exactly if nothing follows it,
and then the input is over. -/
theorem exists_moment {items : List (Except Error ρ)} {front back : List (Except Error (Staged ρ))}
    {it : Staged ρ} (h : a.stage.transform items = front ++ .ok it :: back) :
    ∃ read todo out sent stay, inputRows items = read ++ todo ∧ front = out.map .ok ∧
      Moment a.toGroupBy read (out ++ [it]) sent stay ∧ (stay = [] ↔ back = []) ∧
      (stay = [] → todo = []) := by
  obtain ⟨read, rest, out, s, tail, rfl, hruns, hends, hfold⟩ :=
    Stage.fold_cases a.step a.finish a.start items
  obtain ⟨sent, held, hcourse, hheld, hmoments⟩ := exists_moments hruns
  rw [inputRows_append, inputRows_map_ok]
  rcases append_eq_append_cons (hfold.symm.trans h) with ⟨mid, hout, rfl⟩ | ⟨mid, rfl, htail⟩
  · -- sent while rows were read
    obtain ⟨front, mid, rfl, rfl, rfl⟩ := map_ok_eq_append_cons hout
    obtain ⟨before, after, sooner, stay, rfl, hstay, hmoment⟩ := hmoments front it mid rfl
    exact ⟨before, after ++ inputRows rest, front, sooner, stay, by simp, rfl, hmoment,
      iff_of_false hstay fun hnil => ends_ne_nil hcourse (hheld (by simp)) hends
        (List.append_eq_nil_iff.mp hnil).2, fun hnil => absurd hnil hstay⟩
  · -- sent at the end of the input
    cases hends with
    | finished hfinish =>
      obtain ⟨mid, back, hlast, rfl, rfl⟩ := map_ok_eq_append_cons htail
      obtain ⟨sooner, later, hback, hmoment⟩ := exists_moment_of_finish hcourse hfinish hlast
      exact ⟨read, [], out ++ mid, sooner, later, by simp [inputRows], by simp, hmoment,
        by simp [hback], fun _ => rfl⟩
    | unfinished | failed | stuck =>
      rcases mid with _ | ⟨_, mid⟩ <;> simp at htail

end StreamingAggregation

/-! ## Exact bounds -/

/-- The earliest instant and the timestamps of the input. -/
def Stops (items : List (Except Error ρ)) : Set Instant :=
  {t | t = .earliest ∨ ∃ r, .ok r ∈ items ∧ time r = t}

/-- Every input row up to `t` was merged into a row that was sent. -/
def SentUpTo (items : List (Except Error ρ)) (sent : List (Except Error (Staged (Traced ρ))))
    (t : Instant) : Prop :=
  ∀ i r, items[i]? = some (.ok r) → time r ≤ t → ∃ it, .ok it ∈ sent ∧ i ∈ it.row.origins

/-- The bounds of an output are exact: each is the last stop up to which the input has been sent.
They rise, and only what is sent last has none. -/
structure ExactBounds (items : List (Except Error ρ))
    (output : List (Except Error (Staged (Traced ρ)))) : Prop where
  greatest : ∀ front it back, output = front ++ .ok it :: back → ∀ t ∈ it.settled,
    IsGreatest {u | u ∈ Stops items ∧ SentUpTo items (front ++ [.ok it]) u} t
  none_iff : ∀ front it back, output = front ++ .ok it :: back → (it.settled = none ↔ back = [])
  complete : ∀ front it back, output = front ++ .ok it :: back → it.settled = none →
    ∀ t, SentUpTo items (front ++ [.ok it]) t
  rising : ∀ front x mid y back, output = front ++ .ok x :: (mid ++ .ok y :: back) →
    ∀ t ∈ x.settled, ∀ u ∈ y.settled, t ≤ u

variable {items : List (Except Error ρ)}

theorem SentUpTo.mono {sent sent' : List (Except Error (Staged (Traced ρ)))} {t : Instant}
    (h : SentUpTo items sent t) (hsub : sent ⊆ sent') : SentUpTo items sent' t :=
  fun i r hi hle =>
    have ⟨it, hit, horigin⟩ := h i r hi hle
    ⟨it, hsub hit, horigin⟩

theorem sentUpTo_map_ok {out : List (Staged (Traced ρ))} {t : Instant} :
    SentUpTo items (out.map .ok) t ↔ ∀ x ∈ inputRows (Traced.entries items), time x ≤ t →
      x.origins ⊆ out.flatMap (·.row.origins) := by
  constructor
  · intro h x hx hle j hj
    obtain ⟨i, r, hi, rfl⟩ := Traced.mem_inputRows_entries.mp hx
    obtain rfl := List.mem_singleton.mp hj
    obtain ⟨it, hit, horigin⟩ := h j r hi hle
    exact List.mem_flatMap.mpr ⟨it, by simpa using hit, horigin⟩
  · intro h i r hi hle
    have hx : ⟨r, [i]⟩ ∈ inputRows (Traced.entries items) :=
      Traced.mem_inputRows_entries.mpr ⟨i, r, hi, rfl⟩
    obtain ⟨it, hit, horigin⟩ := List.mem_flatMap.mp (h _ hx hle (List.mem_singleton_self i))
    exact ⟨it, List.mem_map_of_mem hit, horigin⟩

theorem mem_stops {t : Instant} :
    t ∈ Stops items ↔ t = .earliest ∨ ∃ x ∈ inputRows (Traced.entries items), time x = t := by
  refine or_congr_right ⟨?_, ?_⟩
  · rintro ⟨r, hr, rfl⟩
    obtain ⟨i, hi⟩ := List.mem_iff_getElem?.mp hr
    exact ⟨⟨r, [i]⟩, Traced.mem_inputRows_entries.mpr ⟨i, r, hi, rfl⟩, rfl⟩
  · rintro ⟨x, hx, rfl⟩
    obtain ⟨i, r, hi, rfl⟩ := Traced.mem_inputRows_entries.mp hx
    exact ⟨r, List.mem_of_getElem? hi, rfl⟩

namespace Moment

variable {g : GroupBy κ ρ} {read todo : List (Traced ρ)} {out : List (Staged (Traced ρ))}
  {sent stay : List (Held κ (Traced ρ))} {t : Instant}

/-- The positions of the rows sent are those of the members of their groups. -/
theorem origins_eq (h : Moment g.traced read out sent stay) :
    out.flatMap (·.row.origins) = (sent.flatMap (·.members)).flatMap (·.origins) := by
  have hgroups : sent.flatMap (·.group.row.origins)
      = sent.flatMap fun x => x.members.flatMap (·.origins) :=
    List.flatMap_congr fun x hx => (h.makes x hx).origins_eq
  have hrows := congrArg (List.flatMap Traced.origins) h.rows
  rw [List.flatMap_map, List.flatMap_map] at hrows
  rw [hrows, hgroups, List.flatMap_assoc]

/-- **No row that is still held was sent**, as no position occurs twice. -/
theorem disjoint (h : Moment g.traced read out sent stay)
    (hitems : inputRows (Traced.entries items) = read ++ todo) :
    ((sent.flatMap (·.members)).flatMap (·.origins)).Disjoint
      ((stay.flatMap (·.members)).flatMap (·.origins)) := by
  obtain ⟨c, hholding⟩ := h.holding
  have hnodup := Traced.nodup_origins items
  rw [hitems, List.flatMap_append] at hnodup
  have hread := (hholding.account.flatMap_right Traced.origins).nodup
    (List.nodup_append.mp hnodup).1
  rw [List.flatMap_append] at hread
  exact List.disjoint_of_nodup_append hread

/-- **A bound is the last stop** up to which the input has been sent. -/
theorem isGreatest (h : Moment g.traced read out sent stay)
    (hitems : inputRows (Traced.entries items) = read ++ todo) (asc : Ascending (read ++ todo))
    (hearliest : ∀ x ∈ read ++ todo, .earliest < time x) (ht : Held.settled stay = some t) :
    IsGreatest {u | u ∈ Stops items ∧ SentUpTo items (out.map .ok) u} t := by
  refine ⟨⟨mem_stops.mpr ?_, sentUpTo_map_ok.mpr fun x hx hle => ?_⟩, fun u ⟨hstop, hsent⟩ => ?_⟩
  · exact (h.settled_attained ht).imp_right fun ⟨x, hx, heq⟩ =>
      ⟨x, hitems ▸ List.mem_append_left _ hx, heq⟩
  · rw [h.origins_eq]
    exact fun i hi =>
      List.mem_flatMap.mpr ⟨x, h.mem_sent_of_le asc hearliest ht (hitems ▸ hx) hle, hi⟩
  · by_contra hlt
    rw [not_le] at hlt
    obtain rfl | ⟨x, hx, rfl⟩ := mem_stops.mp hstop
    · exact hlt.not_ge (Instant.earliest_le t)
    obtain ⟨m, hm, hle⟩ := h.exists_mem_stay asc ht (hitems ▸ hx) hlt
    obtain ⟨c, hholding⟩ := h.holding
    have hmem : m ∈ inputRows (Traced.entries items) := by
      rw [hitems]
      exact List.mem_append_left _ (hholding.account.mem_iff.mpr (List.mem_append_right _ hm))
    obtain ⟨i, r, -, rfl⟩ := Traced.mem_inputRows_entries.mp hmem
    have hi := sentUpTo_map_ok.mp hsent _ hmem hle (List.mem_singleton_self i)
    rw [h.origins_eq] at hi
    exact h.disjoint hitems hi (List.mem_flatMap.mpr ⟨_, hm, List.mem_singleton_self i⟩)

/-- Once nothing is held any more everything has been sent. -/
theorem sentUpTo_of_nil (h : Moment g.traced read out sent [])
    (hitems : inputRows (Traced.entries items) = read) (t : Instant) :
    SentUpTo items (out.map .ok) t := by
  obtain ⟨c, hholding⟩ := h.holding
  have hread : read.Perm (sent.flatMap (·.members)) := by simpa using hholding.account
  refine sentUpTo_map_ok.mpr fun x hx _ => ?_
  rw [h.origins_eq]
  exact fun i hi => List.mem_flatMap.mpr ⟨x, hread.mem_iff.mp (hitems ▸ hx), hi⟩

end Moment

/-- Exact bounds rise, as more has been sent. -/
theorem rising_of_greatest {output : List (Except Error (Staged (Traced ρ)))}
    (h : ∀ front it back, output = front ++ .ok it :: back → ∀ t ∈ it.settled,
      IsGreatest {u | u ∈ Stops items ∧ SentUpTo items (front ++ [.ok it]) u} t)
    (front : List (Except Error (Staged (Traced ρ)))) (x : Staged (Traced ρ))
    (mid : List (Except Error (Staged (Traced ρ)))) (y : Staged (Traced ρ))
    (back : List (Except Error (Staged (Traced ρ))))
    (hsplit : output = front ++ .ok x :: (mid ++ .ok y :: back)) :
    ∀ t ∈ x.settled, ∀ u ∈ y.settled, t ≤ u := by
  intro t ht u hu
  obtain ⟨⟨hstop, hsent⟩, -⟩ := h front x _ hsplit t ht
  obtain ⟨-, hgreatest⟩ := h (front ++ .ok x :: mid) y back (by simp [hsplit]) u hu
  exact hgreatest ⟨hstop, hsent.mono (by simp)⟩

namespace StreamingAggregation

variable [DecidableEq κ]

/-- What the stage sends for this input, traced. -/
def output (a : StreamingAggregation κ ρ) (items : List (Except Error ρ)) :
    List (Except Error (Staged (Traced ρ))) :=
  a.traced.stage.transform (Traced.entries items)

section Output

variable {a : StreamingAggregation κ ρ} {front back : List (Except Error (Staged (Traced ρ)))}
  {it : Staged (Traced ρ)}

/-- The moment of a traced row. -/
theorem exists_moment_of_output (hsplit : a.output items = front ++ .ok it :: back) :
    ∃ read todo out, ∃ sent stay : List (Held κ (Traced ρ)),
      inputRows (Traced.entries items) = read ++ todo ∧ front ++ [.ok it] = out.map .ok ∧
      Moment a.toGroupBy.traced read out sent stay ∧ it.settled = Held.settled stay ∧
      (stay = [] ↔ back = []) ∧ (stay = [] → todo = []) := by
  obtain ⟨read, todo, out, sent, stay, hitems, rfl, h, hrest⟩ := exists_moment hsplit
  exact ⟨read, todo, _, sent, stay, hitems, by simp, h, h.settled _ (by simp), hrest⟩

/-- A bound is the greatest instant up to which all was sent. -/
theorem output_greatest (asc : Ascending (inputRows items))
    (hearliest : ∀ r, .ok r ∈ items → .earliest < time r)
    (hsplit : a.output items = front ++ .ok it :: back) :
    ∀ t ∈ it.settled,
      IsGreatest {u | u ∈ Stops items ∧ SentUpTo items (front ++ [.ok it]) u} t := by
  intro t ht
  have hentries : ∀ x ∈ inputRows (Traced.entries items), .earliest < time x := fun x hx => by
    obtain ⟨i, r, hi, rfl⟩ := Traced.mem_inputRows_entries.mp hx
    exact hearliest r (List.mem_of_getElem? hi)
  obtain ⟨read, todo, out, sent, stay, hitems, hout, h, hsettled, -⟩ :=
    exists_moment_of_output hsplit
  rw [hout]
  exact h.isGreatest hitems (hitems ▸ Traced.ascending_entries asc) (hitems ▸ hentries)
    (hsettled ▸ ht)

/-- Only the last item has no bound. -/
theorem output_none_iff (hsplit : a.output items = front ++ .ok it :: back) :
    it.settled = none ↔ back = [] := by
  obtain ⟨read, todo, out, sent, stay, -, -, -, hsettled, hlast, -⟩ :=
    exists_moment_of_output hsplit
  rw [← hlast, hsettled, Held.settled, List.min?_eq_none_iff, List.map_eq_nil_iff]

/-- With the last item all was sent. -/
theorem output_complete (hsplit : a.output items = front ++ .ok it :: back)
    (hnone : it.settled = none) (t : Instant) : SentUpTo items (front ++ [.ok it]) t := by
  obtain ⟨read, todo, out, sent, stay, hitems, hout, h, hsettled, -, hend⟩ :=
    exists_moment_of_output hsplit
  obtain rfl : stay = [] := by simpa [hsettled, Held.settled] using hnone
  rw [hout]
  exact h.sentUpTo_of_nil (by simpa [hend rfl] using hitems) t

end Output

/-- **The bounds of a bounded grouping are exact**, whatever the size of its cache. Its stream ends
with an error only if it was given one. -/
theorem stage_bounds (a : StreamingAggregation κ ρ) (asc : Ascending (inputRows items))
    (hearliest : ∀ r, .ok r ∈ items → .earliest < time r) :
    a.stage.transform items = (a.output items).map (Except.map Staged.erase) ∧
      ExactBounds items (a.output items) ∧
      ∀ err, .error err ∈ a.stage.transform items → a.Given items err := by
  have hgreatest := fun front it back (hsplit : a.output items = front ++ .ok it :: back) =>
    output_greatest asc hearliest hsplit
  exact ⟨a.stage_traced items, ⟨hgreatest, fun _ _ _ => output_none_iff,
    fun _ _ _ => output_complete, rising_of_greatest hgreatest⟩, fun err => given_of_stage asc⟩

/-- A group that comes, goes and comes back. -/
theorem stage_bounds_comesAndGoes : Ascending (inputRows (comesAndGoes.map .ok)) ∧
    (∀ r, .ok r ∈ comesAndGoes.map (Except.ok (ε := Error)) → .earliest < time r) ∧
    ExactBounds (comesAndGoes.map .ok) (oneAtATime.output (comesAndGoes.map .ok)) := by
  have asc : Ascending (inputRows (comesAndGoes.map .ok)) := by decide +kernel
  have hearliest : ∀ r ∈ comesAndGoes, .earliest < time r := by decide +kernel
  have hitems : ∀ r, .ok r ∈ comesAndGoes.map (Except.ok (ε := Error)) → .earliest < time r :=
    fun r hr => hearliest r (by simpa using hr)
  exact ⟨asc, hitems, (stage_bounds oneAtATime asc hitems).2.1⟩

/-- The first group ends at the second second, but the alarm of that second is still held then. -/
example : (inputRows (oneAtATime.stage.transform (comesAndGoes.map .ok))).map (·.settled)
    = [some (.atSecond 1), some (.atSecond 2), none] := by decide +kernel

end StreamingAggregation

end Ingest
