import Ingest.Aggregation.Streaming
import Ingest.Proofs.Aggregation.Grouping
import Ingest.Proofs.Aggregation.Runs
import Ingest.Proofs.Loading
import Mathlib.Data.List.Nodup

/-!
# Proofs/Aggregation/Traced — rows that know what they were made of

A stage merges rows, so a committed row does not show which input rows it stands for. Here the
stages and the loader run on rows that carry the positions of these input rows along. Main
statements: `GroupingAggregation.stage_traced`, `StreamingAggregation.stage_traced` and
`Loading.run_recording` — without the positions these are the runs of the stages and of the loader
on plain rows.
-/

namespace Ingest

variable {κ ρ ω : Type}

/-- A row and the positions of the input rows that it was made of. -/
structure Traced (ρ : Type) where
  /-- The row. -/
  row : ρ
  /-- The positions. -/
  origins : List Nat

instance [Timed ρ] : Timed (Traced ρ) := ⟨fun r => time r.row⟩

theorem Traced.time_eq [Timed ρ] (r : Traced ρ) : time r = time r.row := rfl

/-- Every input row was made of itself. -/
def Traced.input (rows : List ρ) : List (Traced ρ) := rows.zipIdx.map fun r => ⟨r.1, [r.2]⟩

theorem Traced.map_row_input (rows : List ρ) : (input rows).map (·.row) = rows := by
  rw [input, List.map_map]
  exact List.zipIdx_map_fst 0 rows

theorem Traced.getElem?_input (rows : List ρ) (i : Nat) :
    (input rows)[i]? = rows[i]?.map fun r => ⟨r, [i]⟩ := by
  rw [input, List.getElem?_map, List.getElem?_zipIdx, Option.map_map, Nat.zero_add]
  rfl

/-- Rows keep their order when they are numbered. -/
theorem Traced.ascending_input [Timed ρ] {rows : List ρ} (asc : Ascending rows) :
    Ascending (input rows) := by
  have hrows : Ascending ((input rows).map (·.row)) := (map_row_input rows).symm ▸ asc
  rwa [Ascending, List.pairwise_map] at hrows

/-- Forgets what a group was made of. -/
def Pending.erase (p : Pending (Traced ρ)) : Pending ρ := ⟨p.row.row, p.floor⟩

/-- Forgets what a row was made of. -/
def Staged.erase (it : Staged (Traced ρ)) : Staged ρ := ⟨it.row.row, it.settled⟩

/-! ## Stages -/

/-- Keys and merges do not depend on the positions; a merged row has those of both rows. -/
def GroupBy.traced (g : GroupBy κ ρ) : GroupBy κ (Traced ρ) where
  key r := g.key r.row
  merge x r := (g.merge x.row r.row).map fun y => ⟨y, x.origins ++ r.origins⟩

namespace GroupBy

variable {g : GroupBy κ ρ} {k : κ} {members : List (Traced ρ)} {x : Traced ρ}

/-- The positions of a group are those of its members. -/
theorem Makes.origins_eq (h : g.traced.Makes k members x) :
    x.origins = members.flatMap (·.origins) := by
  induction h with
  | single hk => simp
  | @snoc members x r y h hk hm ih =>
    obtain ⟨z, -, rfl⟩ : ∃ z, g.merge x.row r.row = .ok z ∧ ⟨z, x.origins ++ r.origins⟩ = y := by
      simp only [traced] at hm
      rcases hz : g.merge x.row r.row with e | z <;> rw [hz] at hm
      · cases hm
      · exact ⟨z, rfl, Except.ok.inj hm⟩
    simp [ih]

/-- A merge that keeps the later timestamp keeps it when it also notes the rows. -/
theorem KeepsLater.traced [Timed ρ] (hg : g.KeepsLater) : g.traced.KeepsLater := by
  intro x r y hm
  simp only [GroupBy.traced] at hm
  rcases hz : g.merge x.row r.row with e | z <;> rw [hz] at hm
  · cases hm
  · obtain rfl := Except.ok.inj hm
    exact hg x.row r.row z hz

/-- To note the rows changes nothing of how a group is extended. -/
theorem extend_traced (g : GroupBy κ ρ) (c : InputClock) (r : Traced ρ)
    (group : Option (Pending (Traced ρ))) :
    g.extend c r.row (group.map Pending.erase) = (g.traced.extend c r group).map Pending.erase := by
  rcases group with _ | p
  · rfl
  · simp only [extend, traced, Option.map_some, Pending.erase]
    rcases g.merge p.row.row r.row with e | z <;> rfl

end GroupBy

/-- Floors are told from the groups alone, without what is noted. -/
theorem Floors.drain_erase (f : Floors) (groups : List (Pending (Traced ρ))) :
    f.drain (groups.map Pending.erase) = Prod.map id (List.map Staged.erase) (f.drain groups) := by
  induction groups generalizing f with
  | nil => rfl
  | cons p groups ih => simp only [List.map_cons, drain, Pending.erase, ih]; rfl

namespace GroupingAggregation

variable [DecidableEq κ]

/-- The stage on traced rows. Its groups come in the order that the plain groups come in. -/
def traced (a : GroupingAggregation κ ρ) : GroupingAggregation κ (Traced ρ) where
  toGroupBy := a.toGroupBy.traced
  name := a.name
  limit := a.limit
  order n groups := (a.order n (groups.map (Prod.map id Pending.erase))).filterMap fun e =>
    groups.find? fun g => g.1 = e.1

/-- Forgets what the groups were made of. -/
def State.erase (s : State κ (Traced ρ)) : State κ ρ :=
  ⟨s.groups.map (Prod.map id Pending.erase), s.clock, s.flushes⟩

/-- The only entry of its key. -/
theorem find?_key {α : Type} {entries : List (κ × α)} (nodup : (entries.map (·.1)).Nodup)
    {e : κ × α} (he : e ∈ entries) : entries.find? (fun x => x.1 = e.1) = some e := by
  obtain ⟨x, hx⟩ : ∃ x, entries.find? (fun x => x.1 = e.1) = some x :=
    Option.isSome_iff_exists.mp (List.find?_isSome.mpr ⟨e, he, by simp⟩)
  have hkey : x.1 = e.1 := by simpa using List.find?_some hx
  rw [hx, List.inj_on_of_nodup_map nodup (List.mem_of_find?_eq_some hx) he hkey]

variable {a : GroupingAggregation κ ρ}

/-- The order of the traced groups is the order of the plain ones. -/
theorem order_traced (horder : a.Reorders) (n : Nat) {groups : List (κ × Pending (Traced ρ))}
    (nodup : (groups.map (·.1)).Nodup) :
    (a.traced.order n groups).Perm groups ∧
      (a.traced.order n groups).map (Prod.map id Pending.erase)
        = a.order n (groups.map (Prod.map id Pending.erase)) := by
  have hkeys : ((groups.map (Prod.map id Pending.erase)).map (·.1)).Nodup := by
    rw [List.map_map]
    exact nodup
  obtain ⟨sorted, hmap, hperm⟩ := exists_perm_of_perm_map (horder n _ hkeys)
  have hsorted : a.traced.order n groups = sorted := by
    change (a.order n (groups.map (Prod.map id Pending.erase))).filterMap _ = sorted
    rw [← hmap, List.filterMap_map]
    refine (List.filterMap_congr fun e he => ?_).trans List.filterMap_some
    exact find?_key nodup (hperm.mem_iff.mp he)
  rw [hsorted]
  exact ⟨hperm, hmap⟩

/-- An order of the map is one of the noted groups. -/
theorem Reorders.traced (horder : a.Reorders) : a.traced.Reorders :=
  fun n _ nodup => (order_traced horder n nodup).1

theorem find?_erase (groups : List (κ × Pending (Traced ρ))) (k : κ) :
    find? (groups.map (Prod.map id Pending.erase)) k = (find? groups k).map Pending.erase := by
  rw [find?, find?, List.find?_map, Option.map_map, Option.map_map]
  rfl

variable [Timed ρ] {s : State κ (Traced ρ)} {read left todo : List (Traced ρ)}
  {held : List (Held κ (Traced ρ))}

theorem emit_erase (groups : List (Pending (Traced ρ))) :
    emit (groups.map Pending.erase) = (emit groups).map Staged.erase := by
  have hsorted : (groups.map Pending.erase).mergeSort (fun x y => decide (time x.row ≤ time y.row))
      = (groups.mergeSort fun x y => decide (time x.row ≤ time y.row)).map Pending.erase :=
    (List.map_mergeSort (f := Pending.erase) fun x _ y _ => rfl).symm
  rw [emit, emit, hsorted, Floors.drain_erase, List.map_map]
  rfl

/-- A flush sends the same groups, with their rows noted. -/
theorem flush_traced (horder : a.Reorders) (nodup : (s.groups.map (·.1)).Nodup) :
    a.flush s.erase = Prod.map State.erase (List.map Staged.erase) (a.traced.flush s) := by
  have hgroups : (a.order s.flushes s.erase.groups).map (·.2)
      = ((a.traced.order s.flushes s.groups).map (·.2)).map Pending.erase := by
    rw [State.erase, ← (order_traced horder s.flushes nodup).2, List.map_map, List.map_map]
    rfl
  refine Prod.ext rfl ?_
  change emit ((a.order s.flushes s.erase.groups).map (·.2)) = _
  rw [hgroups, emit_erase]
  rfl

/-- **One row** does to the plain groups what it does to the traced ones. -/
theorem step_traced (horder : a.Reorders) (nodup : (s.groups.map (·.1)).Nodup) (r : Traced ρ) :
    a.step s.erase r.row
      = (a.traced.step s r).map (Prod.map State.erase (List.map Staged.erase)) := by
  have henter : a.enter s.erase.clock r.row = a.traced.enter s.clock r := rfl
  have hextend : ∀ c k, a.extend c r.row (find? s.erase.groups k)
      = (a.traced.extend c r (find? s.groups k)).map Pending.erase := fun c k => by
    rw [State.erase, find?_erase]
    exact GroupBy.extend_traced _ _ _ _
  simp only [GroupingAggregation.step, henter, hextend, bind, Except.bind]
  rcases a.traced.enter s.clock r with e | ⟨c, k⟩
  · rfl
  dsimp only
  rcases a.traced.extend c r (find? s.groups k) with e | p
  · rfl
  let joined : State κ (Traced ρ) :=
    { s with groups := (s.groups.filter fun e => e.1 ≠ k) ++ [(k, p)], clock := c }
  have hjoined : { s.erase with
      groups := (s.erase.groups.filter fun e => e.1 ≠ k) ++ [(k, p.erase)], clock := c }
      = joined.erase := by
    simp only [joined, State.erase, List.map_append, List.filter_map]
    rfl
  have hkeys : (joined.groups.map (·.1)).Nodup := nodup_filter_append nodup (x := (k, p)) rfl
  have hsize : ((s.erase.groups.filter fun e => e.1 ≠ k) ++ [(k, p.erase)]).length
      = joined.groups.length := (congrArg (·.groups.length) hjoined).trans (List.length_map _)
  dsimp only [Except.map]
  rw [hjoined, hsize]
  change _ = (ite (a.threshold < joined.groups.length) (Except.ok (a.traced.flush joined))
    (Except.ok (joined, []))).map _
  split_ifs
  · rw [flush_traced horder hkeys]
    rfl
  · rfl

/-- **The stream of plain rows** is the stream of the traced ones. -/
theorem fold_traced (horder : a.Reorders) (h : a.traced.Keeps s read left held)
    (todo : List (Traced ρ)) :
    Stage.fold a.step a.finish s.erase ((todo.map (·.row)).map .ok)
      = (Stage.fold a.traced.step a.traced.finish s (todo.map .ok)).map
        (Except.map Staged.erase) := by
  have hok : ∀ out : List (Staged (Traced ρ)),
      (out.map Staged.erase).map .ok = (out.map .ok).map (Except.map (ε := Error) Staged.erase) :=
    fun out => by
      rw [List.map_map, List.map_map]
      rfl
  induction todo generalizing read left held s with
  | nil =>
    simp only [List.map_nil, Stage.fold, finish, flush_traced horder h.nodup_keys, Prod.map_snd]
    exact hok _
  | cons r todo ih =>
    simp only [List.map_cons, Stage.fold, step_traced horder h.nodup_keys]
    rcases hs : a.traced.step s r with f | ⟨s', out⟩
    · rfl
    obtain ⟨held', -, -, ⟨-, hkeeps⟩ | ⟨-, hkeeps⟩⟩ := h.step horder.traced hs
    all_goals
      simp only [Except.map, Prod.map, List.map_append, hok, ih hkeeps]

theorem stage_traced (horder : a.Reorders) (rows : List ρ) :
    a.stage.transform (rows.map .ok)
      = (a.traced.stage.transform ((Traced.input rows).map .ok)).map (Except.map Staged.erase) := by
  have := fold_traced horder a.traced.keeps_start (Traced.input rows)
  rwa [Traced.map_row_input] at this

theorem startsBy_erase {t : Instant} {items : List (Except Error (Staged (Traced ρ)))} :
    StartsBy t (items.map (Except.map Staged.erase)) ↔ StartsBy t items := by
  rcases items with _ | ⟨e | it, rest⟩ <;> exact Iff.rfl

/-- **Positions do not matter to tidiness.** -/
theorem tidyFrom_traced (horder : a.Reorders) (h : a.traced.Keeps s read left held)
    (todo : List (Traced ρ)) :
    a.traced.TidyFrom s todo ↔ a.TidyFrom s.erase (todo.map (·.row)) := by
  induction todo generalizing read left held s with
  | nil => rfl
  | cons r todo ih =>
    rw [List.map_cons, TidyFrom, TidyFrom, step_traced horder h.nodup_keys]
    rcases hs : a.traced.step s r with f | ⟨s', out⟩
    · rfl
    have hnext : (∃ next ∈ (todo.map (·.row)).head?, time next = time r.row) ↔
        ∃ next ∈ todo.head?, time next = time r := by
      cases todo <;> simp [Traced.time_eq]
    obtain ⟨held', -, -, ⟨-, hkeeps⟩ | ⟨-, hkeeps⟩⟩ := h.step horder.traced hs
    all_goals
      simp only [Except.map, Prod.map, ne_eq, List.map_eq_nil_iff, hnext, fold_traced horder hkeeps,
        startsBy_erase, ih hkeeps, Traced.time_eq r]

/-- Rows are tidy with what is noted exactly if they are without. -/
theorem tidy_traced (horder : a.Reorders) (rows : List ρ) :
    a.traced.Tidy (Traced.input rows) ↔ a.Tidy rows := by
  have := tidyFrom_traced horder a.traced.keeps_start (Traced.input rows)
  rwa [Traced.map_row_input] at this

end GroupingAggregation

/-! ## A bounded stage -/

namespace RecencyCache

variable {α β ε : Type}

/-- The cache with other values. -/
def map (f : α → β) (c : RecencyCache κ α) : RecencyCache κ β :=
  ⟨c.capacity, c.entries.map (Prod.map id f)⟩

theorem push_map (f : α → β) (c : RecencyCache κ α) (k : κ) (x : α) :
    (c.map f).push k (f x) = Prod.map (Option.map (Prod.map id f)) (map f) (c.push k x) := by
  obtain ⟨capacity, _ | ⟨oldest, rest⟩⟩ := c
  · rfl
  · simp only [map, push, List.map_cons, List.length_cons, List.length_map]
    split <;> simp [map]

variable [DecidableEq κ]

theorem get?_map (f : α → β) (c : RecencyCache κ α) (k : κ) :
    (c.map f).get? k = (c.get? k).map f := by
  rw [get?, get?, map, List.find?_map, Option.map_map, Option.map_map]
  rfl

theorem erase_map (f : α → β) (c : RecencyCache κ α) (k : κ) :
    (c.map f).erase k = (c.erase k).map f := by
  simp only [erase, map, List.filter_map]
  rfl

/-- A computation that does not tell the values apart. -/
theorem compute_map {f : α → β} {grow : Option α → Except ε α} {grow' : Option β → Except ε β}
    (h : ∀ x, grow' (x.map f) = (grow x).map f) (c : RecencyCache κ α) (k : κ) :
    (c.map f).compute k grow'
      = Prod.map (Except.map (Option.map (Prod.map id f))) (map f) (c.compute k grow) := by
  simp only [compute, get?_map, h]
  rcases grow (c.get? k) with e | x
  · exact Prod.ext rfl (erase_map f c k)
  · simp only [Except.map, erase_map, push_map]
    rfl

end RecencyCache

/-- The entries of an input, each row with its position. -/
def Traced.entries (items : List (Except Error ρ)) : List (Except Error (Traced ρ)) :=
  items.zipIdx.map fun entry => entry.1.map fun r => ⟨r, [entry.2]⟩

theorem Traced.map_row_entries (items : List (Except Error ρ)) :
    (entries items).map (Except.map (·.row)) = items := by
  rw [entries, List.map_map]
  refine (List.map_congr_left fun entry _ => ?_).trans (List.zipIdx_map_fst 0 items)
  rcases entry with ⟨_ | _, _⟩ <;> rfl

theorem Traced.map_row_inputRows (items : List (Except Error ρ)) :
    (inputRows (entries items)).map (·.row) = inputRows items := by
  rw [← inputRows_map, map_row_entries]

theorem Traced.ascending_entries [Timed ρ] {items : List (Except Error ρ)}
    (asc : Ascending (inputRows items)) : Ascending (inputRows (entries items)) := by
  rw [← map_row_inputRows] at asc
  rwa [Ascending, List.pairwise_map] at asc

/-- What is noted of a row is its place. -/
theorem Traced.mem_inputRows_entries {items : List (Except Error ρ)} {x : Traced ρ} :
    x ∈ inputRows (entries items) ↔ ∃ i r, items[i]? = some (.ok r) ∧ x = ⟨r, [i]⟩ := by
  rw [mem_inputRows, entries, List.mem_map]
  constructor
  · rintro ⟨⟨e | r, i⟩, hmem, heq⟩
    · cases heq
    · exact ⟨i, r, List.mem_zipIdx_iff_getElem?.mp hmem, (Except.ok.inj heq).symm⟩
  · rintro ⟨i, r, hi, rfl⟩
    exact ⟨(.ok r, i), List.mem_zipIdx_iff_getElem?.mpr hi, rfl⟩

/-- No position occurs twice. -/
theorem Traced.nodup_origins (items : List (Except Error ρ)) :
    ((inputRows (entries items)).flatMap (·.origins)).Nodup := by
  rw [List.nodup_flatMap]
  constructor
  · intro x hx
    obtain ⟨i, r, -, rfl⟩ := mem_inputRows_entries.mp hx
    exact List.nodup_singleton i
  have hlt : items.zipIdx.Pairwise fun x y => x.2 < y.2 := by
    have hrange := List.pairwise_lt_range' (s := 0) (n := items.length)
    rwa [← List.zipIdx_map_snd 0 items, List.pairwise_map] at hrange
  rw [inputRows, entries, List.filterMap_map, List.pairwise_filterMap]
  refine hlt.imp fun {x y} hxy tx htx ty hty => ?_
  obtain ⟨e | r, i⟩ := x
  · cases htx
  obtain ⟨e | r', j⟩ := y
  · cases hty
  obtain rfl := Option.some.inj htx
  obtain rfl := Option.some.inj hty
  simpa [Function.onFun] using hxy.ne'

namespace StreamingAggregation

/-- The stage on traced rows. -/
def traced (a : StreamingAggregation κ ρ) : StreamingAggregation κ (Traced ρ) where
  toGroupBy := a.toGroupBy.traced
  name := a.name
  buffer := a.buffer

/-- Forgets what the groups on their way out were made of. -/
def HandOff.erase (h : HandOff (Traced ρ)) : HandOff ρ := ⟨h.queue.map Pending.erase, h.overflowed⟩

/-- Forgets what the groups were made of. -/
def State.erase (s : State κ (Traced ρ)) : State κ ρ :=
  ⟨s.cache.map Pending.erase, s.handOff.erase, s.floors, s.clock⟩

variable {a : StreamingAggregation κ ρ}

/-- A queue takes in a group in the same way with what is noted. -/
theorem HandOff.offer_erase (h : HandOff (Traced ρ)) (capacity : Nat) (p : Pending (Traced ρ)) :
    h.erase.offer capacity p.erase = (h.offer capacity p).erase := by
  simp only [offer, erase, List.length_map]
  split <;> simp

theorem HandOff.foldl_offer_erase (h : HandOff (Traced ρ)) (capacity : Nat)
    (entries : List (κ × Pending (Traced ρ))) :
    (entries.map (Prod.map id Pending.erase)).foldl (fun h e => h.offer capacity e.2) h.erase
      = (entries.foldl (fun h e => h.offer capacity e.2) h).erase := by
  induction entries generalizing h with
  | nil => rfl
  | cons e entries ih =>
    rw [List.map_cons, List.foldl_cons, List.foldl_cons, ← ih, ← offer_erase]
    rfl

/-- What leaves the queue is the same without what is noted. -/
theorem drain_erase (s : State κ (Traced ρ)) :
    drain s.erase = Prod.map State.erase (List.map Staged.erase) (drain s) := by
  simp only [drain, State.erase, HandOff.erase, Floors.drain_erase]
  rfl

/-- **The end of the input** does to the plain groups what it does to the traced ones. -/
theorem finish_traced (a : StreamingAggregation κ ρ) (s : State κ (Traced ρ)) :
    a.finish s.erase = (a.traced.finish s).map (List.map Staged.erase) := by
  let emptied : State κ (Traced ρ) := { s with
    cache := s.cache.evictAll.2
    handOff := s.cache.entries.foldl (fun h e => h.offer a.bufferSize e.2) s.handOff }
  have hhandOff : s.erase.cache.entries.foldl (fun h e => h.offer a.bufferSize e.2) s.erase.handOff
      = emptied.handOff.erase := s.handOff.foldl_offer_erase a.bufferSize s.cache.entries
  simp only [StreamingAggregation.finish, RecencyCache.evictAll, hhandOff]
  change (if emptied.handOff.overflowed then _ else Except.ok (drain emptied.erase).2)
    = Except.map _ (if emptied.handOff.overflowed then _ else Except.ok (drain emptied).2)
  rw [drain_erase]
  split <;> rfl

variable [DecidableEq κ] [Timed ρ]

/-- **One row** does to the plain groups what it does to the traced ones. -/
theorem step_traced (a : StreamingAggregation κ ρ) (s : State κ (Traced ρ)) (r : Traced ρ) :
    a.step s.erase r.row
      = (a.traced.step s r).map (Prod.map State.erase (List.map Staged.erase)) := by
  have henter : a.enter s.erase.clock r.row = a.traced.enter s.clock r := rfl
  have hcompute : ∀ c k, s.erase.cache.compute k (a.extend c r.row)
      = Prod.map (Except.map (Option.map (Prod.map id Pending.erase)))
        (RecencyCache.map Pending.erase) (s.cache.compute k (a.traced.extend c r)) := fun c k =>
    RecencyCache.compute_map (GroupBy.extend_traced a.toGroupBy c r) s.cache k
  have hget : ∀ k, (s.erase.cache.get? k).isNone = (s.cache.get? k).isNone := fun k => by
    simp [State.erase, RecencyCache.get?_map]
  simp only [StreamingAggregation.step, henter, hcompute, hget, bind, Except.bind]
  rcases a.traced.enter s.clock r with e | ⟨c, k⟩
  · rfl
  dsimp only
  rcases s.cache.compute k (a.traced.extend c r) with ⟨e | evicted, cache⟩
  · rfl
  let taken : State κ (Traced ρ) := ⟨cache,
    evicted.elim s.handOff fun e => s.handOff.offer a.bufferSize e.2,
    if (s.cache.get? k).isNone then s.floors.hold c.floor else s.floors, c⟩
  have hhandOff : ((evicted.map (Prod.map id Pending.erase)).elim s.erase.handOff
      fun e => s.erase.handOff.offer a.bufferSize e.2) = taken.handOff.erase := by
    cases evicted with
    | none => rfl
    | some e => exact s.handOff.offer_erase a.bufferSize e.2
  simp only [Prod.map, Except.map, hhandOff]
  change (if taken.handOff.overflowed then _ else Except.ok (drain taken.erase))
    = Except.map _ (if taken.handOff.overflowed then _ else Except.ok (drain taken))
  rw [drain_erase]
  split <;> rfl

/-- **The stream of plain entries** is the stream of the traced ones. -/
theorem fold_traced (a : StreamingAggregation κ ρ) (s : State κ (Traced ρ))
    (items : List (Except Error (Traced ρ))) :
    Stage.fold a.step a.finish s.erase (items.map (Except.map (·.row)))
      = (Stage.fold a.traced.step a.traced.finish s items).map (Except.map Staged.erase) := by
  induction items generalizing s with
  | nil =>
    simp only [List.map_nil, Stage.fold, finish_traced]
    rcases a.traced.finish s with f | out <;> simp [Except.map]
  | cons entry items ih =>
    rcases entry with err | r
    · rfl
    simp only [List.map_cons, Except.map, Stage.fold, step_traced]
    rcases a.traced.step s r with f | ⟨s', out⟩
    · rfl
    · simp [Except.map, ih]

theorem stage_traced (a : StreamingAggregation κ ρ) (items : List (Except Error ρ)) :
    a.stage.transform items
      = (a.traced.stage.transform (Traced.entries items)).map (Except.map Staged.erase) := by
  have := a.fold_traced a.traced.start (Traced.entries items)
  rwa [Traced.map_row_entries] at this

end StreamingAggregation

end Ingest
