import Mathlib
import Ingest.Proofs.Aggregation.Merging

/-!
# Proofs/Keys — which rows have the same key

Two values without floating-point numbers have the same compact text exactly if they are equal
(`chars_inj`): a string is read back character by character (`firstChar`), an item of an array ends
where `cut` cuts it, and the first character tells the kind of a value. So a key separates exactly
the rows that differ in a grouped field (`key_eq_key_iff`). Floating-point numbers, whose texts are
shortest decimals, are left out.
-/

namespace Ingest

namespace Value

/-! ## Strings -/

/-- The value of a hexadecimal digit. -/
def hexValue (c : Char) : Nat := if c.isDigit then c.toNat - 48 else c.toNat - 87

/-- A hexadecimal digit is read back. -/
theorem hexValue_hexDigit {n : Nat} (hn : n < 16) : hexValue (hexDigit n) = n := by
  revert n
  decide

/-- The first character of what stands in quotes, and the text after it. -/
def firstChar : List Char → Option (Char × List Char)
  | [] => none
  | '"' :: _ => none
  | '\\' :: 'b' :: rest => some ('\x08', rest)
  | '\\' :: 'f' :: rest => some ('\x0c', rest)
  | '\\' :: 'n' :: rest => some ('\n', rest)
  | '\\' :: 'r' :: rest => some ('\r', rest)
  | '\\' :: 't' :: rest => some ('\t', rest)
  | '\\' :: 'u' :: _ :: _ :: high :: low :: rest =>
    some (Char.ofNat (16 * hexValue high + hexValue low), rest)
  | '\\' :: c :: rest => some (c, rest)
  | c :: rest => some (c, rest)

/-- **An escaped character is read back.** -/
theorem firstChar_escapeChar (c : Char) (rest : List Char) :
    firstChar (escapeChar c ++ rest) = some (c, rest) := by
  unfold escapeChar
  split_ifs with hquote hslash hb hf hn hr ht hlow
  · rw [hquote]; rfl
  · rw [hslash]; rfl
  · rw [hb]; rfl
  · rw [hf]; rfl
  · rw [hn]; rfl
  · rw [hr]; rfl
  · rw [ht]; rfl
  · have hchar : 16 * hexValue (hexDigit (c.toNat / 16)) + hexValue (hexDigit (c.toNat % 16)) =
        c.toNat := by
      rw [hexValue_hexDigit (by omega), hexValue_hexDigit (by omega), Nat.div_add_mod]
    change some (Char.ofNat _, rest) = _
    rw [hchar, Char.ofNat_toNat]
  · rw [List.singleton_append, firstChar]
    all_goals simp_all

/-- A string ends at its closing quote, so it can be told from what follows. -/
theorem escaped_inj {cs cs' rest rest' : List Char}
    (h : cs.flatMap escapeChar ++ '"' :: rest = cs'.flatMap escapeChar ++ '"' :: rest') :
    cs = cs' ∧ rest = rest' := by
  induction cs generalizing cs' with
  | nil =>
    cases cs' with
    | nil => exact ⟨rfl, (List.cons.inj h).2⟩
    | cons c' cs' =>
      have hread := congrArg firstChar h
      rw [List.flatMap_cons, List.append_assoc, firstChar_escapeChar] at hread
      exact nomatch hread
  | cons c cs ih =>
    have hread := congrArg firstChar h
    rw [List.flatMap_cons, List.append_assoc, firstChar_escapeChar] at hread
    cases cs' with
    | nil => exact nomatch hread
    | cons c' cs' =>
      rw [List.flatMap_cons, List.append_assoc, firstChar_escapeChar] at hread
      obtain ⟨rfl, hrest⟩ := Prod.mk.inj (Option.some.inj hread)
      obtain ⟨rfl, rfl⟩ := ih hrest
      exact ⟨rfl, rfl⟩

/-- **A quoted string ends where its text does.** -/
theorem quoteChars_append_inj {s t : String} {rest rest' : List Char}
    (h : quoteChars s ++ rest = quoteChars t ++ rest') : s = t ∧ rest = rest' := by
  simp only [quoteChars, List.cons_append, List.append_assoc, List.nil_append, List.cons.injEq,
    true_and] at h
  obtain ⟨hst, hrest⟩ := escaped_inj h
  exact ⟨String.toList_inj.mp hst, hrest⟩

/-! ## Integers -/

theorem isDigit_of_mem_toString {n : Nat} {c : Char} (h : c ∈ (toString n).toList) :
    c.isDigit = true :=
  Nat.isDigit_of_mem_toDigits (by decide) (by decide) (Nat.toList_repr (n := n) ▸ h)

/-- Integers that are written alike are the same. -/
theorem intChars_inj {m n : Int} (h : intChars m = intChars n) : m = n := by
  have hminus : ∀ (k : Nat) (l : List Char), (toString k).toList ≠ '-' :: l := fun k l hk =>
    absurd (isDigit_of_mem_toString (hk ▸ List.mem_cons_self ..)) (by decide)
  unfold intChars at h
  split_ifs at h with hm hn hn
  · have habs := Nat.repr_inj.mp (String.toList_inj.mp (List.cons.inj h).2)
    omega
  · exact absurd h.symm (hminus _ _)
  · exact absurd h (hminus _ _)
  · have habs := Nat.repr_inj.mp (String.toList_inj.mp h)
    omega

/-! ## Values

An array is told apart by its items and an object by its members, but where the text of an item ends
has to be seen from the text alone: at the first comma or bracket outside of its own brackets. -/

mutual

/-- No floating-point number occurs in a value. -/
def FloatFree : Value → Prop
  | .number (.float _) => False
  | .array items => ItemsFloatFree items
  | .object members => MembersFloatFree members
  | _ => True

/-- No floating-point number occurs in the items of an array. -/
def ItemsFloatFree : List Value → Prop
  | [] => True
  | v :: items => v.FloatFree ∧ ItemsFloatFree items

/-- No floating-point number occurs in the members of an object. -/
def MembersFloatFree : List (String × Value) → Prop
  | [] => True
  | (_, v) :: members => v.FloatFree ∧ MembersFloatFree members

end

/-- The number of a kind of values. -/
def kind : Value → Nat
  | .null => 0
  | .bool _ => 1
  | .number _ => 2
  | .string _ => 3
  | .array _ => 4
  | .object _ => 5

/-- The kind of the value whose text starts with a character. -/
def kindOf : Char → Nat
  | 'n' => 0
  | 't' | 'f' => 1
  | '"' => 3
  | '[' => 4
  | '\x7b' => 5
  | _ => 2

theorem kindOf_of_isDigit {c : Char} (h : c.isDigit = true) : kindOf c = 2 := by
  unfold kindOf
  split <;> first | rfl | exact absurd h (by decide)

/-- An integer is not empty, and its first character tells that it is a number. -/
theorem exists_intChars (n : Int) : ∃ c rest, intChars n = c :: rest ∧ kindOf c = 2 := by
  unfold intChars
  split_ifs
  · exact ⟨_, _, rfl, rfl⟩
  · cases hdigits : (toString n.natAbs).toList with
    | nil => exact absurd (Nat.toList_repr ▸ hdigits) Nat.toDigits_ne_nil
    | cons c rest =>
      have hc : c ∈ (toString n.natAbs).toList := hdigits ▸ List.mem_cons_self ..
      exact ⟨c, rest, rfl, kindOf_of_isDigit (isDigit_of_mem_toString hc)⟩

/-- **The first character tells the kind.** -/
theorem exists_chars {v : Value} (hv : v.FloatFree) :
    ∃ c rest, v.chars = c :: rest ∧ kindOf c = v.kind := by
  cases v with
  | null => exact ⟨_, _, rfl, rfl⟩
  | bool b => cases b <;> exact ⟨_, _, rfl, rfl⟩
  | number n =>
    cases n with
    | int n => exact exists_intChars n
    | float x => exact hv.elim
  | string s => exact ⟨_, _, rfl, rfl⟩
  | array items => exact ⟨_, _, rfl, rfl⟩
  | object members => exact ⟨_, _, rfl, rfl⟩

/-- The first character of a text tells the kind of its value. -/
theorem kind_eq {v w : Value} (hv : v.FloatFree) (hw : w.FloatFree) (h : v.chars = w.chars) :
    v.kind = w.kind := by
  obtain ⟨c, rest, hc, hkind⟩ := exists_chars hv
  obtain ⟨c', rest', hc', hkind'⟩ := exists_chars hw
  obtain ⟨rfl, -⟩ := List.cons.inj (hc.symm.trans (h.trans hc'))
  exact hkind.symm.trans hkind'

/-- A text in which an item has come to its end. -/
def Closed : List Char → Prop
  | [] => True
  | c :: _ => (Place.outside 0).ends c = true

/-- **A value ends where its text does.** -/
theorem chars_append_inj {v w : Value} {rest rest' : List Char} (hrest : Closed rest)
    (hrest' : Closed rest') (h : v.chars ++ rest = w.chars ++ rest') :
    v.chars = w.chars ∧ rest = rest' := by
  have hcut : ∀ (v : Value) (rest : List Char), Closed rest →
      cut (.outside 0) (v.chars ++ rest) = v.chars := by
    intro v rest hrest
    rw [passes_chars 0 v]
    cases rest with
    | nil => exact List.append_nil _
    | cons c rest =>
      have hends : (Place.outside 0).ends c = true := hrest
      rw [cut, if_pos hends, List.append_nil]
  have hchars : v.chars = w.chars := by rw [← hcut v rest hrest, h, hcut w rest' hrest']
  rw [hchars] at h
  exact ⟨hchars, List.append_cancel_left h⟩

/-- The texts of the further items of an array. -/
def furtherItems : List Value → List Char
  | [] => []
  | v :: items => ',' :: itemsChars (v :: items)

/-- A list is its first item and the further ones. -/
theorem itemsChars_cons (v : Value) (items : List Value) :
    itemsChars (v :: items) = v.chars ++ furtherItems items := by
  cases items with
  | nil => exact (List.append_nil _).symm
  | cons w items => rfl

/-- The texts of the further members of an object. -/
def furtherMembers : List (String × Value) → List Char
  | [] => []
  | m :: members => ',' :: membersChars (m :: members)

/-- An object is its first member and the further ones. -/
theorem membersChars_cons (k : String) (v : Value) (members : List (String × Value)) :
    membersChars ((k, v) :: members) =
      quoteChars k ++ ':' :: (v.chars ++ furtherMembers members) := by
  cases members with
  | nil => simp [membersChars, furtherMembers]
  | cons m members => simp [membersChars, furtherMembers]

/-- What follows an item cannot go on with it. -/
theorem closed_furtherItems (items : List Value) : Closed (furtherItems items) := by
  cases items with
  | nil => exact trivial
  | cons v items => rfl

/-- What follows a member cannot go on with it. -/
theorem closed_furtherMembers (members : List (String × Value)) :
    Closed (furtherMembers members) := by
  cases members with
  | nil => exact trivial
  | cons m members => rfl

theorem itemsChars_of_further {vs ws : List Value} (h : furtherItems vs = furtherItems ws) :
    itemsChars vs = itemsChars ws := by
  cases vs <;> cases ws
  · rfl
  · exact nomatch h
  · exact nomatch h
  · exact (List.cons.inj h).2

theorem membersChars_of_further {ms ms' : List (String × Value)}
    (h : furtherMembers ms = furtherMembers ms') : membersChars ms = membersChars ms' := by
  cases ms <;> cases ms'
  · rfl
  · exact nomatch h
  · exact nomatch h
  · exact (List.cons.inj h).2

theorem itemsChars_ne_nil {v : Value} (hv : v.FloatFree) (vs : List Value) :
    itemsChars (v :: vs) ≠ [] := by
  obtain ⟨c, rest, hc, -⟩ := exists_chars hv
  rw [itemsChars_cons, hc]
  exact List.cons_ne_nil _ _

theorem membersChars_ne_nil (m : String × Value) (ms : List (String × Value)) :
    membersChars (m :: ms) ≠ [] := by
  rw [membersChars_cons]
  exact List.cons_ne_nil _ _

mutual

/-- **Values without floating-point numbers are told apart by their texts.** -/
theorem chars_inj : (v : Value) → v.FloatFree → (w : Value) → w.FloatFree → v.chars = w.chars →
    v = w
  | .null, hv, w, hw, h => by
    cases w with
    | null => rfl
    | _ => exact nomatch kind_eq hv hw h
  | .bool b, hv, w, hw, h => by
    cases w with
    | bool b' => cases b <;> cases b' <;> first | rfl | exact nomatch h
    | _ => exact nomatch kind_eq hv hw h
  | .number n, hv, w, hw, h => by
    cases w with
    | number n' =>
      cases n with
      | float x => exact hv.elim
      | int n =>
        cases n' with
        | float x => exact hw.elim
        | int n' => rw [intChars_inj h]
    | _ => exact nomatch kind_eq hv hw h
  | .string s, hv, w, hw, h => by
    cases w with
    | string s' =>
      have hquoted : quoteChars s ++ [] = quoteChars s' ++ [] := congrArg (· ++ []) h
      rw [(quoteChars_append_inj hquoted).1]
    | _ => exact nomatch kind_eq hv hw h
  | .array items, hv, w, hw, h => by
    cases w with
    | array items' =>
      rw [chars, chars, List.cons.injEq, List.append_left_inj] at h
      exact congrArg _ (itemsChars_inj items hv items' hw h.2)
    | _ => exact nomatch kind_eq hv hw h
  | .object members, hv, w, hw, h => by
    cases w with
    | object members' =>
      rw [chars, chars, List.cons.injEq, List.append_left_inj] at h
      exact congrArg _ (membersChars_inj members hv members' hw h.2)
    | _ => exact nomatch kind_eq hv hw h

/-- Lists that are written alike are the same. -/
theorem itemsChars_inj : (vs : List Value) → ItemsFloatFree vs → (ws : List Value) →
    ItemsFloatFree ws → itemsChars vs = itemsChars ws → vs = ws
  | [], _, [], _, _ => rfl
  | [], _, w :: ws, hws, h => absurd h.symm (itemsChars_ne_nil hws.1 ws)
  | v :: vs, hvs, [], _, h => absurd h (itemsChars_ne_nil hvs.1 vs)
  | v :: vs, hvs, w :: ws, hws, h => by
    rw [itemsChars_cons, itemsChars_cons] at h
    obtain ⟨hchars, hrest⟩ :=
      chars_append_inj (closed_furtherItems vs) (closed_furtherItems ws) h
    rw [chars_inj v hvs.1 w hws.1 hchars,
      itemsChars_inj vs hvs.2 ws hws.2 (itemsChars_of_further hrest)]

/-- Objects that are written alike are the same. -/
theorem membersChars_inj : (ms : List (String × Value)) → MembersFloatFree ms →
    (ms' : List (String × Value)) → MembersFloatFree ms' → membersChars ms = membersChars ms' →
    ms = ms'
  | [], _, [], _, _ => rfl
  | [], _, m' :: ms', _, h => absurd h.symm (membersChars_ne_nil m' ms')
  | m :: ms, _, [], _, h => absurd h (membersChars_ne_nil m ms)
  | (k, v) :: ms, hms, (k', v') :: ms', hms', h => by
    rw [membersChars_cons, membersChars_cons] at h
    obtain ⟨hk, hvalue⟩ := quoteChars_append_inj h
    obtain ⟨hchars, hrest⟩ := chars_append_inj (closed_furtherMembers ms)
      (closed_furtherMembers ms') (List.cons.inj hvalue).2
    rw [hk, chars_inj v hms.1 v' hms'.1 hchars,
      membersChars_inj ms hms.2 ms' hms'.2 (membersChars_of_further hrest)]

end

end Value

namespace FieldAggregation

/-- **A key separates exactly the rows that differ in a grouped field**, as long as no
floating-point number occurs there; a missing field counts as null. -/
theorem key_eq_key_iff (a : FieldAggregation) {r s : Row}
    (hr : ∀ f ∈ a.groupBy, (r.valueAt f).FloatFree)
    (hs : ∀ f ∈ a.groupBy, (s.valueAt f).FloatFree) :
    a.key r = a.key s ↔ ∀ f ∈ a.groupBy, r.valueAt f = s.valueAt f := by
  rw [key_eq_iff]
  refine forall₂_congr fun f hf => ⟨fun h => ?_, fun h => by rw [h]⟩
  exact Value.chars_inj _ (hr f hf) _ (hs f hf) h

/-- A row of two grouped fields. -/
def taggedRow (id tags : Value) : Row := ⟨.epoch, .ofList [("id", id), ("tags", tags)]⟩

/-- The number 1 is not the text 1, and a comma in a string separates no items. -/
theorem key_eq_key_iff_tagged :
    let a : FieldAggregation := { groupBy := ["id", "tags", "missing"] }
    let r := taggedRow (.ofInt 1) (.array [.string "a,b", .null])
    let s := taggedRow (.string "1") (.array [.string "a", .string "b", .null])
    (∀ f ∈ a.groupBy, (r.valueAt f).FloatFree) ∧ (∀ f ∈ a.groupBy, (s.valueAt f).FloatFree) ∧
      (a.key r = a.key s ↔ ∀ f ∈ a.groupBy, r.valueAt f = s.valueAt f) := by
  intro a r s
  have hr : ∀ f ∈ a.groupBy, (r.valueAt f).FloatFree := by
    intro f hf
    obtain rfl | rfl | rfl : f = "id" ∨ f = "tags" ∨ f = "missing" := by simpa [a] using hf
    · exact trivial
    · exact ⟨trivial, trivial, trivial⟩
    · exact trivial
  have hs : ∀ f ∈ a.groupBy, (s.valueAt f).FloatFree := by
    intro f hf
    obtain rfl | rfl | rfl : f = "id" ∨ f = "tags" ∨ f = "missing" := by simpa [a] using hf
    · exact trivial
    · exact ⟨trivial, trivial, trivial, trivial⟩
    · exact trivial
  exact ⟨hr, hs, key_eq_key_iff a hr hs⟩

example : key { groupBy := ["id", "tags"] } (taggedRow (.ofInt 1) (.array [.string "a,b"])) =
    "[1,[\"a,b\"]]" := by
  decide +kernel

end FieldAggregation

end Ingest
