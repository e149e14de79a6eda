import Ingest.Value.Text
import Mathlib.Data.List.Basic

/-!
# Proofs/Value/Items — the text of an array tells its items apart

Reading compact text from the left, one knows whether one is inside a string and how deep in
brackets (`Place`), so an item of an array ends at the first comma or bracket that is neither in a
string nor in brackets of its own (`cut`). Main statement: `itemsChars_eq_iff` — two arrays of one
length have the same text exactly if their items have, one by one.
-/

namespace Ingest.Value

/-! ## Reading from the left -/

/-- Where a reader of compact text is. -/
inductive Place where
  /-- Outside of strings, in so many brackets. -/
  | outside (depth : Nat)
  /-- In a string. -/
  | inside (depth : Nat)
  /-- In a string, after a backslash. -/
  | escaped (depth : Nat)

namespace Place

/-- The place after one more character. -/
def next : Place → Char → Place
  | outside d, c =>
    if c = '"' then inside d
    else if c = '[' ∨ c = '\x7b' then outside (d + 1)
    else if c = ']' ∨ c = '\x7d' then outside (d - 1)
    else outside d
  | inside d, c => if c = '"' then outside d else if c = '\\' then escaped d else inside d
  | escaped d, _ => inside d

/-- Whether an item ends before a character. -/
def ends : Place → Char → Bool
  | outside 0, c => c = ',' ∨ c = ']' ∨ c = '\x7d'
  | _, _ => false

end Place

/-- The text up to where the item ends. -/
def cut : Place → List Char → List Char
  | _, [] => []
  | p, c :: rest => if p.ends c then [] else c :: cut (p.next c) rest

/-- Reading the text `l` leads from one place to another, and no item ends on the way. -/
def Passes (p : Place) (l : List Char) (p' : Place) : Prop :=
  ∀ rest, cut p (l ++ rest) = l ++ cut p' rest

section Passes

variable {p p' p'' : Place} {l l' : List Char} {c : Char} {d : Nat}

theorem Passes.nil : Passes p [] p := fun _ => rfl

/-- Two texts that are passed in a row are passed together. -/
theorem Passes.append (h : Passes p l p') (h' : Passes p' l' p'') : Passes p (l ++ l') p'' :=
  fun rest => by rw [List.append_assoc, h, h', List.append_assoc]

/-- A character that does not end the item is passed. -/
theorem Passes.cons (hc : p.ends c = false) (h : Passes (p.next c) l p') : Passes p (c :: l) p' :=
  fun rest => by rw [List.cons_append, cut, hc, h]; rfl

/-- A character without a meaning outside of strings. -/
def Plain (c : Char) : Prop := c ∉ ['"', ',', '[', ']', '\x7b', '\x7d']

instance (c : Char) : Decidable (Plain c) := inferInstanceAs (Decidable (_ ∉ _))

theorem plain_of_all (h : (l.all fun c => Plain c) = true) : ∀ c ∈ l, Plain c := by
  simpa using h

/-- A digit is plain. -/
theorem plain_of_isDigit (h : c.isDigit = true) : Plain c := by
  intro hmem
  simp only [List.mem_cons, List.not_mem_nil, or_false] at hmem
  rcases hmem with rfl | rfl | rfl | rfl | rfl | rfl <;> exact absurd h (by decide)

/-- Plain text outside of quotes is passed. -/
theorem passes_plain (h : ∀ c ∈ l, Plain c) : Passes (.outside d) l (.outside d) := by
  induction l with
  | nil => exact .nil
  | cons c l ih =>
    obtain ⟨hc, hl⟩ := List.forall_mem_cons.mp h
    simp only [Plain, List.mem_cons, List.not_mem_nil, or_false, not_or] at hc
    refine .cons ?_ ?_
    · cases d <;> simp [Place.ends, hc]
    · simpa [Place.next, hc] using ih hl

/-! ## Strings -/

/-- A hexadecimal digit is neither a quote nor a backslash. -/
theorem hexDigit_ne {n : Nat} (hn : n < 16) : hexDigit n ≠ '"' ∧ hexDigit n ≠ '\\' := by
  revert n
  decide

/-- Text inside of quotes is passed if it has neither a quote nor a backslash. -/
theorem passes_inside (h : ∀ c ∈ l, c ≠ '"' ∧ c ≠ '\\') : Passes (.inside d) l (.inside d) := by
  induction l with
  | nil => exact .nil
  | cons c l ih =>
    obtain ⟨⟨hquote, hslash⟩, hl⟩ := List.forall_mem_cons.mp h
    exact .cons rfl (by simpa [Place.next, hquote, hslash] using ih hl)

/-- An escaped character is passed inside of quotes, whatever it is. -/
theorem passes_escape (d : Nat) (c : Char) : Passes (.inside d) ['\\', c] (.inside d) :=
  .cons rfl (.cons rfl .nil)

/-- A character as it is written in a string is passed. -/
theorem passes_escapeChar (d : Nat) (c : Char) : Passes (.inside d) (escapeChar c) (.inside d) := by
  unfold escapeChar
  split_ifs with hquote hslash _ _ _ _ _ hlow
  all_goals try exact passes_escape d _
  · have hhigh := hexDigit_ne (n := c.toNat / 16) (by omega)
    have hmod := hexDigit_ne (n := c.toNat % 16) (by omega)
    refine (passes_escape d 'u').append (passes_inside (l := ['0', '0', _, _]) ?_)
    simp [hhigh, hmod]
  · exact passes_inside (by simp [hquote, hslash])

/-- A string is passed with its quotes. -/
theorem passes_quoteChars (d : Nat) (s : String) :
    Passes (.outside d) (quoteChars s) (.outside d) := by
  have hchars : ∀ cs : List Char, Passes (.inside d) (cs.flatMap escapeChar) (.inside d) := by
    intro cs
    induction cs with
    | nil => exact .nil
    | cons c cs ih => exact (passes_escapeChar d c).append ih
  have hquote : Passes (.inside d) ['"'] (.outside d) := .cons rfl .nil
  refine .cons ?_ ((hchars s.toList).append hquote)
  cases d <;> rfl

/-! ## Numbers -/

theorem plain_toString (n : Nat) : ∀ c ∈ (toString n).toList, Plain c := fun c hc =>
  plain_of_isDigit <|
    Nat.isDigit_of_mem_toDigits (by decide) (by decide) (Nat.toList_repr (n := n) ▸ hc)

/-- An integer is written in plain text. -/
theorem plain_intChars (n : Int) : ∀ c ∈ intChars n, Plain c := by
  unfold intChars
  split_ifs
  · exact List.forall_mem_cons.mpr ⟨by decide, plain_toString _⟩
  · exact plain_toString _

theorem plain_zeros (n : Nat) : ∀ c ∈ List.replicate n '0', Plain c := fun c hc =>
  List.eq_of_mem_replicate hc ▸ (by decide)

/-- Digits with a point are plain. -/
theorem plain_positional {ds : List Char} (hds : ∀ c ∈ ds, Plain c) (point : Int) :
    ∀ c ∈ Decimal.positional ds point, Plain c := by
  unfold Decimal.positional
  dsimp only
  split_ifs <;> simp only [List.forall_mem_append, List.forall_mem_cons]
  · exact ⟨by decide, by decide, plain_zeros _, hds⟩
  · exact ⟨⟨hds, plain_zeros _⟩, by decide, by decide, by simp⟩
  · exact ⟨fun c hc => hds c (List.mem_of_mem_take hc), by decide,
      fun c hc => hds c (List.mem_of_mem_drop hc)⟩

/-- Digits with an exponent are plain. -/
theorem plain_scientific {ds : List Char} (hds : ∀ c ∈ ds, Plain c) (exponent : Int) :
    ∀ c ∈ Decimal.scientific ds exponent, Plain c := by
  unfold Decimal.scientific
  dsimp only
  rw [List.forall_mem_append]
  constructor
  · rcases ds with _ | ⟨d, rest⟩
    · simp
    · obtain ⟨hd, hrest⟩ := List.forall_mem_cons.mp hds
      dsimp only
      split_ifs <;> simp only [List.forall_mem_cons]
      · exact ⟨hd, by simp⟩
      · exact ⟨hd, by decide, hrest⟩
  · simp only [List.forall_mem_cons]
    refine ⟨by decide, ?_, plain_toString _⟩
    split_ifs <;> decide

/-- A float is written in plain text. -/
theorem plain_layout (layout : Decimal.Layout) (x : Float) : ∀ c ∈ layout.chars x, Plain c := by
  have hsign : ∀ c ∈ (if Decimal.isNegative x then ['-'] else []), Plain c := by
    split_ifs <;> exact plain_of_all rfl
  unfold Decimal.Layout.chars
  dsimp only
  generalize (if Decimal.isNegative x then ['-'] else []) = sign at hsign ⊢
  split
  · exact List.forall_mem_append.mpr ⟨hsign, plain_of_all rfl⟩
  split_ifs
  · exact List.forall_mem_append.mpr ⟨hsign, plain_positional (plain_toString _) _⟩
  · exact List.forall_mem_append.mpr ⟨hsign, plain_scientific (plain_toString _) _⟩

/-- A number is written in plain text. -/
theorem plain_number (n : Number) : ∀ c ∈ n.chars, Plain c := by
  rcases n with n | x
  · exact plain_intChars n
  · unfold Number.chars
    dsimp only
    split_ifs
    · exact plain_layout _ x
    · exact plain_of_all rfl

end Passes

/-! ## Values -/

/-- What stands in brackets is passed with them. -/
theorem passes_bracket {l : List Char} {opening closing : Char} {d : Nat}
    (hends : (Place.outside d).ends opening = false)
    (hopen : (Place.outside d).next opening = .outside (d + 1))
    (hclose : (Place.outside (d + 1)).next closing = .outside d)
    (h : Passes (.outside (d + 1)) l (.outside (d + 1))) :
    Passes (.outside d) (opening :: (l ++ [closing])) (.outside d) := by
  refine .cons hends ?_
  rw [hopen]
  refine h.append (.cons rfl ?_)
  rw [hclose]
  exact .nil

/-- A comma inside of brackets is passed. -/
theorem passes_comma (d : Nat) : Passes (.outside (d + 1)) [','] (.outside (d + 1)) :=
  .cons rfl .nil

mutual

/-- No item ends inside of a value. -/
theorem passes_chars (d : Nat) : (v : Value) → Passes (.outside d) v.chars (.outside d)
  | .null => passes_plain (plain_of_all rfl)
  | .bool true => passes_plain (plain_of_all rfl)
  | .bool false => passes_plain (plain_of_all rfl)
  | .number n => passes_plain (plain_number n)
  | .string s => passes_quoteChars d s
  | .array items => passes_bracket (by cases d <;> rfl) rfl rfl (passes_itemsChars d items)
  | .object members => passes_bracket (by cases d <;> rfl) rfl rfl (passes_membersChars d members)

/-- The items of a list are passed. -/
theorem passes_itemsChars (d : Nat) :
    (items : List Value) → Passes (.outside (d + 1)) (itemsChars items) (.outside (d + 1))
  | [] => .nil
  | [v] => passes_chars (d + 1) v
  | v :: w :: rest => (passes_chars (d + 1) v).append
      ((passes_comma d).append (passes_itemsChars d (w :: rest)))

/-- The members of an object are passed. -/
theorem passes_membersChars (d : Nat) : (members : List (String × Value)) →
    Passes (.outside (d + 1)) (membersChars members) (.outside (d + 1))
  | [] => .nil
  | [(k, v)] => (passes_quoteChars (d + 1) k).append
      ((passes_plain (l := [':']) (plain_of_all rfl)).append (passes_chars (d + 1) v))
  | (k, v) :: m :: rest => ((passes_quoteChars (d + 1) k).append
      ((passes_plain (l := [':']) (plain_of_all rfl)).append (passes_chars (d + 1) v))).append
        ((passes_comma d).append (passes_membersChars d (m :: rest)))

end

/-- An item ends where its text does. -/
theorem cut_chars (v : Value) (rest : List Char) :
    cut (.outside 0) (v.chars ++ ',' :: rest) = v.chars := by
  rw [passes_chars 0 v, cut, if_pos (by rfl), List.append_nil]

/-- **The text of an array tells its items apart.** -/
theorem itemsChars_eq_iff {vs ws : List Value} (h : vs.length = ws.length) :
    itemsChars vs = itemsChars ws ↔ vs.map chars = ws.map chars := by
  induction vs generalizing ws with
  | nil =>
    obtain rfl := List.length_eq_zero_iff.mp h.symm
    simp
  | cons v vs ih =>
    obtain ⟨w, ws, rfl⟩ := List.exists_cons_of_length_pos (h ▸ Nat.succ_pos _ : 0 < ws.length)
    have hlength : vs.length = ws.length := by simpa using h
    rcases vs with _ | ⟨v', vs⟩ <;> rcases ws with _ | ⟨w', ws⟩
    · simp [itemsChars]
    · cases hlength
    · cases hlength
    rw [List.map_cons, List.map_cons (l := w' :: ws), List.cons_eq_cons, ← ih hlength, itemsChars,
      itemsChars]
    refine ⟨fun heq => ?_, fun ⟨hv, hvs⟩ => by rw [hv, hvs]⟩
    have hv : v.chars = w.chars := by
      rw [← cut_chars v, heq, cut_chars]
    rw [hv, List.append_cancel_left_eq, List.cons.injEq] at heq
    exact ⟨hv, heq.2⟩

end Ingest.Value
