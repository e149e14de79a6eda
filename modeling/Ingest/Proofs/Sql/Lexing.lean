import Ingest.Sql.Parameters
import Mathlib.Data.List.Basic

/-!
# Proofs/Sql/Lexing — where the quotes and the names of a query are

Whether a place of a text is quoted depends on the quotes before it (`quoteAfter`), and whether a
colon there is a half of a cast on the colons just before it. So a named parameter can be told at
its place, without cutting up the text (`NamedAt`). What the lexemes of a text are is said once,
with one case for each kind of lexeme (`Lexes`). Main statement: `namedAt_iff` — the parameters
among the lexemes are those of the text, at their places.
-/

namespace Ingest.Sql

/-! ## Quotes -/

/-- Whether a character opens a quoted text. -/
def IsQuote (c : Char) : Prop := c = '\'' ∨ c = '"'

instance (c : Char) : Decidable (IsQuote c) := inferInstanceAs (Decidable (_ ∨ _))

/-- The quote that is open after one more character. -/
def quoteAfter (quote : Option Char) (c : Char) : Option Char :=
  match quote with
  | some q => if c = q then none else some q
  | none => if IsQuote c then some c else none

variable {quote : Option Char} {c : Char} {cs rest name before after pre : List Char}
  {l : Lexeme} {ls : List Lexeme}

theorem quoteAfter_none (hc : ¬IsQuote c) : quoteAfter none c = none := if_neg hc

/-- Text without quotes opens none. -/
theorem foldl_quoteAfter_none (hcs : ∀ c ∈ cs, ¬IsQuote c) : cs.foldl quoteAfter none = none := by
  induction cs with
  | nil => rfl
  | cons c cs ih =>
    obtain ⟨hc, hcs⟩ := List.forall_mem_cons.mp hcs
    rw [List.foldl_cons, quoteAfter_none hc, ih hcs]

/-- Only a quote can be open. -/
theorem isQuote_of_foldl {q : Char} (h : cs.foldl quoteAfter none = some q) : IsQuote q := by
  have hall : ∀ q ∈ cs.foldl quoteAfter none, IsQuote q := by
    refine List.foldlRecOn (motive := fun quote => ∀ q ∈ quote, IsQuote q) cs _ (by simp) ?_
    intro quote ih c _ q hq
    rcases quote with _ | open'
    · by_cases hc : IsQuote c
      · simp only [quoteAfter, if_pos hc, Option.mem_some] at hq
        exact hq ▸ hc
      · simp [quoteAfter, hc] at hq
    · by_cases hc : c = open'
      · simp [quoteAfter, hc] at hq
      · simp only [quoteAfter, if_neg hc] at hq
        exact ih q hq
  exact hall q h

/-- The number of colons at the end of a text. -/
def colonsAtEnd (cs : List Char) : Nat := (cs.reverse.takeWhile (· = ':')).length

theorem colonsAtEnd_append_colon (cs : List Char) :
    colonsAtEnd (cs ++ [':']) = colonsAtEnd cs + 1 := by
  simp [colonsAtEnd]

theorem colonsAtEnd_append_of_ne (cs : List Char) (hc : c ≠ ':') :
    colonsAtEnd (cs ++ [c]) = 0 := by
  simp [colonsAtEnd, hc]

/-! ## Names -/

theorem takeWhile_append_of_head {α : Type} {p : α → Bool} {xs ys : List α}
    (hxs : ∀ x ∈ xs, p x) (hys : ∀ y ∈ ys.head?, p y = false) :
    (xs ++ ys).takeWhile p = xs := by
  rw [List.takeWhile_append_of_pos hxs]
  cases ys with
  | nil => exact List.append_nil xs
  | cons y ys => simp [hys y rfl]

/-- What may begin a name may go on with it. -/
theorem isNameChar_of_isNameStart (h : isNameStart c) : isNameChar c := by
  simp only [isNameStart, Bool.or_eq_true] at h
  simp only [isNameChar, Char.isAlphanum, Bool.or_eq_true]
  exact h.imp .inl id

/-- Whether the characters are a plain identifier. -/
def IsName (name : List Char) : Prop := isIdentifier (String.ofList name)

/-- A name begins with a letter or an underscore and may go on with digits. -/
theorem isName_cons : IsName (c :: rest) ↔ isNameStart c ∧ ∀ d ∈ rest, isNameChar d := by
  simp [IsName, isIdentifier]

theorem not_isName_nil : ¬IsName [] := by simp [IsName, isIdentifier]

/-- A name is not empty. -/
theorem IsName.exists_cons (h : IsName name) :
    ∃ c rest, name = c :: rest ∧ isNameStart c := by
  cases name with
  | nil => exact absurd h not_isName_nil
  | cons c rest => exact ⟨c, rest, rfl, (isName_cons.mp h).1⟩

/-- A name has nothing but characters of names. -/
theorem IsName.isNameChar (h : IsName name) : ∀ c ∈ name, isNameChar c := by
  cases name with
  | nil => simp
  | cons c rest =>
    obtain ⟨hc, hrest⟩ := isName_cons.mp h
    exact List.forall_mem_cons.mpr ⟨isNameChar_of_isNameStart hc, hrest⟩

theorem IsName.ne_colon (h : IsName name) : ∀ c ∈ name, c ≠ ':' := by
  rintro c hc rfl
  exact absurd (h.isNameChar _ hc) (by decide)

/-- There is no quote in a name. -/
theorem IsName.not_isQuote (h : IsName name) : ∀ c ∈ name, ¬IsQuote c := by
  rintro c hc (rfl | rfl) <;> exact absurd (h.isNameChar _ hc) (by decide)

/-- What follows a name does not go on with it. -/
def Ends (after : List Char) : Prop := ∀ c ∈ after.head?, isNameChar c = false

/-- A name ends at one place. -/
theorem IsName.append_inj (h : IsName name) {name' : List Char} (h' : IsName name')
    (hrest : Ends rest) (hafter : Ends after) (heq : name ++ rest = name' ++ after) :
    name = name' ∧ rest = after := by
  have hname : name = name' := by
    rw [← takeWhile_append_of_head h.isNameChar hrest, heq,
      takeWhile_append_of_head h'.isNameChar hafter]
  subst hname
  exact ⟨rfl, List.append_cancel_left heq⟩

/-! ## Lexemes -/

/-- The lexemes of a text, if `quote` is open at its start. -/
inductive Lexes : Option Char → List Char → List Lexeme → Prop where
  | done (quote : Option Char) : Lexes quote [] []
  | inside {q c : Char} {rest : List Char} {ls : List Lexeme}
      (h : Lexes (quoteAfter (some q) c) rest ls) : Lexes (some q) (c :: rest) (.quoted c :: ls)
  | opens {c : Char} {rest : List Char} {ls : List Lexeme} (hc : IsQuote c)
      (h : Lexes (some c) rest ls) : Lexes none (c :: rest) (.quoted c :: ls)
  | cast {rest : List Char} {ls : List Lexeme} (h : Lexes none rest ls) :
      Lexes none (':' :: ':' :: rest) (.cast :: ls)
  | parameter {name rest : List Char} {ls : List Lexeme} (hname : IsName name) (hrest : Ends rest)
      (h : Lexes none rest ls) : Lexes none (':' :: (name ++ rest)) (.parameter name :: ls)
  | plain {c : Char} {rest : List Char} {ls : List Lexeme} (hc : ¬IsQuote c)
      (hcolon : c = ':' → ∀ d ∈ rest.head?, d ≠ ':' ∧ isNameStart d = false)
      (h : Lexes none rest ls) : Lexes none (c :: rest) (.plain c :: ls)

/-- A name start starts a name. -/
theorem exists_name (h : rest.head?.any isNameStart) :
    ∃ name after, rest = name ++ after ∧ IsName name ∧ Ends after := by
  obtain ⟨c, cs, rfl⟩ : ∃ c cs, rest = c :: cs := by
    cases rest with
    | nil => cases h
    | cons c cs => exact ⟨c, cs, rfl⟩
  refine ⟨c :: cs.takeWhile isNameChar, cs.dropWhile isNameChar, ?_, ?_, fun d hd => ?_⟩
  · rw [List.cons_append, List.takeWhile_append_dropWhile]
  · exact isName_cons.mpr ⟨h, List.all_eq_true.mp List.all_takeWhile⟩
  · have hnot := List.head?_dropWhile_not isNameChar cs
    rw [Option.mem_def.mp hd] at hnot
    simpa using hnot

/-- **The lexemes** of a text are those that it is cut into. -/
theorem lexes_lexemes (quote : Option Char) (cs : List Char) :
    Lexes quote cs (lexemes quote cs) := by
  induction quote, cs using lexemes.induct with
  | case1 quote =>
    rw [lexemes]
    exact .done quote
  | case2 q c rest ih =>
    rw [lexemes]
    exact .inside ih
  | case3 rest ih =>
    rw [lexemes]
    exact .cast ih
  | case4 c rest hcast hquote ih =>
    rw [lexemes.eq_4 _ _ hcast, if_pos hquote]
    exact .opens hquote ih
  | case5 c rest hcast hquote name hname ih =>
    rw [lexemes.eq_4 _ _ hcast, if_neg hquote]
    simp only [if_pos hname]
    obtain ⟨hc, hstart⟩ := hname
    subst hc
    obtain ⟨name', after, hrest, hname', hafter⟩ := exists_name hstart
    have htake : rest.takeWhile isNameChar = name' := by
      rw [hrest, takeWhile_append_of_head hname'.isNameChar hafter]
    have hdrop : rest.drop (rest.takeWhile isNameChar).length = after := by
      rw [htake, hrest, List.drop_left]
    change Lexes none (rest.drop (rest.takeWhile isNameChar).length) _ at ih
    rw [hdrop] at ih ⊢
    rw [htake, hrest]
    exact .parameter hname' hafter ih
  | case6 c rest hcast hquote hname ih =>
    rw [lexemes.eq_4 _ _ hcast, if_neg hquote]
    simp only [if_neg hname]
    refine .plain hquote (fun hc d hd => ⟨?_, ?_⟩) ih
    · rintro rfl
      exact hcast rest.tail hc (List.cons_head?_tail hd).symm
    · rw [not_and, Option.mem_def.mp hd] at hname
      simpa using hname hc

/-- Lexemes hold every character. -/
theorem Lexes.flatMap_chars (h : Lexes quote cs ls) : ls.flatMap Lexeme.chars = cs := by
  induction h with
  | done => rfl
  | inside _ ih => rw [List.flatMap_cons, ih]; rfl
  | opens _ _ ih => rw [List.flatMap_cons, ih]; rfl
  | cast _ ih => rw [List.flatMap_cons, ih]; rfl
  | parameter _ _ _ ih => rw [List.flatMap_cons, ih]; rfl
  | plain _ _ _ ih => rw [List.flatMap_cons, ih]; rfl

/-! ## Places -/

/-- A text has a colon and a name outside quotes, between `before` and `after`. The colon is not a
half of a cast: those before it make pairs. The name is as long as it can be. -/
structure NamedAt (cs before name after : List Char) : Prop where
  text : cs = before ++ ':' :: (name ++ after)
  unquoted : before.foldl quoteAfter none = none
  single : colonsAtEnd before % 2 = 0
  isName : IsName name
  ends : Ends after

/-- The text around a name. -/
theorem NamedAt.text_eq (h : NamedAt (pre ++ rest) (pre ++ before) name after) :
    rest = before ++ ':' :: (name ++ after) :=
  List.append_cancel_left (h.text.trans (List.append_assoc _ _ _))

/-- What was read may be counted as read or not. -/
theorem NamedAt.read {xs : List Char}
    (h : NamedAt (pre ++ (xs ++ rest)) (pre ++ (xs ++ before)) name after) :
    NamedAt (pre ++ xs ++ rest) (pre ++ xs ++ before) name after := by
  rwa [List.append_assoc, List.append_assoc]

theorem NamedAt.unread {xs : List Char}
    (h : NamedAt (pre ++ xs ++ rest) (pre ++ xs ++ before) name after) :
    NamedAt (pre ++ (xs ++ rest)) (pre ++ (xs ++ before)) name after := by
  rwa [List.append_assoc, List.append_assoc] at h

/-- Between two lexemes: `pre` was read, `quote` is open, and a colon that follows is the first of
its cast. -/
structure Stands (pre : List Char) (quote : Option Char) (rest : List Char) : Prop where
  opened : pre.foldl quoteAfter none = quote
  single : quote = none → rest.head? = some ':' → colonsAtEnd pre % 2 = 0

/-- A character inside of quotes is read. -/
theorem Stands.inside {q : Char} (h : Stands pre (some q) (c :: rest)) :
    Stands (pre ++ [c]) (quoteAfter (some q) c) rest where
  opened := by rw [List.foldl_append, h.opened]; rfl
  single hnone _ := by
    have hq : c = q := by
      by_contra hne
      simp [quoteAfter, hne] at hnone
    have hc : c ≠ ':' := by
      rintro rfl
      exact absurd (hq ▸ isQuote_of_foldl h.opened) (by decide)
    rw [colonsAtEnd_append_of_ne pre hc]

/-- A quote is opened. -/
theorem Stands.opens (h : Stands pre none (c :: rest)) (hc : IsQuote c) :
    Stands (pre ++ [c]) (some c) rest where
  opened := by rw [List.foldl_append, h.opened]; exact if_pos hc
  single hnone := by cases hnone

/-- Two colons are read together. -/
theorem Stands.cast (h : Stands pre none (':' :: ':' :: rest)) :
    Stands (pre ++ [':', ':']) none rest where
  opened := by rw [List.foldl_append, h.opened]; rfl
  single _ _ := by
    have hpre := h.single rfl rfl
    rw [List.append_cons, colonsAtEnd_append_colon, colonsAtEnd_append_colon]
    omega

/-- A colon and a name are read together. -/
theorem Stands.parameter (h : Stands pre none (':' :: (name ++ rest))) (hname : IsName name) :
    Stands (pre ++ ':' :: name) none rest where
  opened := by
    have hcolon : ¬IsQuote ':' := by decide
    rw [List.foldl_append, h.opened]
    exact foldl_quoteAfter_none (List.forall_mem_cons.mpr ⟨hcolon, hname.not_isQuote⟩)
  single _ _ := by
    obtain ⟨front, last, rfl⟩ := List.eq_nil_or_concat' name |>.resolve_left
      (fun hnil => not_isName_nil (hnil ▸ hname))
    have hlast : last ≠ ':' := hname.ne_colon last (by simp)
    rw [← List.cons_append, ← List.append_assoc, colonsAtEnd_append_of_ne _ hlast]

/-- Any other character is read by itself. -/
theorem Stands.plain (h : Stands pre none (c :: rest)) (hc : ¬IsQuote c)
    (hcolon : c = ':' → ∀ d ∈ rest.head?, d ≠ ':' ∧ isNameStart d = false) :
    Stands (pre ++ [c]) none rest where
  opened := by rw [List.foldl_append, h.opened]; exact if_neg hc
  single _ hhead := by
    have hne : c ≠ ':' := fun hc => (hcolon hc ':' hhead).1 rfl
    rw [colonsAtEnd_append_of_ne pre hne]

/-- There is a parameter among lexemes, between those of `before` and those of `after`. -/
def CutAt (ls : List Lexeme) (before name after : List Char) : Prop :=
  ∃ ls₁ ls₂, ls = ls₁ ++ .parameter name :: ls₂ ∧ ls₁.flatMap Lexeme.chars = before ∧
    ls₂.flatMap Lexeme.chars = after

/-- A cut is still one behind one more lexeme. -/
theorem CutAt.cons (h : CutAt ls before name after) (l : Lexeme) :
    CutAt (l :: ls) (l.chars ++ before) name after := by
  obtain ⟨ls₁, ls₂, rfl, rfl, rfl⟩ := h
  exact ⟨l :: ls₁, ls₂, rfl, rfl, rfl⟩

/-- A parameter among lexemes is the first of them, or after the first of them. -/
theorem CutAt.cases (h : CutAt (l :: ls) before name after) :
    (l = .parameter name ∧ before = [] ∧ ls.flatMap Lexeme.chars = after) ∨
      ∃ before', before = l.chars ++ before' ∧ CutAt ls before' name after := by
  obtain ⟨ls₁, ls₂, heq, rfl, rfl⟩ := h
  cases ls₁ with
  | nil =>
    obtain ⟨rfl, rfl⟩ := List.cons.inj heq
    exact .inl ⟨rfl, rfl, rfl⟩
  | cons l₁ ls₁ =>
    obtain ⟨rfl, rfl⟩ := List.cons.inj heq
    exact .inr ⟨_, rfl, ls₁, ls₂, rfl, rfl, rfl⟩

/-- **A parameter among the lexemes** is one of the text. -/
theorem Lexes.namedAt (h : Lexes quote rest ls) (hpre : Stands pre quote rest)
    (hcut : CutAt ls before name after) : NamedAt (pre ++ rest) (pre ++ before) name after := by
  induction h generalizing pre before with
  | done =>
    obtain ⟨ls₁, ls₂, heq, -⟩ := hcut
    simp at heq
  | inside h ih =>
    obtain ⟨hl, -⟩ | ⟨before', rfl, hlater⟩ := hcut.cases
    · cases hl
    · exact (ih hpre.inside hlater).unread
  | opens hc h ih =>
    obtain ⟨hl, -⟩ | ⟨before', rfl, hlater⟩ := hcut.cases
    · cases hl
    · exact (ih (hpre.opens hc) hlater).unread
  | cast h ih =>
    obtain ⟨hl, -⟩ | ⟨before', rfl, hlater⟩ := hcut.cases
    · cases hl
    · exact (ih hpre.cast hlater).unread
  | parameter hname hrest h ih =>
    obtain ⟨hl, rfl, rfl⟩ | ⟨before', rfl, hlater⟩ := hcut.cases
    · obtain rfl := Lexeme.parameter.inj hl
      rw [h.flatMap_chars, List.append_nil]
      exact ⟨rfl, hpre.opened, hpre.single rfl rfl, hname, hrest⟩
    · exact (ih (hpre.parameter hname) hlater).unread
  | plain hc hcolon h ih =>
    obtain ⟨hl, -⟩ | ⟨before', rfl, hlater⟩ := hcut.cases
    · cases hl
    · exact (ih (hpre.plain hc hcolon) hlater).unread

/-- A parameter begins here or after this character. -/
theorem NamedAt.exists_char (h : NamedAt (pre ++ c :: rest) (pre ++ before) name after) :
    (c = ':' ∧ pre.foldl quoteAfter none = none ∧ ∃ d ∈ rest.head?, isNameStart d) ∨
      ∃ before', before = [c] ++ before' := by
  have htext := h.text_eq
  cases before with
  | nil =>
    obtain ⟨rfl, rfl⟩ := List.cons.inj htext
    obtain ⟨d, cs, rfl, hd⟩ := h.isName.exists_cons
    exact .inl ⟨rfl, List.append_nil pre ▸ h.unquoted, d, rfl, hd⟩
  | cons d before =>
    obtain rfl : c = d := (List.cons.inj htext).1
    exact .inr ⟨before, rfl⟩

/-- A parameter does not begin in a cast. -/
theorem NamedAt.exists_cast (h : NamedAt (pre ++ ':' :: ':' :: rest) (pre ++ before) name after)
    (hpre : colonsAtEnd pre % 2 = 0) : ∃ before', before = ':' :: ':' :: before' := by
  have htext := h.text_eq
  match before with
  | [] =>
    obtain ⟨c, cs, rfl, hc⟩ := h.isName.exists_cons
    obtain rfl : ':' = c := (List.cons.inj (List.cons.inj htext).2).1
    exact absurd hc (by decide)
  | [c] =>
    obtain rfl : ':' = c := (List.cons.inj htext).1
    have hodd := h.single
    rw [colonsAtEnd_append_colon] at hodd
    omega
  | c :: d :: before =>
    obtain rfl : ':' = c := (List.cons.inj htext).1
    obtain rfl : ':' = d := (List.cons.inj (List.cons.inj htext).2).1
    exact ⟨before, rfl⟩

/-- A parameter does not begin in the name of another one. -/
theorem NamedAt.exists_parameter {name' : List Char}
    (h : NamedAt (pre ++ ':' :: (name' ++ rest)) (pre ++ before) name after) (hname' : IsName name')
    (hrest : Ends rest) : (before = [] ∧ name' = name ∧ rest = after) ∨
      ∃ before', before = ':' :: name' ++ before' := by
  have htext := h.text_eq
  match before with
  | [] => exact .inl ⟨rfl, hname'.append_inj h.isName hrest h.ends (List.cons.inj htext).2⟩
  | c :: before =>
    obtain rfl : ':' = c := (List.cons.inj htext).1
    refine .inr ?_
    rcases List.append_eq_append_iff.mp (List.cons.inj htext).2 with
      ⟨more, rfl, -⟩ | ⟨more, rfl, hmore⟩
    · exact ⟨more, rfl⟩
    cases more with
    | nil => exact ⟨[], by simp⟩
    | cons d more =>
      obtain rfl : ':' = d := (List.cons.inj hmore).1
      exact absurd rfl (hname'.ne_colon ':' (by simp))

/-- **A parameter of the text** is among the lexemes. -/
theorem Lexes.cutAt (h : Lexes quote rest ls) (hpre : Stands pre quote rest)
    (hname : NamedAt (pre ++ rest) (pre ++ before) name after) : CutAt ls before name after := by
  induction h generalizing pre before with
  | done =>
    have htext := hname.text_eq
    simp at htext
  | inside h ih =>
    obtain ⟨-, hnone, -⟩ | ⟨before', rfl⟩ := hname.exists_char
    · cases hnone.symm.trans hpre.opened
    · exact (ih hpre.inside hname.read).cons (.quoted _)
  | opens hc h ih =>
    obtain ⟨rfl, -⟩ | ⟨before', rfl⟩ := hname.exists_char
    · exact absurd hc (by decide)
    · exact (ih (hpre.opens hc) hname.read).cons (.quoted _)
  | cast h ih =>
    obtain ⟨before', rfl⟩ := hname.exists_cast (hpre.single rfl rfl)
    exact (ih hpre.cast hname.read).cons .cast
  | parameter hname' hrest h ih =>
    obtain ⟨rfl, rfl, rfl⟩ | ⟨before', rfl⟩ := hname.exists_parameter hname' hrest
    · exact ⟨[], _, rfl, rfl, h.flatMap_chars⟩
    · exact (ih (hpre.parameter hname') hname.read).cons (.parameter _)
  | plain hc hcolon h ih =>
    obtain ⟨hcolon', -, d, hd, hstart⟩ | ⟨before', rfl⟩ := hname.exists_char
    · exact absurd hstart (by simp [(hcolon hcolon' d hd).2])
    · exact (ih (hpre.plain hc hcolon) hname.read).cons (.plain _)

/-- **The parameters of a text are those among its lexemes**, at their places. -/
theorem namedAt_iff : NamedAt cs before name after ↔ CutAt (lexemes none cs) before name after := by
  have hstart : Stands [] none cs := ⟨rfl, fun _ _ => rfl⟩
  exact ⟨(lexes_lexemes none cs).cutAt hstart, (lexes_lexemes none cs).namedAt hstart⟩

end Ingest.Sql
