import Ingest.Proofs.Sql.Binding

/-!
# Proofs/Sql/Rebinding — a bound text has nothing left to bind

What is written for the lexemes of a query is cut into the same lexemes again, but for the
parameters: each becomes the plain characters of its placeholder (`Lexes.renumbered`). A placeholder
makes no name and no cast with what stands before it, as it starts with a dollar sign. Main
statement: `bind_fixpoint`.
-/

namespace Ingest.Sql

variable {quote : Option Char} {c : Char} {cs name rest : List Char} {ls : List Lexeme}
  {p : Parameter} {ps : List Parameter} {sql : String}

/-! ## One way to cut a text -/

theorem lexemes_quote (hc : IsQuote c) (rest : List Char) :
    lexemes none (c :: rest) = .quoted c :: lexemes (some c) rest := by
  have hcast : ∀ after, c = ':' → rest = ':' :: after → False := by
    rintro after rfl
    exact absurd hc (by decide)
  rw [lexemes.eq_4 _ _ hcast]
  exact if_pos hc

/-- A name behind a colon is read as one lexeme. -/
theorem lexemes_parameter (hname : IsName name) (hrest : Ends rest) :
    lexemes none (':' :: (name ++ rest)) = .parameter name :: lexemes none rest := by
  obtain ⟨d, after, hcons, hd⟩ := hname.exists_cons
  have hcast : ∀ after', ':' = ':' → name ++ rest = ':' :: after' → False := by
    rintro after' - heq
    rw [hcons, List.cons_append] at heq
    exact absurd ((List.cons.inj heq).1 ▸ hd) (by decide)
  have hstart : (name ++ rest).head?.any isNameStart := by simpa [hcons] using hd
  rw [lexemes.eq_4 _ _ hcast, if_neg (by decide)]
  simp only [hstart, and_self, if_true, takeWhile_append_of_head hname.isNameChar hrest,
    List.drop_left]

theorem lexemes_plain (hc : ¬IsQuote c)
    (hcolon : c = ':' → ∀ d ∈ rest.head?, d ≠ ':' ∧ isNameStart d = false) :
    lexemes none (c :: rest) = .plain c :: lexemes none rest := by
  have hcast : ∀ after, c = ':' → rest = ':' :: after → False := by
    rintro after hc' rfl
    exact (hcolon hc' ':' rfl).1 rfl
  have hstart : ¬(c = ':' ∧ rest.head?.any isNameStart) := by
    rintro ⟨hc', hany⟩
    obtain ⟨d, hd, hstart⟩ := (Option.any_eq_true _ _).mp hany
    exact absurd hstart (by simp [(hcolon hc' d hd).2])
  rw [lexemes.eq_4 _ _ hcast]
  exact (if_neg hc).trans (by simp only [if_neg hstart])

/-- **A text has one list of lexemes.** -/
theorem Lexes.lexemes_eq (h : Lexes quote cs ls) : lexemes quote cs = ls := by
  induction h with
  | done => rw [lexemes]
  | inside _ ih =>
    rw [lexemes]
    exact congrArg _ ih
  | opens hc _ ih => rw [lexemes_quote hc, ih]
  | cast _ ih => rw [lexemes, ih]
  | parameter hname hrest _ ih => rw [lexemes_parameter hname hrest, ih]
  | plain hc hcolon _ ih => rw [lexemes_plain hc hcolon, ih]

/-! ## Cutting what was written -/

/-- What is left of a lexeme in the bound text: of a parameter, its placeholder's characters. -/
def Lexeme.renumbered (ps : List Parameter) : Lexeme → List Lexeme
  | .parameter name => (Lexeme.numbered ps (.parameter name)).map .plain
  | l => [l]

/-- What is written for a text starts as the text does, or with a placeholder. -/
theorem Lexes.head_numbered_cases (h : Lexes quote cs ls) (hknown : Known ls) :
    ∀ d ∈ (ls.flatMap (Lexeme.numbered ps)).head?, d = '$' ∨ d ∈ cs.head? := by
  cases h with
  | done => simp
  | inside => exact fun d hd => .inr hd
  | opens => exact fun d hd => .inr hd
  | cast => exact fun d hd => .inr hd
  | plain => exact fun d hd => .inr hd
  | parameter =>
    obtain ⟨hp, -⟩ := known_cons.mp hknown
    obtain ⟨p, rfl⟩ := hp _ rfl
    rw [List.flatMap_cons, numbered_parameter]
    exact fun d hd => .inl (Option.some.inj hd).symm

/-- Characters other than quotes and colons are plain. -/
theorem Lexes.append_plain (h : Lexes none rest ls) {xs : List Char}
    (hxs : ∀ c ∈ xs, ¬IsQuote c ∧ c ≠ ':') : Lexes none (xs ++ rest) (xs.map .plain ++ ls) := by
  induction xs with
  | nil => exact h
  | cons c xs ih =>
    obtain ⟨⟨hquote, hcolon⟩, hxs⟩ := List.forall_mem_cons.mp hxs
    exact .plain hquote (fun heq => absurd heq hcolon) (ih hxs)

theorem ne_colon_of_mem_numbered {d : Char} (h : d ∈ '$' :: numeral ps p) : d ≠ ':' := by
  rintro rfl
  rcases List.mem_cons.mp h with hd | hd
  · exact absurd hd (by decide)
  · exact absurd (isDigit_of_mem_numeral hd) (by decide)

/-- **Numbering changes only the parameters**: the text that is written has the lexemes of the
query but for them. -/
theorem Lexes.renumbered (h : Lexes quote cs ls) (hknown : Known ls) (ps : List Parameter) :
    Lexes quote (ls.flatMap (Lexeme.numbered ps)) (ls.flatMap (Lexeme.renumbered ps)) := by
  induction h with
  | done quote => exact .done quote
  | inside _ ih => exact .inside (ih (known_cons.mp hknown).2)
  | opens hc _ ih => exact .opens hc (ih (known_cons.mp hknown).2)
  | cast _ ih => exact .cast (ih (known_cons.mp hknown).2)
  | parameter _ _ _ ih =>
    obtain ⟨hp, hls⟩ := known_cons.mp hknown
    obtain ⟨p, rfl⟩ := hp _ rfl
    have hplaceholder : ∀ d ∈ '$' :: numeral ps p, ¬IsQuote d ∧ d ≠ ':' := fun d hd =>
      ⟨not_isQuote_of_mem_numbered hd, ne_colon_of_mem_numbered hd⟩
    have hplain := (ih hls).append_plain hplaceholder
    rwa [← numbered_parameter] at hplain
  | plain hc hcolon h ih =>
    obtain ⟨-, hls⟩ := known_cons.mp hknown
    -- a colon stays apart from what is written after it
    refine .plain hc (fun heq d hd => ?_) (ih hls)
    rcases h.head_numbered_cases hls d hd with rfl | hd
    · decide
    · exact hcolon heq d hd

/-! ## Binding again -/

/-- No lexeme is a parameter. -/
def Unnamed (ls : List Lexeme) : Prop := ∀ name, .parameter name ∉ ls

/-- There is no name left in a text that was bound. -/
theorem unnamed_renumbered (ps : List Parameter) (ls : List Lexeme) :
    Unnamed (ls.flatMap (Lexeme.renumbered ps)) := by
  intro name hmem
  obtain ⟨l, -, hname⟩ := List.mem_flatMap.mp hmem
  cases l <;> simp [Lexeme.renumbered] at hname

/-- A text without names has no parameters. -/
theorem Unnamed.parametersOf_eq (h : Unnamed ls) : parametersOf ls = [] := by
  have huse : ls.filterMap Lexeme.use? = [] := List.filterMap_eq_nil_iff.mpr fun l hl =>
    Option.eq_none_iff_forall_ne_some.mpr fun p hp => h _ (Lexeme.use?_eq_some_iff.mp hp ▸ hl)
  exact congrArg firstUses huse

/-- A text without names stays as it is. -/
theorem Unnamed.flatMap_numbered (h : Unnamed ls) (ps : List Parameter) :
    ls.flatMap (Lexeme.numbered ps) = ls.flatMap Lexeme.chars := by
  refine List.flatMap_congr fun l hl => ?_
  cases l with
  | parameter name => exact absurd hl (h name)
  | plain c => rfl
  | quoted c => rfl
  | cast => rfl

/-- A text without parameters is bound as it is. -/
theorem bind_of_unnamed (h : Unnamed (lexemes none sql.toList)) : bind sql = .ok ⟨sql, []⟩ := by
  refine bind_eq_ok_iff.mpr ⟨fun name hname => absurd hname (h name), ?_⟩
  rw [h.parametersOf_eq, h.flatMap_numbered, (lexes_lexemes none sql.toList).flatMap_chars,
    String.ofList_toList]

/-- **Binding a bound text changes nothing**, and there is no parameter left in it. -/
theorem bind_fixpoint {b : BoundQuery} (h : bind sql = .ok b) :
    bind b.sql = .ok ⟨b.sql, []⟩ := by
  obtain ⟨hknown, rfl⟩ := bind_eq_ok_iff.mp h
  have hagain := (lexes_lexemes none sql.toList).renumbered hknown
    (parametersOf (lexemes none sql.toList))
  refine bind_of_unnamed ?_
  rw [String.toList_ofList, hagain.lexemes_eq]
  exact unnamed_renumbered _ _

/-- Colons before, between and after parameters, a lone colon, and a name in quotes. -/
theorem bind_fixpoint_colons :
    bind "a:::since:until::date, ':limit', b[1: 2] :group_id:" =
        .ok ⟨"a::$1$2::date, ':limit', b[1: 2] $3:", [.since, .upTo, .group]⟩ ∧
      bind "a::$1$2::date, ':limit', b[1: 2] $3:" =
        .ok ⟨"a::$1$2::date, ':limit', b[1: 2] $3:", []⟩ := by
  have hbind : bind "a:::since:until::date, ':limit', b[1: 2] :group_id:" =
      .ok ⟨"a::$1$2::date, ':limit', b[1: 2] $3:", [.since, .upTo, .group]⟩ := by
    decide +kernel
  exact ⟨hbind, bind_fixpoint hbind⟩

end Ingest.Sql
