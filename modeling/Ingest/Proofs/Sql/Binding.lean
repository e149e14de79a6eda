import Ingest.Proofs.Sql.Lexing

/-!
# Proofs/Sql/Binding — rewriting named parameters is lossless

The bound text is that of the query but for the parameters, which became placeholders
(`bind_eq_ok_iff`). As long as the query has no dollar sign of its own outside quotes, the
placeholders can be told from the bound text alone (`pieces`), and their numbers tell the parameters
(`Piece.restore`). Main statement: `bind_lossless`.
-/

namespace Ingest.Sql

variable {quote : Option Char} {c : Char} {cs rest name before after : List Char}
  {l : Lexeme} {ls : List Lexeme} {p : Parameter} {ps : List Parameter} {sql : String}

/-! ## Uses -/

/-- Parameters are known by their names. -/
theorem Parameter.ofName?_eq_some_iff {s : String} : ofName? s = some p ↔ p.name = s := by
  constructor
  · intro h
    simpa using List.find?_some h
  · rintro rfl
    exact ofName?_name p

/-- The parameter that a lexeme uses. -/
def Lexeme.use? : Lexeme → Option Parameter
  | .parameter name => Parameter.ofName? (String.ofList name)
  | _ => none

/-- A lexeme uses a parameter if it is its name. -/
theorem Lexeme.use?_eq_some_iff : l.use? = some p ↔ l = .parameter p.name.toList := by
  cases l with
  | parameter name =>
    rw [use?, Parameter.ofName?_eq_some_iff, Lexeme.parameter.injEq, ← String.toList_inj,
      String.toList_ofList, eq_comm]
  | plain c => simp [use?]
  | quoted c => simp [use?]
  | cast => simp [use?]

/-- Every name among the lexemes is that of a parameter. -/
def Known (ls : List Lexeme) : Prop :=
  ∀ name, .parameter name ∈ ls → ∃ p : Parameter, p.name.toList = name

/-- A text is known lexeme by lexeme. -/
theorem known_cons : Known (l :: ls) ↔
    (∀ name, l = .parameter name → ∃ p : Parameter, p.name.toList = name) ∧ Known ls := by
  simp only [Known, List.mem_cons, or_imp, forall_and, eq_comm]

theorem resolve_name (p : Parameter) : resolve p.name.toList = .ok p := by simp [resolve]

/-- A name that is resolved is the name of its parameter. -/
theorem name_of_resolve (h : resolve name = .ok p) : p.name.toList = name := by
  unfold resolve at h
  split at h
  · rename_i p' hp
    obtain rfl := Except.ok.inj h
    rw [Parameter.ofName?_eq_some_iff.mp hp, String.toList_ofList]
  · cases h

/-- If all names are known, the uses are read off one by one. -/
theorem uses_of_known (h : Known ls) : uses ls = .ok (ls.filterMap Lexeme.use?) := by
  induction ls with
  | nil => rfl
  | cons l ls ih =>
    obtain ⟨hl, hls⟩ := known_cons.mp h
    cases l with
    | parameter name =>
      obtain ⟨p, rfl⟩ := hl name rfl
      have huse : Lexeme.use? (.parameter p.name.toList) = some p := Lexeme.use?_eq_some_iff.mpr rfl
      rw [uses, resolve_name, ih hls, List.filterMap_cons_some huse]
      rfl
    | plain c => exact ih hls
    | quoted c => exact ih hls
    | cast => exact ih hls

/-- If the uses can be told, all names are known. -/
theorem known_of_uses (h : uses ls = .ok ps) : Known ls := by
  induction ls generalizing ps with
  | nil => simp [Known]
  | cons l ls ih =>
    cases l with
    | parameter name =>
      rw [uses] at h
      rcases hresolve : resolve name with e | p
      · rw [hresolve] at h
        cases h
      rcases huses : uses ls with e | ps'
      · rw [hresolve, huses] at h
        cases h
      refine known_cons.mpr ⟨fun name' heq => ?_, ih huses⟩
      obtain rfl := Lexeme.parameter.inj heq
      exact ⟨p, name_of_resolve hresolve⟩
    | plain c => exact known_cons.mpr ⟨by simp, ih h⟩
    | quoted c => exact known_cons.mpr ⟨by simp, ih h⟩
    | cast => exact known_cons.mpr ⟨by simp, ih h⟩

/-- The parameters of lexemes in order of first use. -/
def parametersOf (ls : List Lexeme) : List Parameter := firstUses (ls.filterMap Lexeme.use?)

/-- **Binding** fails only for a name that is none of a parameter. -/
theorem bind_eq_ok_iff {b : BoundQuery} : bind sql = .ok b ↔
    let ls := lexemes none sql.toList
    Known ls ∧
      b = ⟨String.ofList (ls.flatMap (Lexeme.numbered (parametersOf ls))), parametersOf ls⟩ := by
  dsimp only
  constructor
  · intro h
    rcases huses : uses (lexemes none sql.toList) with e | ps
    · simp only [bind, huses] at h
      cases h
    have hknown := known_of_uses huses
    obtain rfl := Except.ok.inj ((uses_of_known hknown).symm.trans huses)
    simp only [bind, huses] at h
    exact ⟨hknown, (Except.ok.inj h).symm⟩
  · rintro ⟨hknown, rfl⟩
    simp only [bind, uses_of_known hknown]
    rfl

/-! ## The order of first use -/

section FirstUses

variable {α : Type} [DecidableEq α] {x : α} {xs : List α}

/-- No parameter is lost by telling each of them once. -/
theorem mem_firstUses : x ∈ firstUses xs ↔ x ∈ xs := by
  induction xs with
  | nil => rfl
  | cons y xs ih =>
    rw [firstUses, List.mem_cons, List.mem_cons, List.mem_filter, ih]
    by_cases h : x = y <;> simp [h]

/-- Each parameter is told once. -/
theorem nodup_firstUses (xs : List α) : (firstUses xs).Nodup := by
  induction xs with
  | nil => exact .nil
  | cons x xs ih => exact List.nodup_cons.mpr ⟨by simp, ih.filter _⟩

/-- Of two members, the one that is listed first occurs before each occurrence of the other. -/
theorem pairwise_firstUses (xs : List α) : (firstUses xs).Pairwise fun x y =>
    ∀ front back, xs = front ++ y :: back → x ∈ front := by
  induction xs with
  | nil => exact .nil
  | cons z xs ih =>
    have hfront : ∀ {y front back}, y ≠ z → z :: xs = front ++ y :: back →
        ∃ front', front = z :: front' ∧ xs = front' ++ y :: back := by
      intro y front back hne heq
      cases front with
      | nil => exact absurd (List.cons.inj heq).1.symm hne
      | cons w front =>
        obtain ⟨rfl, rfl⟩ := List.cons.inj heq
        exact ⟨front, rfl, rfl⟩
    refine List.pairwise_cons.mpr ⟨fun y hy front back heq => ?_, ?_⟩
    · obtain ⟨front', rfl, -⟩ := hfront (by simpa using (List.mem_filter.mp hy).2) heq
      exact List.mem_cons_self
    · refine (ih.filter _).imp_of_mem fun _ hy hxy front back heq => ?_
      obtain ⟨front', rfl, hsplit⟩ := hfront (by simpa using (List.mem_filter.mp hy).2) heq
      exact List.mem_cons_of_mem _ (hxy front' back hsplit)

end FirstUses

/-! ## The parameters at their places -/

theorem mem_filterMap_use? : p ∈ ls.filterMap Lexeme.use? ↔ .parameter p.name.toList ∈ ls := by
  simp only [List.mem_filterMap, Lexeme.use?_eq_some_iff, exists_eq_right]

/-- A name is a parameter of the text exactly where the text can be cut there. -/
theorem exists_cutAt_iff : (∃ before after, CutAt ls before name after) ↔ .parameter name ∈ ls := by
  constructor
  · rintro ⟨_, _, ls₁, ls₂, rfl, -⟩
    simp
  · intro h
    obtain ⟨ls₁, ls₂, rfl⟩ := List.append_of_mem h
    exact ⟨_, _, ls₁, ls₂, rfl, rfl, rfl⟩

/-- A text has names of parameters only if its lexemes have. -/
theorem known_iff : Known (lexemes none cs) ↔
    ∀ before name after, NamedAt cs before name after → ∃ p : Parameter, p.name.toList = name := by
  simp only [Known, ← exists_cutAt_iff, namedAt_iff, forall_exists_index]
  exact forall_comm

/-- The parameters of a text are those that it names. -/
theorem mem_parametersOf_iff : p ∈ parametersOf (lexemes none cs) ↔
    ∃ before after, NamedAt cs before p.name.toList after := by
  simp only [parametersOf, mem_firstUses, mem_filterMap_use?, ← exists_cutAt_iff, namedAt_iff]

/-- The text uses the first parameter before each use of the second one. -/
def UsedBefore (cs : List Char) (p p' : Parameter) : Prop :=
  ∀ before' after', NamedAt cs before' p'.name.toList after' →
    ∃ before after, NamedAt cs before p.name.toList after ∧ before.length < before'.length

/-- **The parameters are in order of first use.** -/
theorem pairwise_parametersOf (cs : List Char) :
    (parametersOf (lexemes none cs)).Pairwise (UsedBefore cs) := by
  refine (pairwise_firstUses _).imp fun {p p'} hfirst before' after' hnamed => ?_
  obtain ⟨ls₁, ls₂, hls, rfl, rfl⟩ := namedAt_iff.mp hnamed
  have huse : Lexeme.use? (.parameter p'.name.toList) = some p' := Lexeme.use?_eq_some_iff.mpr rfl
  have hmem := hfirst (ls₁.filterMap Lexeme.use?) (ls₂.filterMap Lexeme.use?) (by
    rw [hls, List.filterMap_append, List.filterMap_cons_some huse])
  obtain ⟨ls₃, ls₄, rfl⟩ := List.append_of_mem (mem_filterMap_use?.mp hmem)
  refine ⟨_, _, namedAt_iff.mpr ⟨ls₃, _, hls.trans (List.append_assoc _ _ _), rfl, rfl⟩, ?_⟩
  rw [List.flatMap_append, List.flatMap_cons, List.length_append, List.length_append]
  simp only [Lexeme.chars, List.length_cons]
  omega

/-! ## Quoted text -/

/-- The characters of a text, each with whether it is quoted. The quotes themselves are. -/
def marked (quote : Option Char) : List Char → List (Bool × Char)
  | [] => []
  | c :: rest =>
    (quote.isSome || (quoteAfter quote c).isSome, c) :: marked (quoteAfter quote c) rest

/-- The quoted characters. -/
def quotedText (quote : Option Char) (cs : List Char) : List Char :=
  ((marked quote cs).filter (·.1)).map (·.2)

/-- The characters outside quotes. -/
def unquotedText (quote : Option Char) (cs : List Char) : List Char :=
  ((marked quote cs).filter (!·.1)).map (·.2)

/-- Without a quote no text becomes quoted. -/
theorem marked_append_of_plain {xs : List Char} (hxs : ∀ c ∈ xs, ¬IsQuote c) (rest : List Char) :
    marked none (xs ++ rest) = xs.map (false, ·) ++ marked none rest := by
  induction xs with
  | nil => rfl
  | cons c xs ih =>
    obtain ⟨hc, hxs⟩ := List.forall_mem_cons.mp hxs
    rw [List.cons_append, marked, quoteAfter_none hc, ih hxs]
    rfl

/-- Text without quotes adds nothing to what is quoted. -/
theorem quotedText_append_of_plain {xs : List Char} (hxs : ∀ c ∈ xs, ¬IsQuote c)
    (rest : List Char) : quotedText none (xs ++ rest) = quotedText none rest := by
  have hnone : (xs.map (false, ·)).filter (·.1) = [] := by simp [List.filter_eq_nil_iff]
  rw [quotedText, marked_append_of_plain hxs, List.filter_append, hnone, List.nil_append,
    quotedText]

/-- Text without quotes is not quoted. -/
theorem unquotedText_append_of_plain {xs : List Char} (hxs : ∀ c ∈ xs, ¬IsQuote c)
    (rest : List Char) : unquotedText none (xs ++ rest) = xs ++ unquotedText none rest := by
  have hall : (xs.map (false, ·)).filter (!·.1) = xs.map (false, ·) := by
    simp [List.filter_eq_self]
  have hsnd : (xs.map (false, ·)).map (·.2) = xs := by simp [Function.comp_def]
  rw [unquotedText, marked_append_of_plain hxs, List.filter_append, hall, List.map_append, hsnd,
    unquotedText]

/-- The mark of a quoted character, or of one that opens a quoted text. -/
theorem marked_cons (h : quote.isSome ∨ IsQuote c) (rest : List Char) :
    marked quote (c :: rest) = (true, c) :: marked (quoteAfter quote c) rest := by
  have hmark : (quote.isSome || (quoteAfter quote c).isSome) = true := by
    rcases quote with _ | q
    · have hc := h.resolve_left Bool.false_ne_true
      simp [quoteAfter, hc]
    · rfl
  rw [marked, hmark]

/-- A character inside of quotes, or a quote, belongs to what is quoted. -/
theorem quotedText_cons (h : quote.isSome ∨ IsQuote c) (rest : List Char) :
    quotedText quote (c :: rest) = c :: quotedText (quoteAfter quote c) rest := by
  rw [quotedText, marked_cons h]
  rfl

/-- A character inside of quotes, or a quote, is left out of what is not quoted. -/
theorem unquotedText_cons (h : quote.isSome ∨ IsQuote c) (rest : List Char) :
    unquotedText quote (c :: rest) = unquotedText (quoteAfter quote c) rest := by
  rw [unquotedText, marked_cons h]
  rfl

theorem not_isQuote_of_isDigit (h : c.isDigit) : ¬IsQuote c := by
  rintro (rfl | rfl) <;> exact absurd h (by decide)

/-! ## What is written -/

/-- The number of a placeholder. -/
def numeral (ps : List Parameter) (p : Parameter) : List Char :=
  (toString (ps.idxOf p + 1)).toList

theorem numeral_eq_toDigits (ps : List Parameter) (p : Parameter) :
    numeral ps p = Nat.toDigits 10 (ps.idxOf p + 1) := Nat.toList_repr

theorem isDigit_of_mem_numeral (h : c ∈ numeral ps p) : c.isDigit :=
  Nat.isDigit_of_mem_toDigits (by decide) (by decide) (numeral_eq_toDigits ps p ▸ h)

@[simp] theorem numbered_parameter (ps : List Parameter) (p : Parameter) :
    Lexeme.numbered ps (.parameter p.name.toList) = '$' :: numeral ps p := by
  simp [Lexeme.numbered, numeral]

@[simp] theorem numbered_plain (ps : List Parameter) (c : Char) :
    Lexeme.numbered ps (.plain c) = [c] := rfl

@[simp] theorem numbered_quoted (ps : List Parameter) (c : Char) :
    Lexeme.numbered ps (.quoted c) = [c] := rfl

@[simp] theorem numbered_cast (ps : List Parameter) :
    Lexeme.numbered ps .cast = [':', ':'] := rfl

/-- A placeholder has no quotes. -/
theorem not_isQuote_of_mem_numbered {d : Char} (h : d ∈ '$' :: numeral ps p) : ¬IsQuote d := by
  rcases List.mem_cons.mp h with rfl | hd
  · decide
  · exact not_isQuote_of_isDigit (isDigit_of_mem_numeral hd)

theorem not_isQuote_of_mem_cast : ∀ d ∈ [':', ':'], ¬IsQuote d := by simp [IsQuote]

theorem IsName.not_isQuote_of_mem_cons (h : IsName name) : ∀ d ∈ ':' :: name, ¬IsQuote d :=
  List.forall_mem_cons.mpr ⟨by decide, h.not_isQuote⟩

/-- **Quoted text** is left alone. -/
theorem Lexes.quotedText_numbered (h : Lexes quote cs ls) (hknown : Known ls) :
    quotedText quote (ls.flatMap (Lexeme.numbered ps)) = quotedText quote cs := by
  induction h with
  | done => rfl
  | inside _ ih =>
    obtain ⟨-, hls⟩ := known_cons.mp hknown
    rw [List.flatMap_cons, numbered_quoted, List.singleton_append,
      quotedText_cons (.inl rfl), quotedText_cons (.inl rfl), ih hls]
  | opens hc _ ih =>
    obtain ⟨-, hls⟩ := known_cons.mp hknown
    rw [List.flatMap_cons, numbered_quoted, List.singleton_append,
      quotedText_cons (.inr hc), quotedText_cons (.inr hc), quoteAfter, if_pos hc, ih hls]
  | @cast rest _ _ ih =>
    obtain ⟨-, hls⟩ := known_cons.mp hknown
    rw [List.flatMap_cons, numbered_cast, quotedText_append_of_plain not_isQuote_of_mem_cast,
      ih hls]
    exact (quotedText_append_of_plain not_isQuote_of_mem_cast rest).symm
  | @parameter name rest _ hname _ _ ih =>
    obtain ⟨hp, hls⟩ := known_cons.mp hknown
    obtain ⟨p, rfl⟩ := hp name rfl
    rw [List.flatMap_cons, numbered_parameter,
      quotedText_append_of_plain fun _ => not_isQuote_of_mem_numbered, ih hls]
    exact (quotedText_append_of_plain hname.not_isQuote_of_mem_cons rest).symm
  | @plain c rest _ hc _ _ ih =>
    obtain ⟨-, hls⟩ := known_cons.mp hknown
    have hplain : ∀ d ∈ [c], ¬IsQuote d := by simpa using hc
    rw [List.flatMap_cons, numbered_plain, quotedText_append_of_plain hplain, ih hls]
    exact (quotedText_append_of_plain hplain rest).symm

/-! ## Reading the bound text -/

/-- A piece of a bound text. -/
inductive Piece where
  | char (c : Char)
  /-- A dollar sign outside quotes, with the digits that follow it. -/
  | placeholder (digits : List Char)
deriving DecidableEq, Repr

/-- The pieces of a bound text. `quote` is the quote that is open. -/
def pieces (quote : Option Char) (cs : List Char) : List Piece :=
  match cs with
  | [] => []
  | c :: rest =>
    if quote = none ∧ c = '$' then
      let digits := rest.takeWhile Char.isDigit
      .placeholder digits :: pieces none (rest.drop digits.length)
    else .char c :: pieces (quoteAfter quote c) rest
termination_by cs.length
decreasing_by all_goals (simp only [List.length_cons, List.length_drop]; omega)

/-- The number that digits write. -/
def number (digits : List Char) : Nat := Nat.ofDigitChars 10 digits 0

/-- What a piece was written for, if the placeholders are those of `ps`: a placeholder for a colon
and the name of the parameter with its number. -/
def Piece.restore (ps : List Parameter) : Piece → List Char
  | .char c => [c]
  | .placeholder digits =>
    match ps[number digits - 1]? with
    | some p => ':' :: p.name.toList
    | none => '$' :: digits

/-- What becomes of a lexeme. -/
def Lexeme.pieces (ps : List Parameter) (l : Lexeme) : List Piece :=
  match l.use? with
  | some p => [.placeholder (numeral ps p)]
  | none => l.chars.map .char

/-- A character that begins no placeholder stands for itself. -/
theorem pieces_char (h : quote = none → c ≠ '$') (rest : List Char) :
    pieces quote (c :: rest) = .char c :: pieces (quoteAfter quote c) rest := by
  rw [pieces, if_neg (not_and.mpr h)]

/-- A dollar sign and the digits behind it are one placeholder. -/
theorem pieces_placeholder {digits : List Char} (hdigits : ∀ c ∈ digits, c.isDigit)
    (hrest : ∀ c ∈ rest.head?, c.isDigit = false) :
    pieces none ('$' :: (digits ++ rest)) = .placeholder digits :: pieces none rest := by
  rw [pieces, if_pos ⟨rfl, rfl⟩]
  simp only [takeWhile_append_of_head hdigits hrest, List.drop_left]

/-- Text without quotes and dollar signs stands for itself. -/
theorem pieces_append_of_plain {xs : List Char} (hxs : ∀ c ∈ xs, ¬IsQuote c) (hdollar : '$' ∉ xs)
    (rest : List Char) : pieces none (xs ++ rest) = xs.map .char ++ pieces none rest := by
  induction xs with
  | nil => rfl
  | cons c xs ih =>
    obtain ⟨hc, hxs⟩ := List.forall_mem_cons.mp hxs
    obtain ⟨hne, hdollar⟩ := List.ne_and_not_mem_of_not_mem_cons hdollar
    rw [List.cons_append, pieces_char fun _ => hne.symm, quoteAfter_none hc, ih hxs hdollar]
    rfl

/-- The number of a placeholder is read back. -/
theorem number_numeral (ps : List Parameter) (p : Parameter) :
    number (numeral ps p) = ps.idxOf p + 1 := by
  rw [number, numeral_eq_toDigits, Nat.ofDigitChars_toDigits (by decide) (by decide)]

/-- What is written after a parameter does not go on with its number. -/
theorem Lexes.head_numbered (h : Lexes none cs ls) (hknown : Known ls) (hcs : Ends cs) :
    ∀ c ∈ (ls.flatMap (Lexeme.numbered ps)).head?, c.isDigit = false := by
  have hhead : ∀ {c}, isNameChar c = false → c.isDigit = false := by
    intro c hc
    simp only [isNameChar, Char.isAlphanum, Bool.or_eq_false_iff] at hc
    exact hc.1.2
  cases h with
  | done =>
    intro c hc
    cases hc
  | opens => exact fun c hc => hhead (hcs c hc)
  | cast => exact fun c hc => hhead (hcs c hc)
  | plain => exact fun c hc => hhead (hcs c hc)
  | parameter =>
    obtain ⟨hp, -⟩ := known_cons.mp hknown
    obtain ⟨p, rfl⟩ := hp _ rfl
    rw [List.flatMap_cons, numbered_parameter]
    intro c hc
    obtain rfl : '$' = c := Option.some.inj hc
    decide

/-- **The pieces** of what is written are what became of the lexemes. -/
theorem Lexes.pieces_numbered (h : Lexes quote cs ls) (hknown : Known ls)
    (hdollar : '$' ∉ unquotedText quote cs) (ps : List Parameter) :
    pieces quote (ls.flatMap (Lexeme.numbered ps)) = ls.flatMap (Lexeme.pieces ps) := by
  induction h with
  | done => rw [List.flatMap_nil, pieces, List.flatMap_nil]
  | @inside q c rest ls _ ih =>
    obtain ⟨-, hls⟩ := known_cons.mp hknown
    rw [unquotedText_cons (.inl rfl)] at hdollar
    have hchar : some q = none → c ≠ '$' := fun hnone => absurd hnone (Option.some_ne_none q)
    rw [List.flatMap_cons, numbered_quoted, List.singleton_append, pieces_char hchar,
      ih hls hdollar]
    rfl
  | @opens c rest ls hc _ ih =>
    obtain ⟨-, hls⟩ := known_cons.mp hknown
    have hopen : quoteAfter none c = some c := if_pos hc
    have hne : c ≠ '$' := by rcases hc with rfl | rfl <;> decide
    rw [unquotedText_cons (.inr hc), hopen] at hdollar
    rw [List.flatMap_cons, numbered_quoted, List.singleton_append, pieces_char fun _ => hne, hopen,
      ih hls hdollar]
    rfl
  | @cast rest ls _ ih =>
    obtain ⟨-, hls⟩ := known_cons.mp hknown
    have hrest : '$' ∉ unquotedText none rest := fun hmem => hdollar
      (unquotedText_append_of_plain not_isQuote_of_mem_cast rest ▸ List.mem_append_right _ hmem)
    rw [List.flatMap_cons, numbered_cast,
      pieces_append_of_plain not_isQuote_of_mem_cast (by decide), ih hls hrest]
    rfl
  | @parameter name rest ls hname hrest h ih =>
    obtain ⟨hp, hls⟩ := known_cons.mp hknown
    obtain ⟨p, rfl⟩ := hp name rfl
    have hrest' : '$' ∉ unquotedText none rest := fun hmem => hdollar
      (unquotedText_append_of_plain hname.not_isQuote_of_mem_cons rest ▸
        List.mem_append_right _ hmem)
    have hplaceholder : Lexeme.pieces ps (.parameter p.name.toList) =
        [.placeholder (numeral ps p)] := by
      rw [Lexeme.pieces, Lexeme.use?_eq_some_iff.mpr rfl]
    rw [List.flatMap_cons, numbered_parameter, List.cons_append,
      pieces_placeholder (fun _ => isDigit_of_mem_numeral) (h.head_numbered hls hrest),
      ih hls hrest', List.flatMap_cons, hplaceholder, List.singleton_append]
  | @plain c rest ls hc _ _ ih =>
    obtain ⟨-, hls⟩ := known_cons.mp hknown
    have hplain : ∀ d ∈ [c], ¬IsQuote d := by simpa using hc
    have htext := unquotedText_append_of_plain hplain rest
    rw [List.singleton_append] at htext
    rw [htext, List.mem_append, not_or] at hdollar
    rw [List.flatMap_cons, numbered_plain, pieces_append_of_plain hplain hdollar.1,
      ih hls hdollar.2]
    rfl

/-- **Restoring** the pieces of a lexeme gives the lexeme back. -/
theorem Lexeme.restore_pieces (h : ∀ p, l.use? = some p → p ∈ ps) :
    (l.pieces ps).flatMap (Piece.restore ps) = l.chars := by
  rcases huse : l.use? with _ | p
  · rw [Lexeme.pieces, huse]
    simp [List.flatMap_map, Piece.restore]
  · have hat : ps[number (numeral ps p) - 1]? = some p := by
      rw [number_numeral, Nat.add_sub_cancel, List.getElem?_idxOf (h p huse)]
    rw [Lexeme.pieces, huse, Lexeme.use?_eq_some_iff.mp huse]
    simp [Piece.restore, hat, Lexeme.chars]

/-- With the names put in for the placeholders the text is what it was. -/
theorem restore_flatMap_pieces (h : ls.filterMap Lexeme.use? ⊆ ps) :
    (ls.flatMap (Lexeme.pieces ps)).flatMap (Piece.restore ps) = ls.flatMap Lexeme.chars := by
  rw [List.flatMap_assoc]
  refine List.flatMap_congr fun l hl => Lexeme.restore_pieces fun p hp => h ?_
  exact List.mem_filterMap.mpr ⟨l, hl, hp⟩

/-- The numbers of the placeholders are those of parameters. -/
theorem number_of_mem_pieces {digits : List Char} (h : ls.filterMap Lexeme.use? ⊆ ps)
    (hmem : .placeholder digits ∈ ls.flatMap (Lexeme.pieces ps)) :
    1 ≤ number digits ∧ number digits ≤ ps.length := by
  obtain ⟨l, hl, hpiece⟩ := List.mem_flatMap.mp hmem
  rcases huse : l.use? with _ | p
  · simp [Lexeme.pieces, huse] at hpiece
  · have hp : p ∈ ps := h (List.mem_filterMap.mpr ⟨l, hl, huse⟩)
    obtain rfl : digits = numeral ps p := by simpa [Lexeme.pieces, huse] using hpiece
    rw [number_numeral]
    exact ⟨Nat.le_add_left 1 _, List.idxOf_lt_length_iff.mpr hp⟩

/-! ## Binding -/

/-- A bound query is the query with its parameters numbered. -/
structure Binds (sql : String) (b : BoundQuery) : Prop where
  nodup : b.parameters.Nodup
  used : ∀ p, p ∈ b.parameters ↔ ∃ before after, NamedAt sql.toList before p.name.toList after
  ordered : b.parameters.Pairwise (UsedBefore sql.toList)
  quoted : quotedText none b.sql.toList = quotedText none sql.toList
  numbers : ∀ digits, .placeholder digits ∈ pieces none b.sql.toList →
    1 ≤ number digits ∧ number digits ≤ b.parameters.length
  restored : (pieces none b.sql.toList).flatMap (Piece.restore b.parameters) = sql.toList

/-- There are four names. -/
theorem exists_name_iff : (∃ p : Parameter, p.name.toList = name) ↔
    String.ofList name ∈ ["group_id", "since", "until", "limit"] := by
  constructor
  · rintro ⟨p, rfl⟩
    rw [String.ofList_toList]
    cases p <;> decide
  · intro h
    rw [← String.toList_ofList (l := name)]
    obtain h | h | h | h : _ ∨ _ ∨ _ ∨ _ := by simpa using h
    · exact ⟨.group, congrArg _ h.symm⟩
    · exact ⟨.since, congrArg _ h.symm⟩
    · exact ⟨.upTo, congrArg _ h.symm⟩
    · exact ⟨.limit, congrArg _ h.symm⟩

/-- **Binding is lossless** for a query without a dollar sign outside quotes. It succeeds if and
only if each name outside quotes, after a colon that is no half of a cast, is one of the four. The
bound query then has each parameter that is used, once and in order of first use; quoted text is as
it was; each placeholder has the number of a parameter; and with a colon and the name of that
parameter in its place the query is back. -/
theorem bind_lossless (sql : String) (hdollar : '$' ∉ unquotedText none sql.toList) :
    ((∃ b, bind sql = .ok b) ↔ ∀ before name after, NamedAt sql.toList before name after →
        String.ofList name ∈ ["group_id", "since", "until", "limit"]) ∧
      ∀ b, bind sql = .ok b → Binds sql b := by
  refine ⟨?_, fun b hb => ?_⟩
  · simp only [bind_eq_ok_iff, exists_and_left, exists_eq, and_true, known_iff, exists_name_iff]
  obtain ⟨hknown, rfl⟩ := bind_eq_ok_iff.mp hb
  have hlexes := lexes_lexemes none sql.toList
  have huses : (lexemes none sql.toList).filterMap Lexeme.use? ⊆
      parametersOf (lexemes none sql.toList) := fun _ => mem_firstUses.mpr
  have hpieces := hlexes.pieces_numbered hknown hdollar (parametersOf (lexemes none sql.toList))
  exact {
    nodup := nodup_firstUses _
    used := fun p => mem_parametersOf_iff
    ordered := pairwise_parametersOf _
    quoted := by rw [String.toList_ofList, hlexes.quotedText_numbered hknown]
    numbers := fun digits hdigits => by
      rw [String.toList_ofList, hpieces] at hdigits
      exact number_of_mem_pieces huses hdigits
    restored := by
      rw [String.toList_ofList, hpieces, restore_flatMap_pieces huses, hlexes.flatMap_chars] }

/-- Casts, a parameter and a dollar sign in quotes, and a parameter that is used twice. -/
theorem bind_lossless_cast :
    '$' ∉ unquotedText none "t::date, ':limit$1' > :since::date OR :until > :since".toList ∧
      bind "t::date, ':limit$1' > :since::date OR :until > :since" =
        .ok ⟨"t::date, ':limit$1' > $1::date OR $2 > $1", [.since, .upTo]⟩ ∧
      Binds "t::date, ':limit$1' > :since::date OR :until > :since"
        ⟨"t::date, ':limit$1' > $1::date OR $2 > $1", [.since, .upTo]⟩ := by
  have hdollar :
      '$' ∉ unquotedText none "t::date, ':limit$1' > :since::date OR :until > :since".toList := by
    decide +kernel
  have hbind : bind "t::date, ':limit$1' > :since::date OR :until > :since" =
      .ok ⟨"t::date, ':limit$1' > $1::date OR $2 > $1", [.since, .upTo]⟩ := by
    decide +kernel
  exact ⟨hdollar, hbind, (bind_lossless _ hdollar).2 _ hbind⟩

end Ingest.Sql
