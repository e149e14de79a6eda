import Ingest.Sql.Identifier
import Ingest.Text.Blank

/-!
# Sql/Parameters — named parameters of a page query

A page query names its parameters: `:group_id`, `:since`, `:until` and `:limit`. They are replaced
by placeholders that are numbered in order of first use. Quoted text and casts are left alone. The
query is cut into lexemes first; the lexemes hold every character of it, so numbering only changes
the parameters.
-/

namespace Ingest.Sql

/-- A parameter of a page query. -/
inductive Parameter where
  | group
  | since
  | upTo
  | limit
deriving DecidableEq, Repr

namespace Parameter

/-- The name of a parameter. -/
def name : Parameter → String
  | group => "group_id"
  | since => "since"
  | upTo => "until"
  | limit => "limit"

/-- The parameter with a name. -/
def ofName? (s : String) : Option Parameter :=
  [group, since, upTo, limit].find? fun p => p.name = s

@[simp] theorem ofName?_name (p : Parameter) : ofName? p.name = some p := by
  cases p <;> decide

end Parameter

/-! ## Lexemes -/

/-- A piece of a query. -/
inductive Lexeme where
  /-- A character outside quotes. -/
  | plain (c : Char)
  /-- A character inside quotes, or one of the quotes. -/
  | quoted (c : Char)
  /-- Two colons. -/
  | cast
  /-- A colon and a name. -/
  | parameter (name : List Char)
deriving DecidableEq, Repr

/-- The characters of a lexeme. -/
def Lexeme.chars : Lexeme → List Char
  | plain c | quoted c => [c]
  | cast => [':', ':']
  | parameter name => ':' :: name

/-- The lexemes of a query. `quote` is the quote that is open. -/
def lexemes (quote : Option Char) (cs : List Char) : List Lexeme :=
  match quote, cs with
  | _, [] => []
  | some q, c :: rest => .quoted c :: lexemes (if c = q then none else some q) rest
  | none, ':' :: ':' :: rest => .cast :: lexemes none rest
  | none, c :: rest =>
    if c = '\'' ∨ c = '"' then .quoted c :: lexemes (some c) rest
    else
      let name := rest.takeWhile isNameChar
      if c = ':' ∧ rest.head?.any isNameStart then
        .parameter name :: lexemes none (rest.drop name.length)
      else .plain c :: lexemes none rest
termination_by cs.length
decreasing_by all_goals (simp only [List.length_cons, List.length_drop]; omega)

/-! ## Numbering -/

/-- A query with numbered placeholders and the parameters they stand for. -/
structure BoundQuery where
  /-- The text of the query. -/
  sql : String
  /-- The parameter of each placeholder, from number 1. -/
  parameters : List Parameter
deriving DecidableEq, Repr

/-- The parameter with a name. -/
def resolve (name : List Char) : Except Error Parameter :=
  match Parameter.ofName? (String.ofList name) with
  | some p => .ok p
  | none =>
    .error (.config ("unknown query parameter ':" ++ String.ofList name ++
      "' (expected :group_id, :since, :until or :limit)"))

/-- The parameters that are used, in order. -/
def uses : List Lexeme → Except Error (List Parameter)
  | [] => .ok []
  | .parameter name :: rest => do return (← resolve name) :: (← uses rest)
  | _ :: rest => uses rest

/-- The members of a list in order of their first occurrence. -/
def firstUses {α : Type} [DecidableEq α] : List α → List α
  | [] => []
  | x :: rest => x :: (firstUses rest).filter (· ≠ x)

/-- A lexeme with its parameter replaced by a placeholder. -/
def Lexeme.numbered (parameters : List Parameter) : Lexeme → List Char
  | .parameter name =>
    match Parameter.ofName? (String.ofList name) with
    | some p => '$' :: (toString (parameters.idxOf p + 1)).toList
    | none => ':' :: name
  | l => l.chars

/-- Replaces the named parameters of a query by numbered placeholders. -/
def bind (sql : String) : Except Error BoundQuery := do
  let ls := lexemes none sql.toList
  let parameters := firstUses (← uses ls)
  return ⟨String.ofList (ls.flatMap (Lexeme.numbered parameters)), parameters⟩

/-! ## Pages -/

/-- A query without the blanks around it and without semicolons at its end. -/
def withoutSemicolons (sql : String) : String :=
  String.ofList ((Text.trim sql).toList.reverse.dropWhile (· == ';')).reverse

/-- The query of a page: each row of `query` with its timestamp, by timestamp. -/
def pageQuery (query column : String) : Except Error BoundQuery := do
  checkIdentifier column
  let inner ← bind (withoutSemicolons query)
  return { inner with
    sql := "SELECT (q." ++ column ++ ")::timestamptz AS etl_timestamp, row_to_json(q) AS row FROM (" ++
      inner.sql ++ ") q ORDER BY 1" }

end Ingest.Sql
