import Ingest.Checkpoint

/-!
# Sql/Session — talking to a database

A statement is a text with numbered placeholders and the values bound to them. A session executes
statements; what they do to the database is not modelled here, only what is asked and answered.
-/

namespace Ingest.Sql

/-- A value bound to a placeholder. -/
inductive Bind where
  | text (s : String)
  | optionalText (s : Option String)
  | int (n : Int)
  | instant (t : Instant)
  | json (v : Value)

/-- A statement with its bound values. -/
structure Statement where
  /-- The text. -/
  sql : String
  /-- The value of each placeholder, from number 1. -/
  binds : List Bind

/-- An open connection to a database. `ω` is the world that statements may read and change. -/
structure Session (ω : Type) where
  /-- Executes a statement that answers rows, each an instant and a value. -/
  fetchRows : Statement → StateM ω (Except DatabaseError (List (Instant × Value)))
  /-- Executes a statement that answers checkpoints. -/
  fetchCheckpoints : Statement → StateM ω (Except DatabaseError (List Checkpoint))
  /-- Executes a statement that answers nothing. -/
  execute : Statement → StateM ω (Except DatabaseError Unit)
  /-- Opens a transaction. -/
  beginWork : StateM ω (Except DatabaseError Unit)
  /-- Closes the transaction and keeps its effects. -/
  commitWork : StateM ω (Except DatabaseError Unit)

end Ingest.Sql
