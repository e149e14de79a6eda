import Ingest.Loading
import Ingest.Sql.Session
import Ingest.Value.Text

/-!
# Sql/Sink — batches into a configured statement

The commit statement receives the whole batch as one JSON array and the group. It runs in a
transaction, so a batch lands as a whole or not at all.
-/

namespace Ingest.Sql

/-- How a sink is configured. -/
structure SinkStatements where
  /-- The name of the sink. -/
  name : String
  /-- Receives a batch and the group. -/
  commit : String
  /-- Receives the group whose rows are to be deleted. -/
  delete : Option String
  /-- The column that tells whether a row is wanted. -/
  processableColumn : Option String
deriving DecidableEq, Repr

namespace SinkStatements

/-- Whether a row is wanted: all are but those whose column is `false`. -/
def wants (s : SinkStatements) (r : Row) : Bool :=
  match s.processableColumn with
  | none => true
  | some column =>
    match r.get? column with
    | some (.bool false) => false
    | _ => true

/-- The batch as one JSON array. -/
def batchPayload (rows : List Row) : Value := .array (rows.map Row.payload)

variable {ω : Type}

/-- Commits a batch in a transaction of its own. -/
def commitBatch (s : SinkStatements) (session : Session ω) (c : Commit Row) :
    StateM ω (Except Error CommitReply) := do
  match ← session.beginWork with
  | .error e => return .error (.database e)
  | .ok () =>
    match ← session.execute ⟨s.commit, [.json (batchPayload c.rows), .text c.group]⟩ with
    | .error e => return .error (.batchCommit (s.name ++ ": " ++ e.message))
    | .ok () =>
      match ← session.commitWork with
      | .error e => return .error (.database e)
      | .ok () => return .ok (.committed c.rows.length 0)

/-- Deletes everything loaded for a group. -/
def deleteAll (s : SinkStatements) (session : Session ω) (group : String) :
    StateM ω (Except Error Unit) := do
  match s.delete with
  | none => return .error (.config ("sink '" ++ s.name ++ "' has no delete statement"))
  | some sql => return (← session.execute ⟨sql, [.text group]⟩).mapError .database

/-- The sink. -/
def sink (s : SinkStatements) (session : Session ω) : Sink ω Row where
  name := s.name
  processable := s.wants
  commit c := do return (← s.commitBatch session c).mapError .error
  deleteAll := s.deleteAll session

end SinkStatements

end Ingest.Sql
