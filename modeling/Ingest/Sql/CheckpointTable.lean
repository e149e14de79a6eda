import Ingest.CheckpointStore
import Ingest.Sql.Identifier
import Ingest.Sql.Session

/-!
# Sql/CheckpointTable — checkpoints in a database table

One row for each group and pipeline. Every write is a single statement, so a checkpoint is replaced
as a whole or not at all.
-/

namespace Ingest.Sql

/-- A schema that holds the table of checkpoints. -/
structure CheckpointSchema where
  /-- The name of the schema. -/
  name : String
  /-- The name may be spliced into statements. -/
  name_isIdentifier : isIdentifier name = true

namespace CheckpointSchema

/-- The schema of a name. -/
def ofName (name : String) : Except Error CheckpointSchema :=
  if h : isIdentifier name = true then .ok ⟨name, h⟩ else .error (identifierError name)

/-- The qualified name of the table. -/
def table (s : CheckpointSchema) : String := s.name ++ ".etl_metadata"

/-- The columns of a checkpoint, in the order in which they are bound. -/
def columns : String :=
  ", ".intercalate
    ["group_id", "pipeline_name", "status", "last_processed_at", "last_run_at", "duration_ms",
      "rows_processed", "error_message", "total_duration_ms", "total_rows_processed"]

/-- Creates the schema. -/
def createSchemaSql (s : CheckpointSchema) : String := "CREATE SCHEMA IF NOT EXISTS " ++ s.name

/-- The lines of a statement, each on a line of its own and indented. -/
def block (lines : List String) : String :=
  "\n" ++ String.join (lines.map fun l => "        " ++ l ++ "\n") ++ "        "

/-- Creates the table. -/
def createTableSql (s : CheckpointSchema) : String :=
  block [
    "CREATE TABLE IF NOT EXISTS " ++ s.table ++ " (",
    "    group_id TEXT NOT NULL,",
    "    pipeline_name TEXT NOT NULL,",
    "    status TEXT NOT NULL,",
    "    last_processed_at TIMESTAMPTZ NOT NULL,",
    "    last_run_at TIMESTAMPTZ NOT NULL,",
    "    duration_ms BIGINT NOT NULL DEFAULT 0,",
    "    rows_processed BIGINT NOT NULL DEFAULT 0,",
    "    error_message TEXT,",
    "    total_duration_ms BIGINT NOT NULL DEFAULT 0,",
    "    total_rows_processed BIGINT NOT NULL DEFAULT 0,",
    "    created_at TIMESTAMPTZ NOT NULL DEFAULT NOW(),",
    "    updated_at TIMESTAMPTZ NOT NULL DEFAULT NOW(),",
    "    PRIMARY KEY (group_id, pipeline_name)",
    ")"]

/-- Inserts or replaces a checkpoint. -/
def upsertSql (s : CheckpointSchema) : String :=
  block [
    "INSERT INTO " ++ s.table ++ " (",
    "    group_id, pipeline_name, status, last_processed_at, last_run_at,",
    "    duration_ms, rows_processed, error_message, total_duration_ms, total_rows_processed",
    ")",
    "VALUES ($1, $2, $3, $4, $5, $6, $7, $8, $9, $10)",
    "ON CONFLICT (group_id, pipeline_name) DO UPDATE SET",
    "    status = EXCLUDED.status,",
    "    last_processed_at = EXCLUDED.last_processed_at,",
    "    last_run_at = EXCLUDED.last_run_at,",
    "    duration_ms = EXCLUDED.duration_ms,",
    "    rows_processed = EXCLUDED.rows_processed,",
    "    error_message = EXCLUDED.error_message,",
    "    total_duration_ms = EXCLUDED.total_duration_ms,",
    "    total_rows_processed = EXCLUDED.total_rows_processed,",
    "    updated_at = NOW()"]

/-- Reads the checkpoint of a pipeline. -/
def selectOneSql (s : CheckpointSchema) : String :=
  "SELECT " ++ columns ++ " FROM " ++ s.table ++ " WHERE group_id = $1 AND pipeline_name = $2"

/-- Reads the checkpoints of a group. -/
def selectGroupSql (s : CheckpointSchema) : String :=
  "SELECT " ++ columns ++ " FROM " ++ s.table ++ " WHERE group_id = $1 ORDER BY pipeline_name"

/-- Forgets the checkpoint of a pipeline. -/
def deleteSql (s : CheckpointSchema) : String :=
  "DELETE FROM " ++ s.table ++ " WHERE group_id = $1 AND pipeline_name = $2"

/-- The values of a checkpoint, column by column. -/
def bindsOf (c : Checkpoint) : List Bind :=
  [.text c.group, .text c.pipeline, .text c.status.text, .instant c.upTo, .instant c.lastRunAt,
    .int c.duration, .int c.rows, .optionalText c.message, .int c.totalDuration, .int c.totalRows]

variable {ω : Type}

/-- Creates the schema and the table if they do not exist. -/
def create (s : CheckpointSchema) (session : Session ω) : StateM ω (Except Error Unit) := do
  match ← session.execute ⟨s.createSchemaSql, []⟩ with
  | .error e => return .error (.database e)
  | .ok () => return (← session.execute ⟨s.createTableSql, []⟩).mapError .database

/-- A database error in an access to checkpoints. -/
def accessError (e : DatabaseError) : Error := .repository e.message

/-- The table as a store. -/
def store (s : CheckpointSchema) (session : Session ω) : CheckpointStore ω where
  get group pipeline := do
    let answer ← session.fetchCheckpoints ⟨s.selectOneSql, [.text group, .text pipeline]⟩
    return (answer.mapError accessError).map (·.head?)
  put c := do return (← session.execute ⟨s.upsertSql, bindsOf c⟩).mapError accessError
  delete group pipeline := do
    return (← session.execute ⟨s.deleteSql, [.text group, .text pipeline]⟩).mapError accessError
  list group := do
    return (← session.fetchCheckpoints ⟨s.selectGroupSql, [.text group]⟩).mapError accessError

end CheckpointSchema

end Ingest.Sql
