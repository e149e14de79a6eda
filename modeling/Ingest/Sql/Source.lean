import Ingest.Extraction
import Ingest.Sql.Parameters
import Ingest.Sql.Session
import Ingest.Value.Text

/-!
# Sql/Source — pages from a configured query

The query is wrapped so that every row comes back as a JSON object next to its timestamp.
-/

namespace Ingest.Sql

/-- The value of a parameter in a request for a page. -/
def Parameter.bindTo (f : Fetch) : Parameter → Bind
  | .group => .text f.group
  | .since => .instant f.window.since
  | .upTo => .instant f.window.upTo
  | .limit => .int (min f.limit Number.maxInt64)

/-- The row that a record of a page stands for. -/
def rowOfRecord (record : Instant × Value) : Except Error Row :=
  match record.2 with
  | .object members => .ok ⟨record.1, .ofList members⟩
  | other => .error (.extraction ("expected a JSON object per source row, got " ++ other.text))

/-- The rows of the records of a page, up to the first that is none. -/
def rowsOfRecords : List (Instant × Value) → Except Error (List Row)
  | [] => .ok []
  | record :: rest => do return (← rowOfRecord record) :: (← rowsOfRecords rest)

/-- Fetches a page of a query. -/
def fetchPage {ω : Type} (session : Session ω) (name : String) (query : BoundQuery) (f : Fetch) :
    StateM ω (Attempt (List Row)) := do
  match ← session.fetchRows ⟨query.sql, query.parameters.map (·.bindTo f)⟩ with
  | .error e => return .error (.error (.extraction (name ++ ": " ++ e.message)))
  | .ok records => return (rowsOfRecords records).mapError .error

/-- The source of a query whose rows are ordered by a column. -/
def source {ω : Type} (session : Session ω) (name query column : String) :
    Except Error (PageSource ω Row) :=
  (pageQuery query column).map fun bound => ⟨name, fetchPage session name bound⟩

end Ingest.Sql
