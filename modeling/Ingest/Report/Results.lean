import Ingest.Checkpoint
import Ingest.Report.Table
import Ingest.RunReport
import Ingest.Value.Indented

/-!
# Report/Results — what a command prints

Reports and checkpoints are printed as a table, or as JSON with the fields in the order of the record.
-/

namespace Ingest

/-- Records as a JSON list. -/
def recordsText (records : List (List (String × Value))) : String :=
  (Value.array (records.map .object)).indented

/-- The row of a report in a table. -/
def RunReport.cells (r : RunReport) : List String :=
  [r.pipeline, r.status.text, toString r.rows, r.upTo.offsetText, toString r.duration,
    r.message.getD ""]

/-- The row of a checkpoint in a table. -/
def Checkpoint.cells (c : Checkpoint) : List String :=
  [c.pipeline, c.status.text, c.upTo.offsetText, c.lastRunAt.offsetText,
    toString c.rows ++ " / " ++ toString c.totalRows, c.message.getD ""]

/-- The text of reports. -/
def reportsText (json : Bool) (rs : List RunReport) : String :=
  if json then recordsText (rs.map RunReport.members)
  else Table.text {
    header := ["Pipeline", "Status", "Rows", "Last processed", "Duration (ms)", "Error"]
    rows := rs.map RunReport.cells }

/-- The text of checkpoints. -/
def checkpointsText (json : Bool) (cs : List Checkpoint) : String :=
  if json then recordsText (cs.map Checkpoint.members)
  else Table.text {
    header := ["Pipeline", "Status", "Last processed", "Last run", "Rows (last / total)", "Error"]
    rows := cs.map Checkpoint.cells }

end Ingest
