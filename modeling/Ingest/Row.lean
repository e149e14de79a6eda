import Ingest.Time.Reading
import Ingest.Time.Stamp
import Ingest.Value.Basic

/-!
# Row — what pipelines move

The engine looks at one thing of a row, its timestamp; `Timed` is the class of types that have one.
A `Row` is a schema-less row: a timestamp and named JSON values.
-/

namespace Ingest

/-- Types whose values carry the timestamp they are ordered by. -/
class Timed (ρ : Type) where
  /-- The timestamp of a row. -/
  time : ρ → Instant

export Timed (time)

/-- The fields of a row, by name. -/
abbrev Fields := OrderedMap String Value

/-- A schema-less row. -/
structure Row where
  /-- The instant the row is ordered by. -/
  timestamp : Instant
  /-- The named values. -/
  fields : Fields

namespace Row

instance : Timed Row := ⟨Row.timestamp⟩

/-- The value of a field, if the row has it. -/
def get? (r : Row) (field : String) : Option Value := r.fields.get? field

/-- The value of a field; a missing field counts as null. -/
def valueAt (r : Row) (field : String) : Value := (r.get? field).getD .null

/-- The values of some fields, in order; a missing field counts as null. -/
def project (r : Row) (fields : List String) : List Value := fields.map r.valueAt

/-- The row with a field set. -/
def set (r : Row) (field : String) (v : Value) : Row :=
  { r with fields := r.fields.insert field v }

/-- The fields as one JSON object. -/
def payload (r : Row) : Value := .object r.fields.entries

/-- The row as data: its timestamp and its fields. -/
def toValue (r : Row) : Value :=
  .object [("fields", r.payload), ("timestamp", .string r.timestamp.text)]

/-- Reads fields from an object. -/
def fieldsOf? : Value → Option Fields
  | .object members => some (OrderedMap.ofList members)
  | _ => none

/-- Reads a timestamp from a relaxed stamp. -/
def timestampOf? : Value → Option Instant
  | .string s => Instant.ofRelaxedStamp? s
  | _ => none

/-- Reads a row from its two parts. -/
def ofParts? (timestamp fields : Value) : Option Row := do
  return ⟨← timestampOf? timestamp, ← fieldsOf? fields⟩

/-- Reads a row: an object with both parts, whatever else it holds, or a list of exactly the two. -/
def ofValue? : Value → Option Row
  | .array [timestamp, fields] => ofParts? timestamp fields
  | .object members => do
    ofParts? (← (Value.object members).get? "timestamp") (← (Value.object members).get? "fields")
  | _ => none

end Row

end Ingest
