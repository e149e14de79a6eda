import Ingest.Row
import Ingest.Error
import Ingest.Value.Text

/-!
# Aggregation/Fields — grouping schema-less rows by their fields

Rows with equal values in the `groupBy` fields form a group. Fields in `sum` are added, fields in
`max` keep the larger value, and every other field takes the value of the later row.
-/

namespace Ingest

/-- How rows are grouped and merged. -/
structure FieldAggregation where
  /-- The fields whose values make the key. -/
  groupBy : List String
  /-- The fields that are added. -/
  sum : List String := []
  /-- The fields that keep the larger value. -/
  max : List String := []
deriving DecidableEq, Repr

namespace FieldAggregation

/-- The sum of two fields. Null counts as nothing; integers that leave 64 bits are added as
floating-point numbers. -/
def sumValues (field : String) (a b : Value) : Except Error Value :=
  match a, b with
  | .null, v => .ok v
  | v, .null => .ok v
  | .number x, .number y =>
    match x.toInt64?, y.toInt64? with
    | some m, some n =>
      if Number.fitsInt64 (m + n) then .ok (.ofInt (m + n))
      else .ok (.ofFloat (x.toFloat + y.toFloat))
    | _, _ => .ok (.ofFloat (x.toFloat + y.toFloat))
  | a, b =>
    .error (.transform ("cannot sum non-numeric values of field '" ++ field ++ "': " ++ a.text ++
      " + " ++ b.text))

/-- How two floating-point numbers compare; numbers that do not compare count as equal. -/
def compareFloats (x y : Float) : Ordering :=
  if x < y then .lt else if y < x then .gt else .eq

/-- How two fields compare: null below everything, numbers by their floating-point value, texts by
their bytes, `false` below `true`. -/
def compareValues? (a b : Value) : Option Ordering :=
  match a, b with
  | .null, _ => some .lt
  | _, .null => some .gt
  | .number x, .number y => some (compareFloats x.toFloat y.toFloat)
  | .string x, .string y => some (compare x y)
  | .bool x, .bool y => some (compare x.toNat y.toNat)
  | _, _ => none

/-- The larger of two fields; the second if neither is larger. -/
def maxValue (field : String) (a b : Value) : Except Error Value :=
  match compareValues? a b with
  | some .gt => .ok a
  | some _ => .ok b
  | none =>
    .error (.transform ("cannot compare values of field '" ++ field ++ "': " ++ a.text ++ " and " ++
      b.text))

/-- Sets each of some fields to `op` of its value in `current` and its value so far. -/
def mergeFields (op : String → Value → Value → Except Error Value) (current : Row) :
    List String → Row → Except Error Row
  | [], merged => .ok merged
  | field :: rest, merged => do
    let v ← op field (current.valueAt field) (merged.valueAt field)
    mergeFields op current rest (merged.set field v)

/-- The key of a row: the compact text of its grouped values. -/
def key (a : FieldAggregation) (r : Row) : String := (Value.array (r.project a.groupBy)).text

/-- Two rows of one group as one; `next` came later. -/
def merge (a : FieldAggregation) (current next : Row) : Except Error Row := do
  let merged ← mergeFields sumValues current a.sum next
  let merged ← mergeFields maxValue current a.max merged
  return { merged with timestamp := Max.max merged.timestamp current.timestamp }

end FieldAggregation

end Ingest
