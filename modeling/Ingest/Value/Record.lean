import Ingest.Value.Basic

/-!
# Value/Record — reading typed records from values

A record is written as an object, or as a list of all its fields in their order. Reading is strict
about the kinds of values and ignores members it does not know. Formats differ in what they let pass.
-/

namespace Ingest

/-- What a data format lets pass in records. -/
structure RecordForm where
  /-- Whether a list may go on after the last field. -/
  longLists : Bool
  /-- Whether a value may stand under the name of a case that holds nothing. -/
  isNothing : Value → Bool

/-- In JSON a list ends with the last field, and null stands under the name of a case. -/
def RecordForm.json : RecordForm where
  longLists := false
  isNothing
    | .null => true
    | _ => false

namespace Value

/-- The fields of a record whose fields have these names. A list must hold an item for each name. -/
def fields? (form : RecordForm) (names : List String) : Value → Option (String → Option Value)
  | .object members => some (Value.object members).get?
  | .array items =>
    if items.length = names.length ∨ (form.longLists ∧ names.length < items.length) then
      some fun name => (names.zip items).lookup name
    else none
  | _ => none

/-- The text of a string. -/
def string? : Value → Option String
  | .string s => some s
  | _ => none

/-- A signed integer of 64 bits. -/
def int64? : Value → Option Int
  | .number n => n.toInt64?
  | _ => none

/-- An unsigned integer of 64 bits. -/
def nat64? : Value → Option Nat
  | .number (.int n) => if 0 ≤ n ∧ n ≤ Number.maxUInt64 then some n.toNat else none
  | _ => none

/-- A list whose items can all be read. -/
def list? {α : Type} (read : Value → Option α) : Value → Option (List α)
  | .array items => items.mapM read
  | _ => none

/-- An optional field: a missing one and null are the same. -/
def optional? {α : Type} (read : Value → Option α) : Option Value → Option (Option α)
  | none | some .null => some none
  | some v => (read v).map some

/-- Names one of several cases: as a string, or as an object with nothing under that one name. -/
def caseName? (form : RecordForm) : Value → Option String
  | .string s => some s
  | .object [(name, v)] => if form.isNothing v then some name else none
  | _ => none

end Value

end Ingest
