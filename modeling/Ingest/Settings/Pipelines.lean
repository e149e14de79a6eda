import Ingest.Aggregation.Grouping
import Ingest.Aggregation.Streaming
import Ingest.Pipeline
import Ingest.Settings.Basic
import Ingest.Sql.Sink
import Ingest.Sql.Source
import Ingest.Value.Record

/-!
# Settings/Pipelines — which pipelines there are

A pipelines file lists pipelines, each a query and its sinks. Reading it is strict about the kinds
of values; what the values say is checked afterwards, pipeline by pipeline.
-/

namespace Ingest

/-- How the groups of an aggregation are held. -/
inductive Strategy where
  | streaming
  | grouping
deriving DecidableEq, Repr

/-- The word for a strategy. -/
def Strategy.word : Strategy → String
  | streaming => "streaming"
  | grouping => "grouping"

/-- Reads the word for a strategy. -/
def Strategy.ofWord? (s : String) : Option Strategy :=
  if s = "streaming" then some streaming else if s = "grouping" then some grouping else none

/-- An aggregation in front of a sink. -/
structure AggregateSettings where
  /-- How rows are grouped and merged. -/
  fields : FieldAggregation
  /-- How groups are held. -/
  strategy : Strategy
  /-- The greatest number of groups held. -/
  bufferSize : Option Nat
deriving DecidableEq, Repr

/-- A sink of a pipeline. -/
structure SinkSettings extends Sql.SinkStatements where
  /-- The aggregation in front of the sink. -/
  aggregate : Option AggregateSettings
deriving DecidableEq, Repr

/-- A pipeline. -/
structure PipelineSettings where
  /-- The name of the pipeline. -/
  name : String
  /-- The query of its pages. -/
  query : String
  /-- The column that holds the timestamp. -/
  timestampColumn : String
  /-- The wanted size of a page. -/
  extractionLimit : Option Nat
  /-- The sinks. -/
  sinks : List SinkSettings
deriving DecidableEq, Repr

/-! ## Reading -/

namespace AggregateSettings

/-- A field with a list of names; none if it is missing. -/
def names? : Option Value → Option (List String)
  | none => some []
  | some v => v.list? Value.string?

/-- Reads an aggregation; only an object will do. -/
def ofValue? (form : RecordForm) (v : Value) : Option AggregateSettings := do
  let .object _ := v | none
  let groupBy ← (← v.get? "group_by").list? Value.string?
  let fields : FieldAggregation := ⟨groupBy, ← names? (v.get? "sum"), ← names? (v.get? "max")⟩
  let strategy ← match v.get? "strategy" with
    | none => pure .streaming
    | some s => Strategy.ofWord? (← s.caseName? form)
  return ⟨fields, strategy, ← Value.optional? Value.nat64? (v.get? "buffer_size")⟩

/-- The aggregation as data. -/
def toValue (a : AggregateSettings) : Value :=
  .ofMembers
    [("group_by", .array (a.fields.groupBy.map .string)), ("sum", .array (a.fields.sum.map .string)),
      ("max", .array (a.fields.max.map .string)), ("strategy", .string a.strategy.word),
      ("buffer_size", (a.bufferSize.map Value.ofNat).getD .null)]

end AggregateSettings

namespace SinkSettings

/-- Reads a sink. -/
def ofValue? (form : RecordForm) (v : Value) : Option SinkSettings := do
  let field ← v.fields? form ["name", "commit_sql", "delete_sql", "processable_column", "aggregate"]
  return {
    name := ← (← field "name").string?
    commit := ← (← field "commit_sql").string?
    delete := ← Value.optional? Value.string? (field "delete_sql")
    processableColumn := ← Value.optional? Value.string? (field "processable_column")
    aggregate := ← Value.optional? (AggregateSettings.ofValue? form) (field "aggregate") }

/-- The sink as data. -/
def toValue (s : SinkSettings) : Value :=
  .ofMembers
    [("name", .string s.name), ("commit_sql", .string s.commit), ("delete_sql", .ofString? s.delete),
      ("processable_column", .ofString? s.processableColumn),
      ("aggregate", (s.aggregate.map AggregateSettings.toValue).getD .null)]

end SinkSettings

namespace PipelineSettings

/-- Reads a pipeline. -/
def ofValue? (form : RecordForm) (v : Value) : Option PipelineSettings := do
  let field ← v.fields? form ["name", "extract_sql", "timestamp_column", "extraction_limit", "sinks"]
  return {
    name := ← (← field "name").string?
    query := ← (← field "extract_sql").string?
    timestampColumn := ← (← field "timestamp_column").string?
    extractionLimit := ← Value.optional? Value.nat64? (field "extraction_limit")
    sinks := ← (← field "sinks").list? (SinkSettings.ofValue? form) }

/-- The pipeline as data. -/
def toValue (p : PipelineSettings) : Value :=
  .ofMembers
    [("name", .string p.name), ("extract_sql", .string p.query),
      ("timestamp_column", .string p.timestampColumn),
      ("extraction_limit", (p.extractionLimit.map Value.ofNat).getD .null),
      ("sinks", .array (p.sinks.map SinkSettings.toValue))]

/-- Reads a list of pipelines, which stands in an object or alone in a list; an empty one of either
kind lists no pipelines. -/
def listOfValue? (form : RecordForm) (v : Value) : Option (List PipelineSettings) :=
  match v with
  | .array [] => some []
  | v => do
    match (← v.fields? form ["pipelines"]) "pipelines" with
    | none => return []
    | some list => list.list? (ofValue? form)

/-- A list of pipelines as data. -/
def listToValue (ps : List PipelineSettings) : Value :=
  .object [("pipelines", .array (ps.map toValue))]

/-! ## Checks -/

/-- What is wrong with an aggregation. -/
def aggregateFault? (a : AggregateSettings) : Option String :=
  if a.fields.groupBy.isEmpty then some "aggregate.group_by must not be empty"
  else if a.bufferSize = some 0 then some "aggregate.buffer_size must be greater than 0"
  else none

/-- What is wrong with a sink of a pipeline. -/
def sinkFault? (pipeline : String) (s : SinkSettings) : Option String :=
  (s.aggregate.bind aggregateFault?).map fun fault =>
    "pipeline '" ++ pipeline ++ "', sink '" ++ s.name ++ "': " ++ fault

/-- What is wrong with a pipeline that stands after others of given names. -/
def fault? (before : List String) (p : PipelineSettings) : Option String :=
  if Text.blank p.name then some "pipeline name must not be empty"
  else if before.contains p.name then some ("pipeline '" ++ p.name ++ "' is defined more than once")
  else if p.sinks.isEmpty then some ("pipeline '" ++ p.name ++ "' has no sinks")
  else if p.extractionLimit = some 0 then
    some ("pipeline '" ++ p.name ++ "': extraction_limit must be greater than 0")
  else p.sinks.findSome? (sinkFault? p.name)

/-- The first thing that is wrong with pipelines that stand after others of given names. -/
def firstFault? : List String → List PipelineSettings → Option String
  | _, [] => none
  | before, p :: rest => (p.fault? before).or (firstFault? (p.name :: before) rest)

/-! ## Building -/

variable {ω : Type}

/-- The stage in front of a sink. -/
def stageOf (s : SinkSettings) : Stage Row :=
  match s.aggregate with
  | none => .direct Row
  | some a =>
    let name := s.name ++ "-aggregation"
    let size := a.bufferSize.getD 1000
    match a.strategy with
    | .streaming =>
      StreamingAggregation.stage { a.fields.toGroupBy with name := name, buffer := size }
    | .grouping => GroupingAggregation.stage { a.fields.toGroupBy with name := name, limit := size }

/-- The pipeline between two open connections. -/
def build (p : PipelineSettings) (settings : Settings) (source target : Sql.Session ω) :
    Except Error (Pipeline ω Row) := do
  let pages ← Sql.source source p.name p.query p.timestampColumn
  return {
    name := p.name
    extraction := ⟨pages, p.extractionLimit.getD settings.extractionLimit⟩
    branches := p.sinks.map fun s =>
      { stage := stageOf s, sink := s.toSinkStatements.sink target } }

end PipelineSettings

end Ingest
