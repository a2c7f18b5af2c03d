import ConfluxQuery.Core.Session

/-!
# Engine adapters

The contract between the gateway and engine adapters, from `qcli-driver-api`: requests, events and
record batches, and what an adapter can do. An adapter is outside the model; one execution of a
query is represented by what it sends, the sequence of events and batches `next_item` delivers and
the final outcome `finish` reports.
-/

namespace ConfluxQuery

/-- One column of a schema. -/
structure Field where
  name : String
  dataType : String
  nullable : Bool
  deriving DecidableEq, Repr

/-- Columns of a result. -/
structure Schema where
  fields : List Field
  deriving DecidableEq, Repr

/-- The schema without columns. -/
def Schema.empty : Schema := ⟨[]⟩

/-- Cells of one row. -/
abbrev Row : Type := List String

/-- A batch of rows. A batch without columns still has a number of rows. -/
structure RecordBatch where
  schema : Schema
  /-- Memory each column's array takes. -/
  columns : List Nat
  rows : List Row
  deriving DecidableEq, Repr

namespace RecordBatch

/-- Number of rows. -/
def numRows (batch : RecordBatch) : Nat := batch.rows.length

/-- Memory of all columns, added up in a machine word. -/
def memorySize (batch : RecordBatch) : Nat := batch.columns.sum % 2 ^ 64

/-- Some consecutive rows. -/
def slice (batch : RecordBatch) (offset length : Nat) : RecordBatch :=
  { batch with rows := (batch.rows.drop offset).take length }

end RecordBatch

/-- Lifecycle states of a query. -/
inductive QueryState
  | submitted | running | producingResults | completed | cancelling | cancelled | failed
  deriving DecidableEq, Repr

namespace QueryState

/-- The query has ended. -/
def terminal : QueryState → Bool
  | completed | cancelled | failed => true
  | submitted | running | producingResults | cancelling => false

end QueryState

/-- Progress an engine reports. -/
structure QueryProgress where
  state : Option String
  /-- The engine has scheduled the query. -/
  scheduled : Option Bool
  completedSplits : Option Nat
  totalSplits : Option Nat
  processedRows : Option Nat
  processedBytes : Option Nat
  elapsedMillis : Option Nat
  deriving DecidableEq, Repr

/-- Events an adapter sends while a query runs. -/
inductive QueryEvent
  | state (state : QueryState)
  | engineQueryId (id : String)
  | rowsProduced (rows : Nat)
  | progress (progress : QueryProgress)
  | sessionProperties (properties : Registry String String)

/-- What `next_item` delivers. -/
inductive QueryItem
  | event (event : QueryEvent)
  | batch (batch : RecordBatch)

/-- One execution of a query by its adapter: the items it sends, in the order they are delivered,
and its outcome. -/
structure AdapterRun where
  /-- Events and batches in order of delivery. -/
  items : List QueryItem
  /-- Outcome of the adapter's task. -/
  finish : Except CoreError Unit

/-- A query handed to an adapter. -/
structure QueryRequest where
  /-- Identifier given by the query service. -/
  qcliQueryId : String
  sessionId : String
  sessionVersion : Nat
  target : String
  engine : String
  sql : String
  /-- Properties of the target with the session's overrides. -/
  properties : Registry String String

/-- What bulk ingestion does with an existing table. -/
inductive IngestTableExists
  | fail | append | replace
  deriving DecidableEq, Repr

/-- A bulk ingestion handed to an adapter. -/
structure IngestRequest where
  sessionId : String
  sessionVersion : Nat
  target : String
  engine : String
  /-- Properties of the target with the session's overrides. -/
  properties : Registry String String
  catalog : Option String
  schema : Option String
  table : String
  /-- Create the table when it does not exist. -/
  createIfMissing : Bool
  ifExists : IngestTableExists
  temporary : Bool
  options : Registry String String

/-- A metadata lookup handed to an adapter. -/
structure MetadataRequest where
  identity : String
  target : String
  engine : String
  /-- Properties of the target with the session's overrides. -/
  properties : Registry String String
  catalog : Option String
  schema : Option String
  pattern : Option String

/-- Things an adapter may support. -/
inductive AdapterCapability
  | streamResults | cancelQuery | listCatalogs | listSchemas | listObjects | describeObject
  | preparedStatements | typedParameters | statementUpdates | bulkIngest
  deriving DecidableEq, Repr

/-- What an adapter supports. -/
structure AdapterCapabilities where
  supported : List AdapterCapability

/-- The adapter supports a capability. -/
def AdapterCapabilities.supports (capabilities : AdapterCapabilities)
    (capability : AdapterCapability) : Bool :=
  capabilities.supported.contains capability

/-- Schemas an adapter finds when it prepares a statement. -/
structure PreparedStatementMetadata where
  datasetSchema : Schema
  parameterSchema : Schema

end ConfluxQuery
