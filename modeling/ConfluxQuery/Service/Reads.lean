import ConfluxQuery.Service.Queries

/-!
# Reading queries

Cancellation, and the operations that read a query's result, schema and events, on the node that
ran it or anywhere in the cluster.
-/

namespace ConfluxQuery

open Call

namespace Gateway

variable (gateway : Gateway) (principal : AuthenticatedPrincipal)

/-- Request cancellation of a query and record that. -/
def cancel (queryId : String) : Call QueryStatus := do
  let reference ← gateway.ownedRecord principal queryId
  records (.cancel reference)
  records (.pushEvent reference (.state .cancelling) false)
  return queryStatus (← records (.inspect reference))

/-- Rows of a result from `start` to `stop`, from memory or from the spill file. -/
def loadPage (storage : ResultStorage) (start stop : Nat) : Call (List RecordBatch) := do
  match storage with
  | .memory batches => return sliceBatches batches start stop
  | .spill file _ =>
    let entries ← Prog.lift ((← host (.readFile file)).mapError storageServiceError)
    Prog.lift (loadFrom start stop 0 entries)

/-- A page of a query's result, once the query has ended. -/
def resultPage (queryId : String) (offset limit : Nat) : Call ResultPage := do
  let reference ← gateway.ownedRecord principal queryId
  let record ← records (.inspect reference)
  Prog.ensure (!record.data.storage.writing) (queryRunning resultsPending)
  refuseFailed .failedPrecondition record
  Prog.ensure record.data.state.terminal (queryRunning resultsPending)
  let rows := record.data.rows
  let bounds := pageBounds rows offset limit
  let batches ← loadPage record.data.storage bounds.1 bounds.2
  return pageOf rows bounds.2 batches

/-- Number of batches a completed query retains. -/
def resultBatchCount (queryId : String) : Call Nat := do
  let reference ← gateway.ownedRecord principal queryId
  let record ← records (.inspect reference)
  Prog.ensure (record.data.state == .completed)
    (queryRunning "query must complete before partition discovery")
  match record.data.storage with
  | .memory batches => return batches.length
  | .spill _ true => Prog.fail (queryRunning "query result is still being written")
  | .spill file false =>
    let entries ← Prog.lift ((← host (.readFile file)).mapError storageServiceError)
    return entries.length

/-- A partition outside the advertised range. -/
def invalidPartition : ServiceError :=
  ⟨.invalidArgument, "invalid_result_partition", "result partition is outside the advertised range"⟩

/-- First and last batch of a partition. -/
def partitionBounds (batches partition partitions : Nat) : Nat × Nat :=
  (saturatingMul batches partition / partitions,
    saturatingMul batches (partition + 1) / partitions)

/-- A reader of one partition of a completed query's result. -/
def resultPartitionReader (queryId : String) (partition partitions : Nat) :
    Call ResultBatchReader := do
  Prog.ensure (partitions != 0 && decide (partition < partitions)) invalidPartition
  let batches ← gateway.resultBatchCount principal queryId
  let bounds := partitionBounds batches partition partitions
  gateway.resultReaderRange principal queryId bounds.1 (some (bounds.2 - bounds.1))

/-- A query as the cluster shares it. -/
def sharedQuery (queryId : String) : Call SharedQuery := do
  Prog.ensure gateway.cluster.isSome queryNotFound
  let resource ← Prog.okOr queryNotFound
    (← shared (← store (.getResource "query" queryId principal.id)))
  decode resource.payload.asQuery

/-- A shared result that is advertised but cannot be found. -/
def sharedResultMissing : ServiceError :=
  ⟨.internal, "shared_result_missing", "completed shared result is unavailable"⟩

/-- Open a shared result: the schema its file declares and its batches. -/
def openShared (missing : ServiceError) (key : String) : Call (Schema × FileReader) := do
  let file ← Prog.okOr missing (← shared (← objects (.get key)))
  let entries ← Prog.lift ((← host (.readFile file)).mapError storageServiceError)
  return (file.schema, entries)

/-- A reader of a query's result anywhere in the cluster. -/
def resultReaderClustered (queryId : String) : Call ResultBatchReader := do
  match ← (gateway.resultReader principal queryId).attempt with
  | .ok reader => return reader
  | .error _ =>
    let found ← gateway.sharedQuery principal queryId
    Prog.ensure (found.status.state == .completed) (queryRunning resultsPending)
    let key ← Prog.okOr sharedResultMissing found.resultKey
    let (schema, entries) ← openShared sharedResultMissing key
    return ⟨.shared schema, entries, 0, none⟩

/-- A page of a query's result anywhere in the cluster. -/
def resultPageClustered (queryId : String) (offset limit : Nat) : Call ResultPage := do
  match ← (gateway.resultPage principal queryId offset limit).attempt with
  | .ok page => return page
  | .error _ =>
    let status ← gateway.queryClustered principal queryId
    let reader ← gateway.resultReaderClustered principal queryId
    let batches ← Prog.lift reader.readAll
    let bounds := pageBounds status.rows offset limit
    return pageOf status.rows bounds.2 (sliceBatches batches bounds.1 bounds.2)

/-- A reader of one partition of a query's result anywhere in the cluster. -/
def resultPartitionReaderClustered (queryId : String) (partition partitions : Nat) :
    Call ResultBatchReader := do
  match ← (gateway.resultPartitionReader principal queryId partition partitions).attempt with
  | .ok reader => return reader
  | .error _ =>
    Prog.ensure (partitions != 0 && decide (partition < partitions)) invalidPartition
    let found ← gateway.sharedQuery principal queryId
    let key ← Prog.okOr (queryRunning resultsPending) found.resultKey
    let (schema, entries) ← openShared queryNotFound key
    let bounds := partitionBounds found.batchCount partition partitions
    return ⟨.shared schema, entries, bounds.1, some (bounds.2 - bounds.1)⟩

/-- The schema of a query's result. -/
def querySchema (queryId : String) : Call Schema := do
  let reference ← gateway.ownedRecord principal queryId
  let record ← records (.inspect reference)
  refuseFailed .upstream record
  match record.data.schema with
  | some schema => return schema
  | none =>
    Prog.ensure record.data.state.terminal (queryRunning "query schema is not available yet")
    return Schema.empty

/-- The events of a query after a given one. -/
def eventHistory (queryId : String) (after : Nat) : Call (List ServiceEvent) := do
  let reference ← gateway.ownedRecord principal queryId
  let record ← records (.inspect reference)
  return record.data.events.filter fun event => decide (after < event.id)

/-- Stop accepting work and cancel the queries that run. -/
def beginShutdown : Call Unit := do
  host .beginShutdown
  records .cancelActive

end Gateway

end ConfluxQuery
