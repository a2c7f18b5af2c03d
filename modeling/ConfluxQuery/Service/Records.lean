import ConfluxQuery.Service.Types

/-!
# Query records

The gateway's query registry: records shared by reference, each with its event history and its
retained result. A record stays reachable for those that hold a reference after it has left the
registry. A result is kept in memory and moves to an Arrow IPC spill file once it outgrows the
memory limit; any of the file's calls may fail. Spill paths are left out: they are fresh for each
file and only name it. The broadcast channel that repeats events to subscribers is left out too.
-/

namespace ConfluxQuery

/-- The content of an Arrow IPC file. -/
structure IpcFile where
  schema : Schema
  batches : List RecordBatch
  intact : Bool
  finished : Bool
  deriving DecidableEq, Repr

/-- An open reader: what its successive calls of `next` will give. -/
abbrev FileReader : Type := List (Except String RecordBatch)

/-- Outcomes of file operations during one section, as the environment decides them. A reader of a
file whose writes all succeeded has one entry for each batch written, and each entry it reads
successfully is that batch. -/
structure FileIo where
  create : Except String Unit
  header : Except String Unit
  /-- Writing a batch, by position among the writes of the section. -/
  write : Nat → Except String Unit
  finish : Except String Unit
  /-- Opening a file and its reader. -/
  read : IpcFile → Except String FileReader
  /-- The round trip of the format. -/
  roundTrip : ∀ file reader, file.intact = true → file.finished = true → read file = .ok reader →
    List.Forall₂ (fun entry batch => ∀ value, entry = .ok value → value = batch) reader
      file.batches

/-- Where a result is kept. -/
inductive ResultStorage
  | memory (batches : List RecordBatch)
  | spill (file : IpcFile) (writing : Bool)

/-- The spill file is still being written. -/
def ResultStorage.writing : ResultStorage → Bool
  | memory _ => false
  | spill _ writing => writing

/-- Payload of an event. -/
inductive EventData
  | state (state : QueryState)
  | engineQueryId (id : String)
  | rows (rows : Nat)
  | progress (progress : QueryProgress)
  | sessionProperties (properties : Registry String String)

/-- One entry of a query's event history. -/
structure ServiceEvent where
  /-- Position in the history, from one. -/
  id : Nat
  data : EventData
  /-- The query has ended with this event. -/
  terminal : Bool

/-- The changing part of a query record. -/
structure QueryData where
  state : QueryState
  engineQueryId : Option String
  rows : Nat
  retainedBytes : Nat
  /-- Schema of the first batch. -/
  schema : Option Schema
  storage : ResultStorage
  /-- Event history, oldest first. -/
  events : List ServiceEvent
  /-- Identifier of the next event. -/
  nextEventId : Nat
  error : Option QueryError
  completedAt : Option Nat

/-- A submitted query before anything has happened to it. -/
def QueryData.submitted : QueryData where
  state := .submitted
  engineQueryId := none
  rows := 0
  retainedBytes := 0
  schema := none
  storage := .memory []
  events := []
  nextEventId := 1
  error := none
  completedAt := none

/-- A query record. -/
structure QueryRecord where
  id : String
  owner : String
  sessionId : String
  sessionVersion : Nat
  target : String
  engine : String
  /-- Cancellation has been requested. -/
  cancelled : Bool
  data : QueryData

/-- A query's public status. -/
structure QueryStatus where
  id : String
  sessionId : String
  sessionVersion : Nat
  target : String
  engine : String
  engineQueryId : Option String
  state : QueryState
  rows : Nat
  retainedBytes : Nat
  error : Option QueryError
  deriving DecidableEq, Repr

/-- The status of a record. -/
def queryStatus (record : QueryRecord) : QueryStatus where
  id := record.id
  sessionId := record.sessionId
  sessionVersion := record.sessionVersion
  target := record.target
  engine := record.engine
  engineQueryId := record.data.engineQueryId
  state := record.data.state
  rows := record.data.rows
  retainedBytes := record.data.retainedBytes
  error := record.data.error

/-- Append an event. A state event sets the state, and the time of completion when it is
terminal. -/
def pushEvent (now : Nat) (event : EventData) (terminal : Bool) (data : QueryData) : QueryData :=
  let data := match event with
    | .state state =>
      { data with
        state := state
        completedAt := if terminal then some now else data.completedAt }
    | _ => data
  { data with
    events := data.events ++ [⟨data.nextEventId, event, terminal⟩]
    nextEventId := data.nextEventId + 1 }

namespace IpcFile

/-- A file with its header written. -/
def start (schema : Schema) : IpcFile := ⟨schema, [], true, false⟩

/-- A file after one more batch. -/
def append (file : IpcFile) (batch : RecordBatch) : IpcFile :=
  { file with batches := file.batches ++ [batch] }

/-- Write batches, the first at position `position` of the section. -/
def writeAll (io : FileIo) (position : Nat) (file : IpcFile) :
    List RecordBatch → Except String IpcFile
  | [] => .ok file
  | batch :: rest =>
    match io.write position with
    | .error message => .error message
    | .ok () => writeAll io (position + 1) (file.append batch) rest

end IpcFile

/-- Write one batch to an open spill file and count it. -/
def spillBatch (io : FileIo) (position : Nat) (file : IpcFile) (batch : RecordBatch)
    (data : QueryData) : Except QueryError Unit × QueryData :=
  match io.write position with
  | .error message =>
    (.error (storageError message),
      { data with storage := .spill { file with intact := false } true })
  | .ok () =>
    (.ok (), { data with
      storage := .spill (file.append batch) true
      rows := wrappingAdd data.rows batch.numRows
      retainedBytes := wrappingAdd data.retainedBytes batch.memorySize })

/-- Retain one batch. The result moves to a spill file when it outgrows the memory limit; its
batches have left memory by the time they are written, so a failed write loses them. -/
def storeBatch (limits : ServiceLimits) (io : FileIo) (batch : RecordBatch) (data : QueryData) :
    Except QueryError Unit × QueryData :=
  let data := if data.schema.isNone then { data with schema := some batch.schema } else data
  let bytes := batch.memorySize
  if saturatingAdd data.retainedBytes bytes > limits.maxResultBytesPerQuery then
    (.error ⟨"result_limit", "query result exceeds the local " ++
      toString limits.maxResultBytesPerQuery ++ "-byte retention limit"⟩, data)
  else
    match data.storage with
    | .memory existing =>
      if saturatingAdd data.retainedBytes bytes > limits.memoryResultBytesPerQuery then
        match io.create, io.header with
        | .error message, _ => (.error (storageError message), data)
        | .ok (), .error message => (.error (storageError message), data)
        | .ok (), .ok () =>
          match IpcFile.writeAll io 0 (IpcFile.start batch.schema) existing with
          | .error message => (.error (storageError message), { data with storage := .memory [] })
          | .ok file => spillBatch io existing.length file batch data
      else
        (.ok (), { data with
          storage := .memory (existing ++ [batch])
          rows := wrappingAdd data.rows batch.numRows
          retainedBytes := wrappingAdd data.retainedBytes bytes })
    | .spill file true => spillBatch io 0 file batch data
    | .spill _ false =>
      (.error ⟨"result_storage", "result spill was already finalized"⟩, data)

/-- The collector's section for one batch: retain it, and keep the error when that fails. -/
def collectBatch (limits : ServiceLimits) (io : FileIo) (batch : RecordBatch) (data : QueryData) :
    Bool × QueryData :=
  match storeBatch limits io batch data with
  | (.ok (), data) => (true, data)
  | (.error error, data) => (false, { data with error := some error })

/-- Close the spill file, if there is one. -/
def finishResults (io : FileIo) (data : QueryData) : Except QueryError Unit × QueryData :=
  match data.storage with
  | .spill file true =>
    match io.finish with
    | .error message => (.error (storageError message), { data with storage := .spill file false })
    | .ok () => (.ok (), { data with storage := .spill { file with finished := true } false })
  | .spill _ false => (.ok (), data)
  | .memory _ => (.ok (), data)

/-- The query registry. References count records in order of creation. -/
structure Records where
  heap : List QueryRecord
  /-- References of the records in the registry, by public identifier. -/
  listed : Registry String Nat

namespace Records

/-- A registry without records. -/
def empty : Records := ⟨[], ∅⟩

/-- The record of a reference. -/
def get (records : Records) (reference : Nat) : Option QueryRecord := records.heap[reference]?

/-- Change the record of a reference. -/
def modify (records : Records) (reference : Nat) (change : QueryRecord → QueryRecord) : Records :=
  { records with heap := records.heap.modify reference change }

/-- Change the data of a record. -/
def modifyData (records : Records) (reference : Nat) (change : QueryData → QueryData) : Records :=
  records.modify reference fun record => { record with data := change record.data }

/-- Add a record. -/
def insert (records : Records) (record : QueryRecord) : Records where
  heap := records.heap ++ [record]
  listed := records.listed.insert record.id records.heap.length

/-- A listed record satisfies a test. -/
def satisfies (records : Records) (test : QueryRecord → Bool) (reference : Nat) : Bool :=
  (records.get reference).any test

/-- Number of listed records that satisfy a test. -/
def countListed (records : Records) (test : QueryRecord → Bool) : Nat :=
  Registry.count (fun _ reference => records.satisfies test reference) records.listed

/-- Request cancellation of every listed record that satisfies a test. -/
def cancelWhere (records : Records) (test : QueryRecord → Bool) : Records :=
  { records with
    heap := records.heap.mapIdx fun reference record =>
      if (records.listed.entries.any fun entry => entry.2 == reference) && test record then
        { record with cancelled := true }
      else record }

/-- Keep the listed records that satisfy a test. -/
def retain (records : Records) (test : QueryRecord → Bool) : Records :=
  { records with
    listed := Registry.retain (fun _ reference => records.satisfies test reference)
      records.listed }

/-- The reference of an identifier, when its record belongs to a principal. -/
def findOwned (records : Records) (principal id : String) : Option Nat :=
  (records.listed.lookup id).filter (records.satisfies fun record => record.owner == principal)

end Records

instance : Inhabited QueryRecord := ⟨⟨"", "", "", 0, "", "", false, .submitted⟩⟩

/-- The sections on query records that run under one lock. The registry's sections visit the data
of each record they look at. -/
inductive RecordOp
  | len
  | countActive (principal : String)
  | activeQueryCount
  | insert (record : QueryRecord)
  | findOwned (principal id : String)
  | cancelSession (sessionId : String)
  | cancelActive
  | retainUnexpired (now ttl : Nat)
  | cancel (reference : Nat)
  | inspect (reference : Nat)
  | pushEvent (reference : Nat) (event : EventData) (terminal : Bool)
  | setEngineQueryId (reference : Nat) (id : String)
  | collectBatch (limits : ServiceLimits) (reference : Nat) (batch : RecordBatch)
  | finishResults (reference : Nat)
  | setError (reference : Nat) (error : QueryError)
  | setErrorIfNone (reference : Nat) (error : QueryError)

/-- Reply to a section on query records. -/
@[reducible] def RecordOp.Reply : RecordOp → Type
  | len => Nat
  | countActive _ => Nat
  | activeQueryCount => Nat
  | insert _ => Nat
  | findOwned _ _ => Option Nat
  | cancelSession _ => Unit
  | cancelActive => Unit
  | retainUnexpired _ _ => Unit
  | cancel _ => Unit
  | inspect _ => QueryRecord
  | pushEvent _ _ _ => Unit
  | setEngineQueryId _ _ => Unit
  | collectBatch _ _ _ => Bool
  | finishResults _ => Except QueryError Unit
  | setError _ _ => Unit
  | setErrorIfNone _ _ => Unit

/-- The query has not ended. -/
def QueryRecord.active (record : QueryRecord) : Bool := record.data.completedAt.isNone

/-- The record has not ended, or ended less than `ttl` ago. -/
def QueryRecord.unexpired (now ttl : Nat) (record : QueryRecord) : Bool :=
  match record.data.completedAt with
  | none => true
  | some completed => decide (now - completed < ttl)

/-- Perform a section on query records at a time, with the outcomes of its file operations. -/
def RecordOp.apply (now : Nat) (io : FileIo) (records : Records) :
    (op : RecordOp) → op.Reply × Records
  | len => (Registry.size records.listed, records)
  | countActive principal =>
    (records.countListed fun record => record.owner == principal && record.active, records)
  | activeQueryCount => (records.countListed QueryRecord.active, records)
  | insert record => (records.heap.length, records.insert record)
  | findOwned principal id => (records.findOwned principal id, records)
  | cancelSession sessionId =>
    ((), records.cancelWhere fun record => record.sessionId == sessionId)
  | cancelActive => ((), records.cancelWhere QueryRecord.active)
  | retainUnexpired now ttl => ((), records.retain (QueryRecord.unexpired now ttl))
  | cancel reference =>
    ((), records.modify reference fun record => { record with cancelled := true })
  | inspect reference => ((records.get reference).getD default, records)
  | pushEvent reference event terminal =>
    ((), records.modifyData reference (ConfluxQuery.pushEvent now event terminal))
  | setEngineQueryId reference id =>
    ((), records.modifyData reference fun data => { data with engineQueryId := some id })
  | collectBatch limits reference batch =>
    (match records.get reference with
      | some record => (ConfluxQuery.collectBatch limits io batch record.data).1
      | none => true,
      records.modifyData reference fun data => (ConfluxQuery.collectBatch limits io batch data).2)
  | finishResults reference =>
    (match records.get reference with
      | some record => (ConfluxQuery.finishResults io record.data).1
      | none => .ok (),
      records.modifyData reference fun data => (ConfluxQuery.finishResults io data).2)
  | setError reference error =>
    ((), records.modifyData reference fun data => { data with error := some error })
  | setErrorIfNone reference error =>
    ((), records.modifyData reference fun data =>
      { data with error := data.error.or (some error) })

end ConfluxQuery
