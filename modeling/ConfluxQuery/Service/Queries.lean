import ConfluxQuery.Service.Sessions

/-!
# Query operations

Submission, collection, publication and recovery of queries, and the operations that read them.
-/

namespace ConfluxQuery

open Call

/-- A sensitive property name, as event payloads redact it. -/
def isSensitiveName (name : String) : Bool :=
  let lower := name.toList.map Char.toLower
  ["password", "token", "secret", "credential", "private_key"].any fun part =>
    decide (part.toList <:+: lower)

/-- Append an adapter's event to a record's history. -/
def recordEvent (reference : Nat) : QueryEvent → Call Unit
  | .state state => records (.pushEvent reference (.state state) state.terminal)
  | .engineQueryId id => do
    records (.setEngineQueryId reference id)
    records (.pushEvent reference (.engineQueryId id) false)
  | .rowsProduced rows => records (.pushEvent reference (.rows rows) false)
  | .progress progress => records (.pushEvent reference (.progress progress) false)
  | .sessionProperties properties =>
    records (.pushEvent reference
      (.sessionProperties (Registry.mapValues
        (fun name value => if isSensitiveName name then "<redacted>" else value) properties))
      false)

/-- What the collector remembers while it receives items. -/
structure Collected where
  /-- A batch could not be retained. -/
  overflow : Bool
  /-- Session properties the engine returned. -/
  sessionUpdates : Registry String String
  terminalEvent : Option QueryEvent

/-- An event that ends a query. -/
def QueryEvent.terminal : QueryEvent → Bool
  | state reached => reached.terminal
  | _ => false

/-- Session properties an event reports. -/
def QueryEvent.updates : QueryEvent → Registry String String
  | sessionProperties properties => properties
  | _ => ∅

/-- Receive the items of a query until there are no more. -/
def collectItems (limits : ServiceLimits) (reference : Nat) :
    List QueryItem → Collected → Call Collected
  | [], collected => return collected
  | .event event :: rest, collected => do
    let collected := { collected with
      sessionUpdates := Registry.extend collected.sessionUpdates event.updates }
    if event.terminal then
      collectItems limits reference rest { collected with terminalEvent := some event }
    else
      recordEvent reference event
      collectItems limits reference rest collected
  | .batch batch :: rest, collected => do
    let stored ← records (.collectBatch limits reference batch)
    if stored then collectItems limits reference rest collected
    else
      records (.cancel reference)
      collectItems limits reference rest { collected with overflow := true }

/-- End the session of a stateless query. -/
def closeStatelessSession (sessionId : String) (closeSession : Bool) : Call Unit :=
  if closeSession then do
    let _ ← sessions (.close sessionId)
    owners (.remove sessionId)
  else return ()

/-- Apply the session properties an engine returned, when the query succeeded and its session
outlives it. -/
def applySessionUpdates (sessionId : String) (sessionVersion : Nat) (finish : Except CoreError Unit)
    (closeSession : Bool) (updates : Registry String String) : Call Unit :=
  if finish.isOk && !closeSession && !updates.entries.isEmpty then do
    let _ ← sessions (.setOptions sessionId sessionVersion updates)
  else return ()

/-- The adapter reports that the query was cancelled. -/
def CoreError.isCancelled : CoreError → Bool
  | driver error => error.code == "cancelled"
  | _ => false

/-- The final event of a query. -/
def finalEvent (reference : Nat) (finish : Except CoreError Unit) (overflow : Bool)
    (terminalEvent : Option QueryEvent) : Call Unit :=
  match finish with
  | .error error =>
    if error.isCancelled then recordEvent reference (terminalEvent.getD (.state .cancelled))
    else do
      records (.setErrorIfNone reference ⟨"query_failed", error.display⟩)
      records (.pushEvent reference (.state .failed) true)
  | .ok () =>
    if overflow then records (.pushEvent reference (.state .failed) true)
    else recordEvent reference (terminalEvent.getD (.state .completed))

/-- Close the result file of a query and keep the error when that fails. -/
def finishCollected (reference : Nat) : Call Bool := do
  match ← records (.finishResults reference) with
  | .ok () => return false
  | .error error =>
    records (.setError reference error)
    return true

/-- Collect everything an adapter sends for a query and bring its record to an end. -/
def collectQuery (limits : ServiceLimits) (reference : Nat) (sessionId : String)
    (sessionVersion : Nat) (run : AdapterRun) (closeSession : Bool) : Call Unit := do
  let collected ← collectItems limits reference run.items ⟨false, ∅, none⟩
  applySessionUpdates sessionId sessionVersion run.finish closeSession collected.sessionUpdates
  let broken ← finishCollected reference
  finalEvent reference run.finish (collected.overflow || broken) collected.terminalEvent
  closeStatelessSession sessionId closeSession

namespace Gateway

variable (gateway : Gateway) (principal : AuthenticatedPrincipal)

/-- The record of one's own query. -/
def ownedRecord (queryId : String) : Call Nat := do
  gateway.cleanupExpired
  Prog.okOr queryNotFound (← records (.findOwned principal.id queryId))

/-- The status of a query on this node. -/
def query (queryId : String) : Call QueryStatus := do
  let reference ← gateway.ownedRecord principal queryId
  return queryStatus (← records (.inspect reference))

/-- Refuse a principal that runs as many queries as it may. -/
def enforceQueryQuota : Call Unit := do
  let active ← records (.countActive principal.id)
  Prog.ensure (decide (active < principal.maxConcurrentQueries))
    ⟨.resourceExhausted, "query_quota", "principal concurrent-query quota reached"⟩

/-- A number in at least sixteen hexadecimal digits. -/
def hexadecimal (number : Nat) : String :=
  let digits := Nat.toDigits 16 number
  String.ofList (List.replicate (16 - digits.length) '0' ++ digits)

/-- The identifier of a request to an adapter. -/
def requestId (number : Nat) : String := "qcli_" ++ hexadecimal number

/-- Number a request to the adapter of a session's engine. -/
def queryRequest (found : SessionSnapshot) (sql : String) : Call QueryRequest := do
  Prog.ensure (gateway.adapters.lookup found.engine).isSome
    (coreError (.adapterNotFound found.engine))
  let number ← host .nextQueryId
  return ⟨requestId number, found.id, found.version, found.target, found.engine, sql,
    found.properties⟩

/-- Submit a statement in a session and start to collect its result. -/
def submitQuery (found : SessionSnapshot) (sql : String) (parameters : Option (List RecordBatch))
    (closeSession : Bool) : Call QueryStatus := do
  ensureAvailable
  Prog.ensure (!(sql.isEmpty || decide (gateway.limits.maxSqlBytes < sql.utf8ByteSize)))
    ⟨.invalidArgument, "invalid_sql_size",
      "SQL must contain 1..=" ++ toString gateway.limits.maxSqlBytes ++ " bytes"⟩
  gateway.cleanupExpired
  enforceQueryQuota principal
  let size ← records .len
  Prog.ensure (decide (size < gateway.limits.maxQueries))
    ⟨.resourceExhausted, "query_limit", "local retained-query limit reached"⟩
  let request ← gateway.queryRequest found sql
  let run ← adapter (.execute request parameters)
  let uuid ← host .uuid
  let record : QueryRecord :=
    ⟨"qcli_" ++ uuid, principal.id, found.id, found.version, found.target, found.engine, false,
      .submitted⟩
  let reference ← records (.insert record)
  let response := queryStatus (← records (.inspect reference))
  host (.spawn (.collectQuery reference found.id found.version run closeSession))
  return response

/-- Submit a statement in a session of this node. -/
def submitSessionQuery (sessionId sql : String) : Call QueryStatus := do
  let found ← session principal sessionId
  gateway.submitQuery principal found sql none false

/-- Submit a statement in a session of its own. -/
def submitStatelessQuery (targetName : String) (overrides : Registry String String)
    (sql : String) : Call QueryStatus := do
  let found ← gateway.createSession principal targetName overrides
  match ← (gateway.submitQuery principal found sql none true).attempt with
  | .ok status => return status
  | .error error =>
    let _ ← sessions (.close found.id)
    owners (.remove found.id)
    Prog.fail error

/-- The prefix of a principal's objects. -/
def principalObjectPrefix (id : String) : String :=
  "principals/" ++ hexadecimal (gateway.hashPrincipal id).toNat

/-- Write a query's status to the shared store, over the version read just before. -/
def putSharedQuery (status : QueryStatus) (resultKey : Option String) (batchCount : Nat)
    (lease : QueryLease) : Call Unit := do
  let expiresAt ← chronoDeadline (15 * 60 * 1000)
  let resource : Resource := ⟨status.id, principal.id, "query", 0,
    .query ⟨status, resultKey, batchCount, lease.fencingToken⟩, expiresAt⟩
  let current ← shared (← store (.getResource "query" status.id principal.id))
  let _ ← shared (← store (.putResource resource
    ((current.map SharedResource.version).or (some 0))))

/-- Claim a query for this node, share its status and start to publish its completion. -/
def publishClusterQuery (status : QueryStatus) : Call Unit := do
  match gateway.cluster with
  | none => return ()
  | some cluster =>
    let lease ← shared (← store (.claimQuery status.id principal.id cluster.nodeId
      cluster.leaseTtl))
    putSharedQuery principal status none 0 lease
    host (.spawn (.publishQueryCompletion principal status.id lease))

/-- Submit a statement in a session of the cluster. -/
def submitSessionQueryClustered (sessionId sql : String) : Call QueryStatus := do
  let found ← gateway.sessionClustered principal sessionId
  let status ← gateway.submitQuery principal found sql none false
  gateway.publishClusterQuery principal status
  return status

/-- Submit a statement in a shared session of its own. -/
def submitStatelessQueryClustered (targetName : String) (overrides : Registry String String)
    (sql : String) : Call QueryStatus := do
  let found ← gateway.createSessionClustered principal targetName overrides
  let status ← gateway.submitQuery principal found sql none true
  gateway.publishClusterQuery principal status
  return status

/-- Refuse a record that failed, with its own error. -/
def refuseFailed (kind : ServiceErrorKind) (record : QueryRecord) : Call Unit :=
  match record.data.error with
  | some error => Prog.fail ⟨kind, error.code, error.message⟩
  | none => return ()

/-- A reader of part of a query's result, once the query has completed or been cancelled. -/
def resultReaderRange (queryId : String) (skip : Nat) (remaining : Option Nat) :
    Call ResultBatchReader := do
  let reference ← gateway.ownedRecord principal queryId
  let record ← records (.inspect reference)
  refuseFailed .failedPrecondition record
  Prog.ensure (record.data.state == .completed || record.data.state == .cancelled)
    (queryRunning resultsPending)
  match record.data.storage with
  | .memory batches => return ⟨.memory, batches.map .ok, skip, remaining⟩
  | .spill file false =>
    let entries ← Prog.lift ((← host (.readFile file)).mapError storageServiceError)
    return ⟨.spill file.schema, entries, skip, remaining⟩
  | .spill _ true => Prog.fail (queryRunning resultsPending)

/-- A reader of a query's result. -/
def resultReader (queryId : String) : Call ResultBatchReader :=
  gateway.resultReaderRange principal queryId 0 none

/-- Read a result to its end and encode it, if all of that succeeds. -/
def encodeReader (reader : ResultBatchReader) : Call (Option (IpcFile × Nat)) := do
  match reader.readAll with
  | .error _ => return none
  | .ok batches =>
    let encoded ← host (.encode batches)
    return encoded.toOption.map fun file => (file, batches.length)

/-- The encoded result of a completed query, if it can be read. -/
def retainedResult (status : QueryStatus) (queryId : String) : Call (Option (IpcFile × Nat)) := do
  if status.state == .completed then
    match ← (gateway.resultReader principal queryId).attempt with
    | .error _ => return none
    | .ok reader => encodeReader reader
  else return none

/-- Share the result of a query that has ended, and then its final status. -/
def publishEnded (queryId : String) (status : QueryStatus) (lease : QueryLease) : Call Unit := do
  let retained ← gateway.retainedResult principal status queryId
  let published : QueryStatus × Option String × Nat ← match retained with
    | none => pure (status, none, 0)
    | some (file, batches) => do
      let key := gateway.principalObjectPrefix principal.id ++ "/" ++ queryId ++ ".arrow"
      match ← objects (.put key file) with
      | .ok () => pure (status, some key, batches)
      | .error _ => pure ({ status with
          state := .failed
          error := some ⟨"shared_result_store",
            "query completed but shared result retention failed"⟩ }, none, 0)
  let _ ← (putSharedQuery principal published.1 published.2.1 published.2.2 lease).attempt
  let _ ← store (.releaseQuery lease)

/-- Publish a query's status until it has ended or its lease is lost. -/
def publishQueryCompletion (cluster : ClusterContext) (queryId : String) :
    Nat → QueryLease → Call Answer
  | 0, _ => return .polling
  | polls + 1, lease => do
    match ← (gateway.query principal queryId).attempt with
    | .error _ => return .done
    | .ok status =>
      if status.state.terminal then
        gateway.publishEnded principal queryId status lease
        return .done
      else
        let _ ← (putSharedQuery principal status none 0 lease).attempt
        match ← store (.renewQuery lease cluster.leaseTtl) with
        | .ok renewed => publishQueryCompletion cluster queryId polls renewed
        | .error _ => return .done

/-- The status of a query anywhere in the cluster. -/
def queryClustered (queryId : String) : Call QueryStatus := do
  match ← (gateway.query principal queryId).attempt with
  | .ok status => return status
  | .error _ =>
    Prog.ensure gateway.cluster.isSome queryNotFound
    let resource ← Prog.okOr queryNotFound
      (← shared (← store (.getResource "query" queryId principal.id)))
    return (← decode resource.payload.asQuery).status

/-- Declare a query failed whose node was lost. -/
def recoverQueryClustered (queryId : String) : Call QueryStatus := do
  let cluster ← Prog.okOr queryNotFound gateway.cluster
  let resource ← Prog.okOr queryNotFound
    (← shared (← store (.getResource "query" queryId principal.id)))
  let found ← decode resource.payload.asQuery
  if found.status.state.terminal then return found.status
  else
    let lease ← shared (← store (.claimQuery queryId principal.id cluster.nodeId
      cluster.leaseTtl))
    let status := { found.status with
      state := .failed
      error := some ⟨"orphaned_query",
        "the owning qcli node was lost and this adapter cannot reattach safely"⟩ }
    let expiresAt ← chronoDeadline gateway.limits.resultTtl
    let _ ← shared (← store (.putResource
      { resource with
        payload := .query { found with status := status, fencingToken := lease.fencingToken }
        expiresAt := expiresAt }
      (some resource.version)))
    let _ ← store (.releaseQuery lease)
    return status

end Gateway

end ConfluxQuery
