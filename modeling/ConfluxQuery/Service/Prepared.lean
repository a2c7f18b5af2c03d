import ConfluxQuery.Service.Queries

/-!
# Prepared statements and ingestion

Operations on prepared statements, on one node and in the cluster, and the operations that run an
update or a bulk load in a session.
-/

namespace ConfluxQuery

open Call

/-- An adapter that is not registered has no capabilities. -/
def adapterUnavailable : ServiceError :=
  ⟨.invalidArgument, "adapter_not_found", "adapter capabilities are unavailable"⟩

/-- A capability the adapter lacks. -/
def unsupportedCapability (message : String) : ServiceError :=
  ⟨.failedPrecondition, "unsupported_capability", message⟩

namespace Gateway

variable (gateway : Gateway) (principal : AuthenticatedPrincipal)

/-- Refuse an engine whose adapter lacks a capability. -/
def requireCapability (engine : String) (unavailable : ServiceError)
    (capability : AdapterCapability) (message : String) : Call Unit := do
  let capabilities ← Prog.okOr unavailable (gateway.adapters.lookup engine)
  Prog.ensure (capabilities.supports capability) (unsupportedCapability message)

/-- Let the adapter of a session prepare a statement. -/
def prepare (found : SessionSnapshot) (sql : String) : Call PreparedStatementMetadata := do
  let request ← gateway.queryRequest found sql
  core ((← adapter (.prepare request)).mapError .driver)

/-- Prepare a statement in a session of this node. -/
def createPreparedStatement (sessionId sql : String) : Call PreparedStatementSnapshot := do
  ensureAvailable
  Prog.ensure (!(sql.isEmpty || decide (gateway.limits.maxSqlBytes < sql.utf8ByteSize)))
    ⟨.invalidArgument, "invalid_sql_size", "prepared SQL has an invalid size"⟩
  let found ← session principal sessionId
  gateway.requireCapability found.engine adapterUnavailable .preparedStatements
    "prepared statements are not supported by this adapter"
  let metadata ← gateway.prepare found sql
  gateway.cleanupExpired
  let created ← prepared (.create gateway.limits.maxPreparedStatements
    ⟨principal.id, sessionId, false, sql, metadata.datasetSchema, metadata.parameterSchema, [], 0⟩)
  Prog.okOr ⟨.resourceExhausted, "prepared_limit", "prepared statement limit reached"⟩ created

/-- Prepare a statement in a session of its own. The new handle is looked up again to mark that it
owns the session; the source panics when it is gone. -/
def createStatelessPreparedStatement (targetName sql : String) :
    Call PreparedStatementSnapshot := do
  let found ← gateway.createSession principal targetName ∅
  match ← (gateway.createPreparedStatement principal found.id sql).attempt with
  | .error error =>
    let _ ← (closeSession principal found.id).attempt
    Prog.fail error
  | .ok created =>
    if ← prepared (.ownSession created.handle) then return created
    else
      let impossible ← host .panic
      impossible.elim

/-- Prepare a statement in a session of the cluster and share it. -/
def createPreparedStatementClustered (sessionId sql : String) :
    Call PreparedStatementSnapshot := do
  let _ ← gateway.sessionClustered principal sessionId
  let created ← gateway.createPreparedStatement principal sessionId sql
  match gateway.cluster with
  | none => return created
  | some _ =>
    let expiresAt ← chronoDeadline gateway.limits.preparedStatementTtl
    let _ ← shared (← store (.putResource ⟨created.handle, principal.id, "prepared", 0,
      .prepared ⟨sessionId, sql, none⟩, expiresAt⟩ (some 0)))
    return created

/-- A prepared statement of this node; reading it renews it. -/
def preparedStatement (handle : String) : Call PreparedStatementSnapshot := do
  gateway.cleanupExpired
  Prog.okOr preparedNotFound (← prepared (.touch principal.id handle))

/-- The batches an encoded object holds. -/
def decodeBatches (file : IpcFile) : Call (List RecordBatch) := do
  let entries ← Prog.lift ((← host (.readFile file)).mapError storageServiceError)
  Prog.lift ((entries.mapM id).mapError storageServiceError)

/-- The parameters of a shared statement, from the object that holds them. -/
def sharedParameters : Option String → Call (List RecordBatch)
  | none => return []
  | some key => do
    let file ← Prog.okOr preparedNotFound (← shared (← objects (.get key)))
    decodeBatches file

/-- A prepared statement anywhere in the cluster: this node's own copy, or else the shared one,
which is then prepared again and hydrated here. -/
def preparedStatementClustered (handle : String) : Call PreparedStatementSnapshot := do
  match ← (gateway.preparedStatement principal handle).attempt with
  | .ok found => return found
  | .error _ =>
    Prog.ensure gateway.cluster.isSome preparedNotFound
    let resource ← Prog.okOr preparedNotFound
      (← shared (← store (.getResource "prepared" handle principal.id)))
    let found ← decode resource.payload.asPrepared
    let session ← gateway.sessionClustered principal found.sessionId
    let metadata ← gateway.prepare session found.sql
    let parameters ← sharedParameters found.parametersKey
    let now ← host .clock
    let record : PreparedStatementRecord := ⟨principal.id, found.sessionId, false, found.sql,
      metadata.datasetSchema, metadata.parameterSchema, parameters, now⟩
    prepared (.insert handle record)
    return preparedSnapshot handle record

/-- All batches have the schema of the first. -/
def sameSchemas : List RecordBatch → Bool
  | [] => true
  | first :: rest => (first :: rest).all fun batch => batch.schema == first.schema

/-- The schema of the first batch. -/
def firstSchema : List RecordBatch → Schema
  | [] => Schema.empty
  | first :: _ => first.schema

/-- Bind parameters while holding the registry's lock. -/
def bindLocked (handle : String) (parameters : List RecordBatch) :
    Call PreparedStatementSnapshot := do
  let record ← Prog.okOr preparedNotFound (← prepared (.peek principal.id handle))
  let found ← session principal record.sessionId
  gateway.requireCapability found.engine preparedNotFound .typedParameters
    "native typed parameter binding is not supported by this adapter"
  Prog.ensure (sameSchemas parameters)
    ⟨.invalidArgument, "parameter_schema_mismatch",
      "all parameter batches must have the same Arrow schema"⟩
  prepared (.bind handle
    { record with parameterSchema := firstSchema parameters, parameters := parameters })

/-- Bind parameters to a prepared statement of this node. The registry's lock is held from the
lookup to the end, on every path. -/
def bindPreparedStatement (handle : String) (parameters : List RecordBatch) :
    Call PreparedStatementSnapshot := do
  gateway.cleanupExpired
  prepared .acquire
  let result ← (gateway.bindLocked principal handle parameters).attempt
  prepared .release
  Prog.lift result

/-- Keep bound parameters as a shared object and let the shared statement name it. -/
def shareParameters (handle : String) (parameters : List RecordBatch) : Call Unit := do
  let key := gateway.principalObjectPrefix principal.id ++ "/prepared/" ++ handle ++ ".arrow"
  let file ← Prog.lift ((← host (.encode parameters)).mapError storageServiceError)
  shared (← objects (.put key file))
  let resource ← Prog.okOr preparedNotFound
    (← shared (← store (.getResource "prepared" handle principal.id)))
  let found ← decode resource.payload.asPrepared
  let expiresAt ← chronoDeadline gateway.limits.preparedStatementTtl
  let _ ← shared (← store (.putResource
    { resource with
      payload := .prepared { found with parametersKey := some key }, expiresAt := expiresAt }
    (some resource.version)))

/-- Bind parameters to a prepared statement of the cluster and share them. -/
def bindPreparedStatementClustered (handle : String) (parameters : List RecordBatch) :
    Call PreparedStatementSnapshot := do
  let _ ← gateway.preparedStatementClustered principal handle
  let bound ← gateway.bindPreparedStatement principal handle parameters
  match gateway.cluster with
  | none => return bound
  | some _ =>
    gateway.shareParameters principal handle parameters
    return bound

/-- Run a prepared statement of this node. -/
def executePreparedStatement (handle : String) : Call QueryStatus := do
  let statement ← gateway.preparedStatement principal handle
  let found ← session principal statement.sessionId
  gateway.submitQuery principal found statement.sql (some statement.parameters) false

/-- Run a prepared statement of the cluster. -/
def executePreparedStatementClustered (handle : String) : Call QueryStatus := do
  let statement ← gateway.preparedStatementClustered principal handle
  let found ← gateway.sessionClustered principal statement.sessionId
  let status ← gateway.submitQuery principal found statement.sql (some statement.parameters) false
  gateway.publishClusterQuery principal status
  return status

/-- Run a prepared update of this node. -/
def executePreparedUpdate (handle : String) : Call Int := do
  let statement ← gateway.preparedStatement principal handle
  let found ← session principal statement.sessionId
  let request ← gateway.queryRequest found statement.sql
  core ((← adapter (.executePreparedUpdate request statement.parameters)).mapError .driver)

/-- Run a prepared update of the cluster. -/
def executePreparedUpdateClustered (handle : String) : Call Int := do
  let _ ← gateway.preparedStatementClustered principal handle
  gateway.executePreparedUpdate principal handle

/-- Run an update in a session of this node. -/
def executeSessionUpdate (sessionId sql : String) : Call Int := do
  let found ← session principal sessionId
  let request ← gateway.queryRequest found sql
  core ((← adapter (.executeUpdate request)).mapError .driver)

/-- A character with the Unicode property `White_Space`. -/
def whiteSpace (character : Char) : Bool :=
  let code := character.toNat
  decide (0x9 ≤ code ∧ code ≤ 0xd) || decide (0x2000 ≤ code ∧ code ≤ 0x200a) ||
    [0x20, 0x85, 0xa0, 0x1680, 0x2028, 0x2029, 0x202f, 0x205f, 0x3000].contains code

/-- A name of nothing but white space. -/
def blank (name : String) : Bool := name.toList.all whiteSpace

/-- Load batches into a table through a session of this node. -/
def ingest (sessionId : String) (request : IngestRequest) (batches : List RecordBatch) :
    Call Int := do
  ensureAvailable
  Prog.ensure (!(blank request.table || decide (1024 < request.table.utf8ByteSize)))
    ⟨.invalidArgument, "invalid_ingest_table",
      "ingestion table must contain between 1 and 1024 bytes"⟩
  let found ← session principal sessionId
  gateway.requireCapability found.engine adapterUnavailable .bulkIngest
    "Arrow bulk ingestion is not supported by this adapter"
  let request := { request with
    sessionId := found.id, sessionVersion := found.version, target := found.target
    engine := found.engine, properties := found.properties }
  core ((← adapter (.ingest request batches)).mapError .driver)

/-- Drop a prepared statement of this node, with the session it owns. -/
def closePreparedStatement (handle : String) : Call Unit := do
  let record ← Prog.okOr preparedNotFound (← prepared (.remove principal.id handle))
  if record.ownsSession then closeSession principal record.sessionId else return ()

/-- Drop a prepared statement of the cluster. -/
def closePreparedStatementClustered (handle : String) : Call Unit := do
  let _ ← gateway.preparedStatementClustered principal handle
  closePreparedStatement principal handle
  match gateway.cluster with
  | none => return ()
  | some _ =>
    let _ ← shared (← store (.deleteResource "prepared" handle principal.id))

end Gateway

end ConfluxQuery
