import ConfluxQuery.Lib.Pool
import ConfluxQuery.Cluster.Store
import ConfluxQuery.Service.Registries
import ConfluxQuery.Service.Results

/-!
# Gateways and what they act on

The state of every gateway process, of the shared store and of the object store, and the operations
gateway programs are made of. An operation is a section of the source that runs under one lock, one
call of the shared store or the object store, one call of an adapter, or one read of the clock; each
is indivisible and reads what the environment decides from a `Reading`. A call of a store may fail,
before or after the store has applied it. The audit sink is left out: it is only written to.
-/

namespace ConfluxQuery

/-- A session as the cluster shares it. -/
structure SharedSession where
  snapshot : SessionSnapshot
  /-- Permit the session holds against the quota. -/
  quotaPermit : String

/-- A query as the cluster shares it. -/
structure SharedQuery where
  status : QueryStatus
  /-- Object that holds the result. -/
  resultKey : Option String
  batchCount : Nat
  /-- Token of the lease it was written under. -/
  fencingToken : Nat

/-- A prepared statement as the cluster shares it. -/
structure SharedPrepared where
  sessionId : String
  sql : String
  /-- Object that holds the bound parameters. -/
  parametersKey : Option String

/-- Payloads of shared resources. -/
inductive Payload
  | session (shared : SharedSession)
  | query (shared : SharedQuery)
  | prepared (shared : SharedPrepared)

namespace Payload

/-- Decode a session. -/
def asSession : Payload → Except String SharedSession
  | session shared => .ok shared
  | _ => .error "missing field `snapshot`"

/-- Decode a query. -/
def asQuery : Payload → Except String SharedQuery
  | query shared => .ok shared
  | _ => .error "missing field `status`"

/-- Decode a prepared statement. -/
def asPrepared : Payload → Except String SharedPrepared
  | prepared shared => .ok shared
  | _ => .error "missing field `session_id`"

end Payload

/-- A resource whose payload is one of the gateway's. -/
abbrev Resource : Type := SharedResource Payload

/-- How a gateway takes part in a cluster. -/
structure ClusterContext where
  nodeId : String
  /-- How long a query lease lasts. -/
  leaseTtl : Nat

/-- The fixed part of a gateway. -/
structure Gateway where
  config : Config
  limits : ServiceLimits
  /-- Registered adapters by engine. -/
  adapters : Registry String AdapterCapabilities
  /-- Cluster, if the gateway is part of one. -/
  cluster : Option ClusterContext
  /-- Hash of a principal, for object keys. -/
  hashPrincipal : String → UInt64

/-- The changing part of a gateway. -/
structure NodeState where
  sessions : SessionManager
  owners : Registry String SessionOwner
  records : Records
  prepared : PreparedRegistry
  /-- Next number of the query service. -/
  nextQueryId : Nat
  /-- The gateway is shutting down. -/
  shuttingDown : Bool

/-- A gateway that has just started. -/
def NodeState.initial : NodeState := ⟨.empty, ∅, .empty, .empty, 1, false⟩

/-- Every gateway process, the shared store and the object store. -/
structure World (S : Type) where
  nodes : Nat → NodeState
  store : S
  objects : Registry String IpcFile

/-- Change one gateway process. -/
def World.setNode {S : Type} (world : World S) (place : Nat) (node : NodeState) : World S :=
  { world with nodes := Function.update world.nodes place node }

/-- A failed call of a store; the store may have applied it nevertheless. -/
structure StoreFault where
  error : ClusterError
  applied : Bool

/-- What the environment decides about one operation. -/
structure Reading where
  /-- Time, in milliseconds. -/
  now : Nat
  minute : Minute
  uuid : String
  user : Option String
  username : Option String
  fault : Option StoreFault
  io : FileIo
  /-- What an adapter does with a query. -/
  run : AdapterRun
  /-- What an adapter finds when it prepares a statement. -/
  prepared : Except DriverError PreparedStatementMetadata
  /-- Rows an adapter's update affects. -/
  updated : Except DriverError Int
  /-- How often a publisher polls before the run ends. -/
  polls : Nat

/-- Work a gateway starts in the background. -/
inductive Task
  | collectQuery (reference : Nat) (sessionId : String) (sessionVersion : Nat) (run : AdapterRun)
      (closeSession : Bool)
  | publishQueryCompletion (principal : AuthenticatedPrincipal) (queryId : String)
      (lease : QueryLease)

/-- Calls of the shared store. -/
inductive StoreOp
  | putResource (resource : Resource) (expectedVersion : Option Nat)
  | getResource (kind resourceId principalId : String)
  | deleteResource (kind resourceId principalId : String)
  | claimQuery (queryId principalId nodeId : String) (ttl : Nat)
  | renewQuery (lease : QueryLease) (ttl : Nat)
  | releaseQuery (lease : QueryLease)
  | acquireQuota (principalId quota : String) (limit ttl : Nat)
  | releaseQuota (permitId : String)

/-- Reply to a call of the shared store, when it does not fail on the way. -/
@[reducible] def StoreOp.Answer : StoreOp → Type
  | putResource _ _ => Resource
  | getResource _ _ _ => Option Resource
  | deleteResource _ _ _ => Bool
  | claimQuery _ _ _ _ => QueryLease
  | renewQuery _ _ => QueryLease
  | releaseQuery _ => Bool
  | acquireQuota _ _ _ _ => String
  | releaseQuota _ => Unit

/-- Perform a call of the shared store. -/
def StoreOp.perform {S : Type} [ClusterStateStore S Payload] (now : Nat) (uuid : String)
    (store : S) : (op : StoreOp) → Except ClusterError op.Answer × S
  | putResource resource expectedVersion =>
    ClusterStateStore.putResource now resource expectedVersion store
  | getResource kind resourceId principalId =>
    (ClusterStateStore.getResource now kind resourceId principalId store, store)
  | deleteResource kind resourceId principalId =>
    ClusterStateStore.deleteResource kind resourceId principalId store
  | claimQuery queryId principalId nodeId ttl =>
    ClusterStateStore.claimQuery now queryId principalId nodeId ttl store
  | renewQuery lease ttl => ClusterStateStore.renewQuery now lease ttl store
  | releaseQuery lease => ClusterStateStore.releaseQuery lease store
  | acquireQuota principalId quota limit ttl =>
    ClusterStateStore.acquireQuota now uuid principalId quota limit ttl store
  | releaseQuota permitId => ClusterStateStore.releaseQuota permitId store

/-- Perform a call of the shared store, which may fail on the way to it or on the way back. -/
def StoreOp.apply {S : Type} [ClusterStateStore S Payload] (now : Nat) (uuid : String)
    (fault : Option StoreFault) (store : S) (op : StoreOp) : Except ClusterError op.Answer × S :=
  match fault with
  | none => op.perform now uuid store
  | some ⟨error, false⟩ => (.error error, store)
  | some ⟨error, true⟩ => (.error error, (op.perform now uuid store).2)

/-- Calls of the object store. -/
inductive ObjectOp
  | put (key : String) (file : IpcFile)
  | get (key : String)

/-- Reply to a call of the object store. -/
@[reducible] def ObjectOp.Reply : ObjectOp → Type
  | put _ _ => Except ClusterError Unit
  | get _ => Except ClusterError (Option IpcFile)

/-- Perform a call of the object store. -/
def ObjectOp.apply (fault : Option StoreFault) (objects : Registry String IpcFile) :
    (op : ObjectOp) → op.Reply × Registry String IpcFile
  | put key file =>
    match fault with
    | none => (.ok (), objects.insert key file)
    | some ⟨error, applied⟩ => (.error error, if applied then objects.insert key file else objects)
  | get key =>
    match fault with
    | none => (.ok (objects.lookup key), objects)
    | some ⟨error, _⟩ => (.error error, objects)

/-- Calls of an engine adapter. -/
inductive AdapterOp
  | execute (request : QueryRequest) (parameters : Option (List RecordBatch))
  | prepare (request : QueryRequest)
  | executeUpdate (request : QueryRequest)
  | executePreparedUpdate (request : QueryRequest) (parameters : List RecordBatch)
  | ingest (request : IngestRequest) (batches : List RecordBatch)

/-- Reply to a call of an engine adapter. -/
@[reducible] def AdapterOp.Reply : AdapterOp → Type
  | execute _ _ => AdapterRun
  | prepare _ => Except DriverError PreparedStatementMetadata
  | executeUpdate _ => Except DriverError Int
  | executePreparedUpdate _ _ => Except DriverError Int
  | ingest _ _ => Except DriverError Int

/-- Perform a call of an engine adapter. -/
def AdapterOp.apply (reading : Reading) : (op : AdapterOp) → op.Reply
  | execute _ _ => reading.run
  | prepare _ => reading.prepared
  | executeUpdate _ => reading.updated
  | executePreparedUpdate _ _ => reading.updated
  | ingest _ _ => reading.updated

/-- What a gateway asks of its own process: clocks, random identifiers, the environment, the query
service's counter, the shutdown flag, files, background work, and an end by panic. -/
inductive HostOp
  | clock
  | uuid
  | environmentUser
  | nextQueryId
  | isShuttingDown
  | beginShutdown
  | readFile (file : IpcFile)
  | encode (batches : List RecordBatch)
  | spawn (task : Task)
  | panic

/-- Reply to a request to the process. -/
@[reducible] def HostOp.Reply : HostOp → Type
  | clock => Nat
  | uuid => String
  | environmentUser => Option String
  | nextQueryId => Nat
  | isShuttingDown => Bool
  | beginShutdown => Unit
  | readFile _ => Except String FileReader
  | encode _ => Except String IpcFile
  | spawn _ => Unit
  | panic => Empty

end ConfluxQuery
