import ConfluxQuery.Service.World

/-!
# Requests and the effect of operations

The public operations of the gateway service as requests, the answers they give, and the effect of
every operation a gateway program performs on the world.
-/

namespace ConfluxQuery

/-- The public operations a principal calls. -/
inductive Operation
  | sessionMetadataRequest (sessionId : String) (catalog schema pattern : Option String)
  | targetMetadataRequest (targetName : String) (catalog schema pattern : Option String)
  | createSession (targetName : String) (overrides : Registry String String)
  | createSessionClustered (targetName : String) (overrides : Registry String String)
  | session (sessionId : String)
  | sessionClustered (sessionId : String)
  | updateSession (sessionId : String) (expectedVersion : Nat) (overrides : Registry String String)
  | updateSessionClustered (sessionId : String) (expectedVersion : Nat)
      (overrides : Registry String String)
  | switchTarget (sessionId : String) (expectedVersion : Nat) (targetName : String)
  | switchTargetClustered (sessionId : String) (expectedVersion : Nat) (targetName : String)
  | mutateSession (sessionId : String) (expectedVersion : Nat) (targetName : Option String)
      (overrides : Registry String (Option String))
  | mutateSessionClustered (sessionId : String) (expectedVersion : Nat)
      (targetName : Option String) (overrides : Registry String (Option String))
  | closeSession (sessionId : String)
  | closeSessionClustered (sessionId : String)
  | submitSessionQuery (sessionId sql : String)
  | submitSessionQueryClustered (sessionId sql : String)
  | submitStatelessQuery (targetName : String) (overrides : Registry String String) (sql : String)
  | submitStatelessQueryClustered (targetName : String) (overrides : Registry String String)
      (sql : String)
  | createPreparedStatement (sessionId sql : String)
  | createStatelessPreparedStatement (targetName sql : String)
  | createPreparedStatementClustered (sessionId sql : String)
  | preparedStatement (handle : String)
  | preparedStatementClustered (handle : String)
  | bindPreparedStatement (handle : String) (parameters : List RecordBatch)
  | bindPreparedStatementClustered (handle : String) (parameters : List RecordBatch)
  | executePreparedStatement (handle : String)
  | executePreparedStatementClustered (handle : String)
  | executePreparedUpdate (handle : String)
  | executePreparedUpdateClustered (handle : String)
  | executeSessionUpdate (sessionId sql : String)
  | ingest (sessionId : String) (request : IngestRequest) (batches : List RecordBatch)
  | closePreparedStatement (handle : String)
  | closePreparedStatementClustered (handle : String)
  | query (queryId : String)
  | queryClustered (queryId : String)
  | recoverQueryClustered (queryId : String)
  | cancel (queryId : String)
  | resultPage (queryId : String) (offset limit : Nat)
  | resultPageClustered (queryId : String) (offset limit : Nat)
  | resultReader (queryId : String)
  | resultReaderClustered (queryId : String)
  | resultBatchCount (queryId : String)
  | resultPartitionReader (queryId : String) (partition partitions : Nat)
  | resultPartitionReaderClustered (queryId : String) (partition partitions : Nat)
  | querySchema (queryId : String)
  | eventHistory (queryId : String) (after : Nat)

/-- What a gateway runs: an operation a principal calls, a shutdown, a cleanup, or background work
of its own with the number of polls left to it. -/
inductive Request
  | call (principal : AuthenticatedPrincipal) (operation : Operation)
  | beginShutdown
  | cleanupExpired
  | task (task : Task) (polls : Nat)

/-- Requests that arrive from outside. -/
def Request.client : Request → Bool
  | task _ _ => false
  | _ => true

/-- What a request answers. A publisher that has used up its polls is still polling. -/
inductive Answer
  | done
  | session (snapshot : SessionSnapshot)
  | metadata (request : MetadataRequest)
  | status (status : QueryStatus)
  | prepared (snapshot : PreparedStatementSnapshot)
  | updated (count : Int)
  | page (page : ResultPage)
  | reader (reader : ResultBatchReader)
  | batchCount (count : Nat)
  | schema (schema : Schema)
  | events (events : List ServiceEvent)
  | polling

/-- Operations of gateway programs, by the state they act on. -/
inductive Op
  | sessions (op : SessionOp)
  | owners (op : OwnerOp)
  | records (op : RecordOp)
  | prepared (op : PreparedOp)
  | store (op : StoreOp)
  | objects (op : ObjectOp)
  | adapter (op : AdapterOp)
  | host (op : HostOp)

/-- Reply to an operation. -/
@[reducible] def Op.Reply : Op → Type
  | sessions op => op.Reply
  | owners op => op.Reply
  | records op => op.Reply
  | prepared op => op.Reply
  | store op => Except ClusterError op.Answer
  | objects op => op.Reply
  | adapter op => op.Reply
  | host op => op.Reply

/-- The interface of gateway programs. -/
@[reducible] def gatewayOps : Signature := ⟨Op, Op.Reply⟩

/-- Encode batches as an Arrow IPC file in memory. -/
def encodeBatches (io : FileIo) (batches : List RecordBatch) : Except String IpcFile :=
  let schema := match batches with
    | [] => Schema.empty
    | first :: _ => first.schema
  match io.header with
  | .error message => .error message
  | .ok () =>
    match IpcFile.writeAll io 0 (IpcFile.start schema) batches with
    | .error message => .error message
    | .ok file =>
      match io.finish with
      | .error message => .error message
      | .ok () => .ok { file with finished := true }

/-- Perform a request to the process: its reply, the state after it, and the background work it
starts. A panic is never performed. -/
def HostOp.apply (reading : Reading) (node : NodeState) :
    (op : HostOp) → Option (op.Reply × NodeState × Option Request)
  | clock => some (reading.now, node, none)
  | uuid => some (reading.uuid, node, none)
  | environmentUser => some (reading.user.or reading.username, node, none)
  | nextQueryId =>
    some (node.nextQueryId, { node with nextQueryId := node.nextQueryId + 1 }, none)
  | isShuttingDown => some (node.shuttingDown, node, none)
  | beginShutdown => some ((), { node with shuttingDown := true }, none)
  | readFile file => some (reading.io.read file, node, none)
  | encode batches => some (encodeBatches reading.io batches, node, none)
  | spawn task => some ((), node, some (.task task reading.polls))
  | panic => none

/-- Perform an operation of a gateway process. -/
def handle {S : Type} [ClusterStateStore S Payload] (place : Nat) (reading : Reading) :
    (op : Op) → World S → Option (Outcome gatewayOps (World S) Request op)
  | .sessions op, world =>
    let node := world.nodes place
    let result := op.apply reading.minute node.sessions
    some { reply := result.1, world := world.setNode place { node with sessions := result.2 } }
  | .owners op, world =>
    let node := world.nodes place
    let result := op.apply reading.now node.owners
    some { reply := result.1, world := world.setNode place { node with owners := result.2 } }
  | .records op, world =>
    let node := world.nodes place
    let result := op.apply reading.now reading.io node.records
    some { reply := result.1, world := world.setNode place { node with records := result.2 } }
  | .prepared op, world =>
    let node := world.nodes place
    match op.apply reading.now reading.uuid node.prepared with
    | none => none
    | some result =>
      some { reply := result.1, world := world.setNode place { node with prepared := result.2 } }
  | .store op, world =>
    let result := op.apply reading.now reading.uuid reading.fault world.store
    some { reply := result.1, world := { world with store := result.2 } }
  | .objects op, world =>
    let result := op.apply reading.fault world.objects
    some { reply := result.1, world := { world with objects := result.2 } }
  | .adapter op, world => some { reply := op.apply reading, world := world }
  | .host op, world =>
    match op.apply reading (world.nodes place) with
    | none => none
    | some result =>
      some ⟨result.1, world.setNode place result.2.1, result.2.2⟩

end ConfluxQuery
