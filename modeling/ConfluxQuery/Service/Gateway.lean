import ConfluxQuery.Service.Prepared
import ConfluxQuery.Service.Reads

/-!
# The gateway system

Any number of gateway processes over one shared store: every request with the program that serves
it, and the machine that runs them side by side.
-/

namespace ConfluxQuery

namespace Gateway

variable (gateway : Gateway)

/-- The program of an operation. -/
def operation (principal : AuthenticatedPrincipal) : Operation → Call Answer
  | .sessionMetadataRequest id catalog schema pattern =>
    .metadata <$> sessionMetadataRequest principal id catalog schema pattern
  | .targetMetadataRequest name catalog schema pattern =>
    .metadata <$> gateway.targetMetadataRequest principal name catalog schema pattern
  | .createSession name overrides => .session <$> gateway.createSession principal name overrides
  | .createSessionClustered name overrides =>
    .session <$> gateway.createSessionClustered principal name overrides
  | .session id => .session <$> session principal id
  | .sessionClustered id => .session <$> gateway.sessionClustered principal id
  | .updateSession id version overrides => .session <$> updateSession principal id version overrides
  | .updateSessionClustered id version overrides =>
    .session <$> gateway.updateSessionClustered principal id version overrides
  | .switchTarget id version name => .session <$> gateway.switchTarget principal id version name
  | .switchTargetClustered id version name =>
    .session <$> gateway.switchTargetClustered principal id version name
  | .mutateSession id version name overrides =>
    .session <$> gateway.mutateSession principal id version name overrides
  | .mutateSessionClustered id version name overrides =>
    .session <$> gateway.mutateSessionClustered principal id version name overrides
  | .closeSession id => (fun _ => .done) <$> closeSession principal id
  | .closeSessionClustered id => (fun _ => .done) <$> gateway.closeSessionClustered principal id
  | .submitSessionQuery id sql => .status <$> gateway.submitSessionQuery principal id sql
  | .submitSessionQueryClustered id sql =>
    .status <$> gateway.submitSessionQueryClustered principal id sql
  | .submitStatelessQuery name overrides sql =>
    .status <$> gateway.submitStatelessQuery principal name overrides sql
  | .submitStatelessQueryClustered name overrides sql =>
    .status <$> gateway.submitStatelessQueryClustered principal name overrides sql
  | .createPreparedStatement id sql =>
    .prepared <$> gateway.createPreparedStatement principal id sql
  | .createStatelessPreparedStatement name sql =>
    .prepared <$> gateway.createStatelessPreparedStatement principal name sql
  | .createPreparedStatementClustered id sql =>
    .prepared <$> gateway.createPreparedStatementClustered principal id sql
  | .preparedStatement handle => .prepared <$> gateway.preparedStatement principal handle
  | .preparedStatementClustered handle =>
    .prepared <$> gateway.preparedStatementClustered principal handle
  | .bindPreparedStatement handle parameters =>
    .prepared <$> gateway.bindPreparedStatement principal handle parameters
  | .bindPreparedStatementClustered handle parameters =>
    .prepared <$> gateway.bindPreparedStatementClustered principal handle parameters
  | .executePreparedStatement handle =>
    .status <$> gateway.executePreparedStatement principal handle
  | .executePreparedStatementClustered handle =>
    .status <$> gateway.executePreparedStatementClustered principal handle
  | .executePreparedUpdate handle => .updated <$> gateway.executePreparedUpdate principal handle
  | .executePreparedUpdateClustered handle =>
    .updated <$> gateway.executePreparedUpdateClustered principal handle
  | .executeSessionUpdate id sql => .updated <$> gateway.executeSessionUpdate principal id sql
  | .ingest id request batches => .updated <$> gateway.ingest principal id request batches
  | .closePreparedStatement handle => (fun _ => .done) <$> closePreparedStatement principal handle
  | .closePreparedStatementClustered handle =>
    (fun _ => .done) <$> gateway.closePreparedStatementClustered principal handle
  | .query id => .status <$> gateway.query principal id
  | .queryClustered id => .status <$> gateway.queryClustered principal id
  | .recoverQueryClustered id => .status <$> gateway.recoverQueryClustered principal id
  | .cancel id => .status <$> gateway.cancel principal id
  | .resultPage id offset limit => .page <$> gateway.resultPage principal id offset limit
  | .resultPageClustered id offset limit =>
    .page <$> gateway.resultPageClustered principal id offset limit
  | .resultReader id => .reader <$> gateway.resultReader principal id
  | .resultReaderClustered id => .reader <$> gateway.resultReaderClustered principal id
  | .resultBatchCount id => .batchCount <$> gateway.resultBatchCount principal id
  | .resultPartitionReader id partition partitions =>
    .reader <$> gateway.resultPartitionReader principal id partition partitions
  | .resultPartitionReaderClustered id partition partitions =>
    .reader <$> gateway.resultPartitionReaderClustered principal id partition partitions
  | .querySchema id => .schema <$> gateway.querySchema principal id
  | .eventHistory id after => .events <$> gateway.eventHistory principal id after

/-- The program of a request. -/
def program : Request → Call Answer
  | .call principal operation => gateway.operation principal operation
  | .beginShutdown => (fun _ => .done) <$> beginShutdown
  | .cleanupExpired => (fun _ => .done) <$> gateway.cleanupExpired
  | .task (.collectQuery reference sessionId sessionVersion run closeSession) _ =>
    (fun _ => .done) <$>
      collectQuery gateway.limits reference sessionId sessionVersion run closeSession
  | .task (.publishQueryCompletion principal queryId lease) polls =>
    match gateway.cluster with
    | none => return .done
    | some cluster => gateway.publishQueryCompletion principal cluster queryId polls lease

end Gateway

/-- Gateway processes over one shared store, each with its own fixed part. -/
def gatewayMachine (S : Type) [ClusterStateStore S Payload] (gateways : Nat → Gateway) :
    Machine gatewayOps (World S) Nat Reading Request ServiceError Answer where
  handle := handle
  program place request := (gateways place).program request
  client := Request.client

/-- Gateways that have just started, over a store. -/
def World.initial {S : Type} (store : S) : World S := ⟨fun _ => .initial, store, ∅⟩

end ConfluxQuery
