import ConfluxQuery.Verif.Protocol

/-!
# What stands behind an answer

Every value a call returns comes from something it has seen: a snapshot of a session it holds, a
record it has located as the owner's, a prepared statement it was given as the owner's, or a shared
record of its principal.
-/

namespace ConfluxQuery

/-- What an operation names. -/
inductive Subject
  | session (id : String)
  | query (id : String)
  | prepared (handle : String)

namespace Operation

/-- The session, query or prepared statement an operation names. -/
def subject : Operation → Option Subject
  | sessionMetadataRequest id _ _ _ | session id | sessionClustered id | updateSession id _ _
  | updateSessionClustered id _ _ | switchTarget id _ _ | switchTargetClustered id _ _
  | mutateSession id _ _ _ | mutateSessionClustered id _ _ _ | closeSession id
  | closeSessionClustered id | submitSessionQuery id _ | submitSessionQueryClustered id _
  | createPreparedStatement id _ | createPreparedStatementClustered id _
  | executeSessionUpdate id _ | ingest id _ _ => some (.session id)
  | preparedStatement handle | preparedStatementClustered handle
  | bindPreparedStatement handle _ | bindPreparedStatementClustered handle _
  | executePreparedStatement handle | executePreparedStatementClustered handle
  | executePreparedUpdate handle | executePreparedUpdateClustered handle
  | closePreparedStatement handle | closePreparedStatementClustered handle =>
    some (.prepared handle)
  | query id | queryClustered id | recoverQueryClustered id | cancel id | resultPage id _ _
  | resultPageClustered id _ _ | resultReader id | resultReaderClustered id
  | resultBatchCount id | resultPartitionReader id _ _ | resultPartitionReaderClustered id _ _
  | querySchema id | eventHistory id _ => some (.query id)
  | targetMetadataRequest _ _ _ _ | createSession _ _ | createSessionClustered _ _
  | submitStatelessQuery _ _ _ | submitStatelessQueryClustered _ _ _
  | createStatelessPreparedStatement _ _ => none

/-- The mutation an operation shares with the cluster. -/
def sharedMutation : Operation →
    Option (String × Nat × Option String × Registry String (Option String))
  | mutateSession _ _ _ _ => none
  | operation => operation.mutation

end Operation

section

variable (saw : ∀ act : Op, act.Reply → Prop) (record : QueryRecord)

/-- The batches a record retains: those in memory, or those that were read from its file. -/
def QueryRecord.Retains (entries : FileReader) : Prop :=
  (∃ batches, record.data.storage = .memory batches ∧ entries = batches.map .ok) ∨
    ∃ file, record.data.storage = .spill file false ∧ saw (.host (.readFile file)) (.ok entries)

/-- An answer about a query shows what its record holds. A page is cut out of the batches it retains
by a number of rows that was read from a record. -/
def Answer.Shows : Answer → Prop
  | status reported => reported = queryStatus record
  | page cut => ∃ reference counted offset limit batches entries,
      saw (.records (.inspect reference)) counted ∧
      cut = pageOf counted.data.rows (pageBounds counted.data.rows offset limit).2 batches ∧
      record.Retains saw entries ∧
      let bounds := pageBounds counted.data.rows offset limit
      ((∃ kept, entries = kept.map .ok ∧ batches = sliceBatches kept bounds.1 bounds.2) ∨
        loadFrom bounds.1 bounds.2 0 entries = .ok batches ∨
        ∃ source all, ResultBatchReader.readAll ⟨source, entries, 0, none⟩ = .ok all ∧
          batches = sliceBatches all bounds.1 bounds.2)
  | reader opened => record.Retains saw opened.entries
  | batchCount count => ∃ entries, record.Retains saw entries ∧ count = entries.length
  | schema shown => shown = record.data.schema.getD Schema.empty
  | events shown => ∃ after, shown = record.data.events.filter fun event =>
      decide (after < event.id)
  | done | session _ | metadata _ | prepared _ | updated _ | polling => True

end

namespace Seen

/-- The call has located a record of its principal and read it. -/
def Located (trail : Seen) (principal id : String) (reference : Nat) (record : QueryRecord) :
    Prop :=
  trail.Saw (.records (.findOwned principal id)) (some reference) ∧
    trail.Saw (.records (.inspect reference)) record

/-- A reader of a record's retained result. -/
def ReadsResult (trail : Seen) (principal id : String) (skip : Nat) (remaining : Option Nat)
    (reader : ResultBatchReader) : Prop :=
  ∃ reference record, trail.Located principal id reference record ∧
    record.data.error = none ∧
    (record.data.state = .completed ∨ record.data.state = .cancelled) ∧
    reader.skip = skip ∧ reader.remaining = remaining ∧
    ((∃ batches, record.data.storage = .memory batches ∧ reader.source = .memory ∧
        reader.entries = batches.map .ok) ∨
      ∃ file, record.data.storage = .spill file false ∧ reader.source = .spill file.schema ∧
        trail.Saw (.host (.readFile file)) (.ok reader.entries))

/-- The call has read a query as the cluster shares it. -/
def ReadsShared (trail : Seen) (principal id : String) (shared : SharedQuery) : Prop :=
  ∃ resource, trail.Read "query" id principal resource ∧ resource.payload = .query shared

/-- A reader of the object a shared query names. -/
def OpensShared (trail : Seen) (principal id : String) (reader : ResultBatchReader) : Prop :=
  ∃ shared key file, trail.ReadsShared principal id shared ∧ shared.resultKey = some key ∧
    trail.Saw (.objects (.get key)) (.ok (some file)) ∧ reader.source = .shared file.schema

/-- A reader of a query's result: of this node's record or, in a cluster, of the shared object. -/
def Opens (trail : Seen) (gateway : Gateway) (principal id : String)
    (reader : ResultBatchReader) : Prop :=
  (∃ skip remaining, trail.ReadsResult principal id skip remaining reader) ∨
    (gateway.cluster.isSome = true ∧ trail.OpensShared principal id reader)

/-- The schema of a record that has got a batch or has ended, without an error. -/
def ReadsSchema (trail : Seen) (principal id : String) (schema : Schema) : Prop :=
  ∃ reference record, trail.Located principal id reference record ∧
    record.data.error = none ∧
    (record.data.schema.isSome = true ∨ record.data.state.terminal = true) ∧
    schema = record.data.schema.getD Schema.empty

/-- A page of a record's retained result. -/
def ReadsPage (trail : Seen) (principal id : String) (offset limit : Nat) (page : ResultPage) :
    Prop :=
  ∃ reference record batches, trail.Located principal id reference record ∧
    record.data.error = none ∧ record.data.state.terminal = true ∧
    page = pageOf record.data.rows (pageBounds record.data.rows offset limit).2 batches ∧
    ((∃ kept, record.data.storage = .memory kept ∧
        batches = sliceBatches kept (pageBounds record.data.rows offset limit).1
          (pageBounds record.data.rows offset limit).2) ∨
      ∃ file entries, record.data.storage = .spill file false ∧
        trail.Saw (.host (.readFile file)) (.ok entries) ∧
        loadFrom (pageBounds record.data.rows offset limit).1
          (pageBounds record.data.rows offset limit).2 0 entries = .ok batches)

/-- The call tells what the record of the query its operation names holds. -/
def Tells (trail : Seen) (principal : String) (operation : Operation) (answer : Answer) : Prop :=
  ∃ id reference record, operation.subject = some (.query id) ∧
    trail.Located principal id reference record ∧ answer.Shows trail.Saw record

end Seen

/-- Where the value of an answer comes from. Shared records count on a gateway that is part of a
cluster; the readers of a node's own records never use them. -/
def Answer.Sourced (gateway : Gateway) (principal : AuthenticatedPrincipal) (operation : Operation)
    (trail : Seen) : Answer → Prop
  | done | polling => True
  | session found => trail.Holds principal.id found ∨
      (∃ id version values, trail.Saw (.sessions (.setOptions id version values)) (.ok found)) ∨
      (∃ id version target,
        trail.Saw (.sessions (.switchTarget id version target)) (.ok found)) ∨
      ∃ id version target values,
        trail.Saw (.sessions (.mutate id version target values)) (.ok found)
  | metadata request =>
      (∃ found, trail.Holds principal.id found ∧ request.target = found.target ∧
        request.engine = found.engine ∧ request.properties = found.properties) ∨
      ∃ target, gateway.config.target request.target = some target ∧
        principal.canUseTarget request.target = true ∧ request.engine = target.engine ∧
        request.properties = target.exposed
  | status reported =>
      (∃ reference stored, trail.Submitted reference stored ∧ reported = queryStatus stored) ∨
      (∃ id reference record, trail.Located principal.id id reference record ∧
        reported = queryStatus record) ∨ gateway.cluster.isSome = true
  | prepared statement =>
      (∃ limit record, trail.Saw (.prepared (.create limit record)) (some statement)) ∨
      (∃ handle, trail.Saw (.prepared (.touch principal.id handle)) (some statement)) ∨
      (∃ handle record, trail.Saw (.prepared (.bind handle record)) statement) ∨
      gateway.cluster.isSome = true
  | updated _ => ∃ found, trail.Holds principal.id found
  | page cut =>
      (∀ id offset limit, operation = .resultPage id offset limit →
        trail.ReadsPage principal.id id offset limit cut) ∧
      (trail.Tells principal.id operation (.page cut) ∨ gateway.cluster.isSome = true)
  | reader opened =>
      (∀ id, operation = .resultReader id → trail.ReadsResult principal.id id 0 none opened) ∧
      (trail.Tells principal.id operation (.reader opened) ∨ gateway.cluster.isSome = true)
  | batchCount count => trail.Tells principal.id operation (.batchCount count)
  | schema shown => trail.Tells principal.id operation (.schema shown)
  | events shown => trail.Tells principal.id operation (.events shown)

/-- What stands behind the outcome of a call. -/
structure Explained (gateway : Gateway) (principal : AuthenticatedPrincipal)
    (operation : Operation) (trail : Seen) (outcome : Except ServiceError Answer) : Prop where
  /-- An answer comes from what the call has seen. -/
  answered : ∀ answer, outcome = .ok answer → answer.Sourced gateway principal operation trail

namespace Explained

variable {gateway : Gateway} {principal : AuthenticatedPrincipal} {operation : Operation}
  {trail : Seen}

theorem of_ok {answer : Answer} (sourced : answer.Sourced gateway principal operation trail) :
    Explained gateway principal operation trail (.ok answer) := by
  refine ⟨fun other same => ?_⟩
  cases same
  exact sourced

/-- An error needs no source. -/
theorem of_error {error : ServiceError} :
    Explained gateway principal operation trail (.error error) :=
  ⟨fun _ same => by cases same⟩

end Explained

/-- The protocol gateways keep to. -/
def gatewayProtocol (gateways : Nat → Gateway) :
    Protocol gatewayOps Nat Request ServiceError Answer where
  allowed place request trail op := op.Allowed (gateways place) request trail
  possible := Op.Possible
  post place request trail outcome := ∀ principal operation,
    request = .call principal operation →
      Explained (gateways place) principal operation trail outcome

end ConfluxQuery
