import ConfluxQuery.Verif.Runs

/-!
# Which programs grant something

A gateway admits work in few places: where it inserts a query record and starts to collect it, where
it draws the identifier of a session and inserts the session and its owner, where it writes a shared
resource or object or starts to publish one, where it takes or gives back a quota permit, and where
it hands work to an engine. Prepared statements are made, made owners of their sessions, and bound
under a lock that is held over several sections, in few places too. Every other program, and every
part of a program before such a place, performs none of these operations.
-/

namespace ConfluxQuery

/-- What an operation may grant: a query is admitted, a session is admitted, a shared resource or
object is written, a permit is taken or given back, an engine is given work, a statement is prepared
or made the owner of its session, or the lock of the statements is used over several sections. -/
inductive Grant
  | query
  | session
  | resource
  | permit
  | work
  | statement
  | ownership
  | lock
  deriving DecidableEq, Repr

/-- What a section on records grants. -/
@[simp] def RecordOp.grant : RecordOp → Option Grant
  | insert _ => some .query
  | _ => none

/-- What a section on owners grants. -/
@[simp] def OwnerOp.grant : OwnerOp → Option Grant
  | insert _ _ => some .session
  | _ => none

/-- What a call of the shared store grants. -/
@[simp] def StoreOp.grant : StoreOp → Option Grant
  | putResource _ _ => some .resource
  | acquireQuota _ _ _ _ | releaseQuota _ => some .permit
  | _ => none

/-- What a section of the session manager grants. -/
@[simp] def SessionOp.grant : SessionOp → Option Grant
  | nextSessionId _ | insert _ => some .session
  | _ => none

/-- What a request to the process grants. -/
@[simp] def HostOp.grant : HostOp → Option Grant
  | spawn (.collectQuery _ _ _ _ _) => some .query
  | spawn (.publishQueryCompletion _ _ _) => some .resource
  | _ => none

/-- What a call of the object store grants. -/
@[simp] def ObjectOp.grant : ObjectOp → Option Grant
  | put _ _ => some .resource
  | get _ => none

/-- What a call of an adapter grants. -/
@[simp] def AdapterOp.grant : AdapterOp → Option Grant
  | _ => some .work

/-- What a section on prepared statements grants. -/
@[simp] def PreparedOp.grant : PreparedOp → Option Grant
  | create _ _ => some .statement
  | ownSession _ => some .ownership
  | acquire | peek _ _ | bind _ _ | release => some .lock
  | _ => none

/-- What an operation grants. -/
def Op.grant : Op → Option Grant
  | .records op => op.grant
  | .owners op => op.grant
  | .store op => op.grant
  | .sessions op => op.grant
  | .host op => op.grant
  | .objects op => op.grant
  | .adapter op => op.grant
  | .prepared op => op.grant

/-- The operation grants something of a set. -/
def Op.within (set : Grant → Bool) (op : Op) : Bool := op.grant.any set

section

variable (set : Grant → Bool)

@[simp] theorem Op.within_records (op : RecordOp) :
    Op.within set (.records op) = op.grant.any set := rfl
@[simp] theorem Op.within_owners (op : OwnerOp) :
    Op.within set (.owners op) = op.grant.any set := rfl
@[simp] theorem Op.within_store (op : StoreOp) :
    Op.within set (.store op) = op.grant.any set := rfl
@[simp] theorem Op.within_sessions (op : SessionOp) :
    Op.within set (.sessions op) = op.grant.any set := rfl
@[simp] theorem Op.within_prepared (op : PreparedOp) :
    Op.within set (.prepared op) = op.grant.any set := rfl
@[simp] theorem Op.within_objects (op : ObjectOp) :
    Op.within set (.objects op) = op.grant.any set := rfl
@[simp] theorem Op.within_adapter (op : AdapterOp) :
    Op.within set (.adapter op) = op.grant.any set := rfl
@[simp] theorem Op.within_host (op : HostOp) :
    Op.within set (.host op) = op.grant.any set := rfl

end

namespace Call

variable {kind : Op → Bool}

@[simp] theorem sessions_avoids {op : SessionOp} :
    @Prog.Avoids gatewayOps ServiceError (no_index op.Reply) kind (sessions op) ↔
      kind (.sessions op) = false := Prog.Avoids.perform_iff

@[simp] theorem owners_avoids {op : OwnerOp} :
    @Prog.Avoids gatewayOps ServiceError (no_index op.Reply) kind (owners op) ↔
      kind (.owners op) = false := Prog.Avoids.perform_iff

@[simp] theorem records_avoids {op : RecordOp} :
    @Prog.Avoids gatewayOps ServiceError (no_index op.Reply) kind (records op) ↔
      kind (.records op) = false := Prog.Avoids.perform_iff

@[simp] theorem prepared_avoids {op : PreparedOp} :
    @Prog.Avoids gatewayOps ServiceError (no_index op.Reply) kind (prepared op) ↔
      kind (.prepared op) = false := Prog.Avoids.perform_iff

@[simp] theorem store_avoids {op : StoreOp} :
    @Prog.Avoids gatewayOps ServiceError (no_index _) kind (store op) ↔
      kind (.store op) = false := Prog.Avoids.perform_iff

@[simp] theorem objects_avoids {op : ObjectOp} :
    @Prog.Avoids gatewayOps ServiceError (no_index op.Reply) kind (objects op) ↔
      kind (.objects op) = false := Prog.Avoids.perform_iff

@[simp] theorem adapter_avoids {op : AdapterOp} :
    @Prog.Avoids gatewayOps ServiceError (no_index op.Reply) kind (adapter op) ↔
      kind (.adapter op) = false := Prog.Avoids.perform_iff

@[simp] theorem host_avoids {op : HostOp} :
    @Prog.Avoids gatewayOps ServiceError (no_index op.Reply) kind (host op) ↔
      kind (.host op) = false := Prog.Avoids.perform_iff

@[simp] theorem core_avoids {α : Type} {result : Except CoreError α} :
    (core result).Avoids kind := Prog.Avoids.lift

@[simp] theorem shared_avoids {α : Type} {result : Except ClusterError α} :
    (shared result).Avoids kind := Prog.Avoids.lift

@[simp] theorem decode_avoids {α : Type} {result : Except String α} :
    (decode result).Avoids kind := Prog.Avoids.lift

end Call

open Call

section

variable {set : Grant → Bool}

/-- Reading a deadline grants nothing. -/
@[simp] theorem chronoDeadline_avoids {ttl : Nat} : (chronoDeadline ttl).Avoids
    (Op.within set) := by
  simp [chronoDeadline]

variable {reference : Nat}

/-- Recording an event grants nothing. -/
@[simp] theorem recordEvent_avoids {event : QueryEvent} :
    (recordEvent reference event).Avoids (Op.within set) := by
  cases event <;> simp [recordEvent]

/-- Receiving items grants nothing. -/
@[simp] theorem collectItems_avoids {limits : ServiceLimits} {items : List QueryItem}
    {collected : Collected} :
    (collectItems limits reference items collected).Avoids (Op.within set) := by
  induction items generalizing collected with
  | nil => simp [collectItems]
  | cons item rest step =>
    cases item with
    | event event =>
      simp only [collectItems]
      split <;> simp [step]
    | batch batch =>
      simp only [collectItems, Prog.Avoids.bind_iff]
      refine ⟨by simp, fun stored _ => ?_⟩
      split <;> simp [step]

/-- Collecting a query grants nothing. -/
@[simp] theorem collectQuery_avoids {limits : ServiceLimits} {version : Nat} {id : String}
    {run : AdapterRun} {close : Bool} :
    (collectQuery limits reference id version run close).Avoids (Op.within set) := by
  have applied : ∀ updates,
      (applySessionUpdates id version run.finish close updates).Avoids (Op.within set) := by
    intro updates
    unfold applySessionUpdates
    split <;> simp
  have finished : (finishCollected reference).Avoids (Op.within set) := by
    simp only [finishCollected, Prog.Avoids.bind_iff]
    refine ⟨by simp, fun reply _ => ?_⟩
    split <;> simp
  have ended : ∀ overflow event,
      (finalEvent reference run.finish overflow event).Avoids (Op.within set) := by
    intro overflow event
    unfold finalEvent
    split <;> split <;> simp
  have closed : (closeStatelessSession id close).Avoids (Op.within set) := by
    unfold closeStatelessSession
    split <;> simp
  simp [collectQuery, applied, finished, ended, closed]

namespace Gateway

variable {gateway : Gateway} {principal : AuthenticatedPrincipal} {id sql : String}

@[simp] theorem ensureAvailable_avoids : ensureAvailable.Avoids (Op.within set) := by
  simp [ensureAvailable]

@[simp] theorem expireSession_avoids {expired : String × String} :
    (expireSession expired).Avoids (Op.within set) := by
  simp [expireSession]

@[simp] theorem cleanupExpired_avoids : gateway.cleanupExpired.Avoids (Op.within set) := by
  simp [cleanupExpired]

@[simp] theorem enforceSessionQuota_avoids : (enforceSessionQuota principal).Avoids
    (Op.within set) := by
  simp [enforceSessionQuota]

variable {name : String} {overrides : Registry String String} {found : SessionSnapshot}
  {status : QueryStatus}

@[simp] theorem authorizedTarget_avoids :
    (gateway.authorizedTarget principal name).Avoids (Op.within set) := by
  simp [authorizedTarget]

@[simp] theorem requireSessionOwner_avoids :
    (requireSessionOwner principal id).Avoids (Op.within set) := by
  simp [requireSessionOwner]

/-- Naming a user grants nothing. -/
@[simp] theorem sessionUser_avoids {target : ResolvedTarget} :
    (sessionUser target).Avoids (Op.within set) := by
  unfold sessionUser
  split <;> simp

theorem createWithOverrides_avoids {target : ResolvedTarget} (session : set .session = false) :
    (createWithOverrides target overrides).Avoids (Op.within set) := by
  simp [createWithOverrides, session]

@[simp] theorem session_avoids : (session principal id).Avoids (Op.within set) := by
  simp [session]

@[simp] theorem closeSession_avoids : (closeSession principal id).Avoids (Op.within set) := by
  simp [closeSession]

@[simp] theorem mutateSession_avoids {version : Nat} {name : Option String}
    {overrides : Registry String (Option String)} :
    (gateway.mutateSession principal id version name overrides).Avoids (Op.within set) := by
  have named : (gateway.namedTarget principal name).Avoids (Op.within set) := by
    cases name <;> simp [namedTarget]
  simp [mutateSession, named]

@[simp] theorem ownedRecord_avoids : (gateway.ownedRecord principal id).Avoids (Op.within set) := by
  simp [ownedRecord]

@[simp] theorem query_avoids : (gateway.query principal id).Avoids (Op.within set) := by
  simp [query]

@[simp] theorem enforceQueryQuota_avoids : (enforceQueryQuota principal).Avoids
    (Op.within set) := by
  simp [enforceQueryQuota]

@[simp] theorem queryRequest_avoids :
    (gateway.queryRequest found sql).Avoids (Op.within set) := by
  simp [queryRequest]

@[simp] theorem refuseFailed_avoids {kind : Op → Bool} {reason : ServiceErrorKind}
    {record : QueryRecord} : (refuseFailed reason record).Avoids kind := by
  unfold refuseFailed
  split <;> simp

@[simp] theorem resultReaderRange_avoids {skip : Nat} {remaining : Option Nat} :
    (gateway.resultReaderRange principal id skip remaining).Avoids (Op.within set) := by
  simp only [resultReaderRange, Prog.Avoids.bind_iff]
  refine ⟨by simp, fun reference _ => ⟨by simp, fun record _ => ⟨by simp, fun _ _ =>
    ⟨by simp, fun _ _ => ?_⟩⟩⟩⟩
  split <;> simp

@[simp] theorem resultReader_avoids : (gateway.resultReader principal id).Avoids
    (Op.within set) := by
  simp [resultReader]

theorem createSession_avoids (other : set .session = false) :
    (gateway.createSession principal name overrides).Avoids (Op.within set) := by
  simp [createSession, createWithOverrides_avoids other, other]

theorem sessionClustered_avoids (other : set .session = false) :
    (gateway.sessionClustered principal id).Avoids (Op.within set) := by
  simp only [sessionClustered, Prog.Avoids.bind_iff]
  refine ⟨by simp, fun reply _ => ?_⟩
  split <;> simp [other]

theorem createSessionClustered_avoids (session : set .session = false)
    (resource : set .resource = false) (permit : set .permit = false) :
    (gateway.createSessionClustered principal name overrides).Avoids (Op.within set) := by
  have created : (gateway.createSession principal name overrides).Avoids (Op.within set) :=
    createSession_avoids session
  unfold createSessionClustered
  split
  · exact created
  simp only [Prog.Avoids.bind_iff]
  refine ⟨by simp, fun _ _ => ⟨by simp [permit], fun reply _ => ⟨by simp, fun held _ =>
    ⟨by simp [created], fun outcome _ => ?_⟩⟩⟩⟩
  split
  · simp [permit]
  simp only [Prog.Avoids.bind_iff]
  refine ⟨by simp, fun deadline _ => ⟨by simp [resource], fun reply _ => ?_⟩⟩
  split <;> simp [permit]

theorem shareMutation_avoids {changed : SessionSnapshot} (resource : set .resource = false) :
    (gateway.shareMutation principal id changed).Avoids (Op.within set) := by
  simp [shareMutation, resource]

/-- Changing a shared session grants nothing but the session it hydrates and its record. -/
theorem mutateSessionClustered_avoids {version : Nat} {name : Option String}
    {overrides : Registry String (Option String)} (session : set .session = false)
    (resource : set .resource = false) :
    (gateway.mutateSessionClustered principal id version name overrides).Avoids
      (Op.within set) := by
  simp only [mutateSessionClustered, Prog.Avoids.bind_iff]
  refine ⟨sessionClustered_avoids session, fun _ _ => ⟨by simp, fun changed _ => ?_⟩⟩
  split
  · simp
  · simp [shareMutation_avoids resource]

@[simp] theorem closingShare_avoids : (gateway.closingShare principal id).Avoids
    (Op.within set) := by
  unfold closingShare
  split <;> simp

/-- Ending a shared session grants nothing but the session it hydrates, and gives its permit back.
-/
theorem closeSessionClustered_avoids (session : set .session = false)
    (permit : set .permit = false) :
    (gateway.closeSessionClustered principal id).Avoids (Op.within set) := by
  simp only [closeSessionClustered, Prog.Avoids.bind_iff]
  refine ⟨sessionClustered_avoids session, fun _ _ => ⟨by simp, fun closing _ =>
    ⟨by simp, fun _ _ => ?_⟩⟩⟩
  split
  · simp
  simp only [Prog.Avoids.bind_iff]
  refine ⟨by simp, fun reply _ => ⟨by simp, fun _ _ => ?_⟩⟩
  split <;> simp [permit]

theorem submitQuery_avoids {parameters : Option (List RecordBatch)} {close : Bool}
    (query : set .query = false) (work : set .work = false) :
    (gateway.submitQuery principal found sql parameters close).Avoids (Op.within set) := by
  simp [submitQuery, query, work]

theorem putSharedQuery_avoids {key : Option String} {count : Nat} {lease : QueryLease}
    (resource : set .resource = false) :
    (putSharedQuery principal status key count lease).Avoids (Op.within set) := by
  simp [putSharedQuery, resource]

theorem publishClusterQuery_avoids (resource : set .resource = false) :
    (gateway.publishClusterQuery principal status).Avoids (Op.within set) := by
  unfold publishClusterQuery
  split
  · simp
  · simp [putSharedQuery_avoids resource, resource]

@[simp] theorem retainedResult_avoids :
    (gateway.retainedResult principal status id).Avoids (Op.within set) := by
  have encoded : ∀ reader, (encodeReader reader).Avoids (Op.within set) := by
    intro reader
    unfold encodeReader
    split <;> simp
  unfold retainedResult
  split
  · simp only [Prog.Avoids.bind_iff]
    refine ⟨by simp, fun outcome _ => ?_⟩
    split
    · simp
    · exact encoded _
  · simp

theorem publishQueryCompletion_avoids {cluster : ClusterContext} {polls : Nat}
    {lease : QueryLease} (resource : set .resource = false) :
    (gateway.publishQueryCompletion principal cluster id polls lease).Avoids (Op.within set) := by
  have ended : ∀ status lease, (gateway.publishEnded principal id status lease).Avoids
      (Op.within set) := by
    intro status lease
    simp only [publishEnded, Prog.Avoids.bind_iff]
    refine ⟨by simp, fun retained _ => ?_⟩
    split
    · simp [putSharedQuery_avoids resource]
    · simp only [Prog.Avoids.bind_iff]
      refine ⟨by simp [resource], fun reply _ => ?_⟩
      split <;> simp [putSharedQuery_avoids resource]
  induction polls generalizing lease with
  | zero => simp [publishQueryCompletion]
  | succ polls step =>
    simp only [publishQueryCompletion, Prog.Avoids.bind_iff]
    refine ⟨by simp, fun outcome _ => ?_⟩
    split
    · simp
    · split
      · simp [ended]
      · simp only [Prog.Avoids.bind_iff]
        refine ⟨by simp [putSharedQuery_avoids resource], fun _ _ => ⟨by simp, fun reply _ => ?_⟩⟩
        split
        · exact step
        · simp

theorem recoverQueryClustered_avoids (resource : set .resource = false) :
    (gateway.recoverQueryClustered principal id).Avoids (Op.within set) := by
  simp only [recoverQueryClustered, Prog.Avoids.bind_iff]
  refine ⟨by simp, fun cluster _ => ⟨by simp, fun reply _ => ⟨by simp, fun found _ =>
    ⟨by simp, fun stored _ => ⟨by simp, fun query _ => ?_⟩⟩⟩⟩⟩
  split <;> simp [resource]

@[simp] theorem requireCapability_avoids {engine message : String} {error : ServiceError}
    {capability : AdapterCapability} :
    (gateway.requireCapability engine error capability message).Avoids (Op.within set) := by
  simp [requireCapability]

theorem prepare_avoids (work : set .work = false) :
    (gateway.prepare found sql).Avoids (Op.within set) := by
  simp [prepare, work]

/-- Preparing a statement in a session grants nothing but work and the statement. -/
theorem createPreparedStatement_avoids (work : set .work = false)
    (statement : set .statement = false) :
    (gateway.createPreparedStatement principal id sql).Avoids (Op.within set) := by
  simp [createPreparedStatement, prepare_avoids work, statement]

@[simp] theorem preparedStatement_avoids :
    (gateway.preparedStatement principal id).Avoids (Op.within set) := by
  simp [preparedStatement]

/-- Preparing a statement in a session of its own grants nothing but the session, work, the
statement and its ownership. -/
theorem createStatelessPreparedStatement_avoids (session : set .session = false)
    (work : set .work = false) (statement : set .statement = false)
    (ownership : set .ownership = false) :
    (gateway.createStatelessPreparedStatement principal name sql).Avoids (Op.within set) := by
  simp only [createStatelessPreparedStatement, Prog.Avoids.bind_iff]
  refine ⟨createSession_avoids session, fun found _ =>
    ⟨by simp [createPreparedStatement_avoids work statement], fun outcome _ => ?_⟩⟩
  split
  · simp
  simp only [Prog.Avoids.bind_iff]
  refine ⟨by simp [ownership], fun owns _ => ?_⟩
  split
  · simp
  · exact Prog.Avoids.bind_iff.mpr ⟨by simp, fun impossible _ => impossible.elim⟩

/-- Preparing a statement in a shared session grants nothing but the session it hydrates, the
statement with its record, and work. -/
theorem createPreparedStatementClustered_avoids (session : set .session = false)
    (resource : set .resource = false) (work : set .work = false)
    (statement : set .statement = false) :
    (gateway.createPreparedStatementClustered principal id sql).Avoids (Op.within set) := by
  simp only [createPreparedStatementClustered, Prog.Avoids.bind_iff]
  refine ⟨sessionClustered_avoids session, fun _ _ =>
    ⟨createPreparedStatement_avoids work statement, fun created _ => ?_⟩⟩
  split <;> simp [resource]

@[simp] theorem sharedParameters_avoids {key : Option String} :
    (sharedParameters key).Avoids (Op.within set) := by
  cases key <;> simp [sharedParameters, decodeBatches]

/-- Looking up a shared statement grants nothing but the session it hydrates and work. -/
theorem preparedStatementClustered_avoids (session : set .session = false)
    (work : set .work = false) :
    (gateway.preparedStatementClustered principal id).Avoids (Op.within set) := by
  simp only [preparedStatementClustered, Prog.Avoids.bind_iff]
  refine ⟨by simp, fun outcome _ => ?_⟩
  split <;> simp [sessionClustered_avoids session, prepare_avoids work]

theorem bindPreparedStatement_avoids {parameters : List RecordBatch} (lock : set .lock = false) :
    (gateway.bindPreparedStatement principal id parameters).Avoids (Op.within set) := by
  simp [bindPreparedStatement, bindLocked, lock]

/-- Binding parameters of a shared statement grants nothing but the session it hydrates, the
statement's record, work and the lock of the statements. -/
theorem bindPreparedStatementClustered_avoids {parameters : List RecordBatch}
    (session : set .session = false) (resource : set .resource = false)
    (work : set .work = false) (lock : set .lock = false) :
    (gateway.bindPreparedStatementClustered principal id parameters).Avoids (Op.within set) := by
  simp only [bindPreparedStatementClustered, Prog.Avoids.bind_iff]
  refine ⟨preparedStatementClustered_avoids session work, fun _ _ =>
    ⟨bindPreparedStatement_avoids lock, fun bound _ => ?_⟩⟩
  split <;> simp [shareParameters, resource]

theorem executePreparedUpdate_avoids (work : set .work = false) :
    (gateway.executePreparedUpdate principal id).Avoids (Op.within set) := by
  simp [executePreparedUpdate, work]

@[simp] theorem closePreparedStatement_avoids :
    (closePreparedStatement principal id).Avoids (Op.within set) := by
  simp only [closePreparedStatement, Prog.Avoids.bind_iff]
  refine ⟨by simp, fun reply _ => ⟨by simp, fun record _ => ?_⟩⟩
  split <;> simp

/-- Dropping a shared statement grants nothing but the session it hydrates and work. -/
theorem closePreparedStatementClustered_avoids (session : set .session = false)
    (work : set .work = false) :
    (gateway.closePreparedStatementClustered principal id).Avoids (Op.within set) := by
  simp only [closePreparedStatementClustered, Prog.Avoids.bind_iff]
  refine ⟨preparedStatementClustered_avoids session work, fun _ _ =>
    ⟨by simp, fun _ _ => ?_⟩⟩
  split <;> simp

@[simp] theorem queryClustered_avoids :
    (gateway.queryClustered principal id).Avoids (Op.within set) := by
  simp only [queryClustered, Prog.Avoids.bind_iff]
  refine ⟨by simp, fun outcome _ => ?_⟩
  split <;> simp

@[simp] theorem resultPage_avoids {offset limit : Nat} :
    (gateway.resultPage principal id offset limit).Avoids (Op.within set) := by
  have loaded : ∀ storage start stop, (loadPage storage start stop).Avoids (Op.within set) := by
    intro storage start stop
    cases storage <;> simp [loadPage]
  simp [resultPage, loaded]

@[simp] theorem sharedQuery_avoids :
    (gateway.sharedQuery principal id).Avoids (Op.within set) := by
  simp [sharedQuery]

@[simp] theorem openShared_avoids {missing : ServiceError} {key : String} :
    (openShared missing key).Avoids (Op.within set) := by
  simp [openShared]

@[simp] theorem resultReaderClustered_avoids :
    (gateway.resultReaderClustered principal id).Avoids (Op.within set) := by
  simp only [resultReaderClustered, Prog.Avoids.bind_iff]
  refine ⟨by simp, fun outcome _ => ?_⟩
  split <;> simp

@[simp] theorem resultBatchCount_avoids :
    (gateway.resultBatchCount principal id).Avoids (Op.within set) := by
  simp only [resultBatchCount, Prog.Avoids.bind_iff]
  refine ⟨by simp, fun reference _ => ⟨by simp, fun record _ => ⟨by simp, fun _ _ => ?_⟩⟩⟩
  split <;> simp

@[simp] theorem resultPartitionReader_avoids {partition partitions : Nat} :
    (gateway.resultPartitionReader principal id partition partitions).Avoids (Op.within set) := by
  simp [resultPartitionReader]

end Gateway

/-- What an operation may grant. -/
def Operation.grants : Operation → List Grant
  | createSession _ _ | sessionClustered _ => [.session]
  | preparedStatementClustered _ | executePreparedUpdateClustered _
  | closePreparedStatementClustered _ => [.session, .work]
  | createStatelessPreparedStatement _ _ => [.session, .work, .statement, .ownership]
  | createPreparedStatement _ _ => [.work, .statement]
  | executePreparedUpdate _ | executeSessionUpdate _ _ | ingest _ _ _ => [.work]
  | bindPreparedStatement _ _ => [.lock]
  | submitSessionQuery _ _ | executePreparedStatement _ => [.query, .work]
  | submitStatelessQuery _ _ _ => [.session, .query, .work]
  | createSessionClustered _ _ => [.session, .resource, .permit]
  | updateSessionClustered _ _ _ | switchTargetClustered _ _ _ | mutateSessionClustered _ _ _ _ =>
    [.session, .resource]
  | createPreparedStatementClustered _ _ => [.session, .resource, .work, .statement]
  | bindPreparedStatementClustered _ _ => [.session, .resource, .work, .lock]
  | closeSessionClustered _ => [.session, .permit]
  | submitSessionQueryClustered _ _ | executePreparedStatementClustered _ =>
    [.session, .query, .resource, .work]
  | submitStatelessQueryClustered _ _ _ => [.session, .query, .resource, .permit, .work]
  | recoverQueryClustered _ => [.resource]
  | _ => []

/-- What a request may grant. -/
def Request.grants : Request → List Grant
  | call _ operation => operation.grants
  | task (.publishQueryCompletion _ _ _) _ => [.resource]
  | _ => []

open Gateway in
/-- An operation grants nothing else. -/
theorem operation_avoids {gateway : Gateway} {principal : AuthenticatedPrincipal}
    {operation : Operation} (other : ∀ grant ∈ operation.grants, set grant = false) :
    (gateway.operation principal operation).Avoids (Op.within set) := by
  cases operation with
  | submitStatelessQuery name overrides sql =>
    simp only [Operation.grants, List.forall_mem_cons] at other
    simp only [Gateway.operation, Prog.Avoids.map_iff, submitStatelessQuery,
      Prog.Avoids.bind_iff]
    refine ⟨createSession_avoids other.1, fun found _ =>
      ⟨by simp [submitQuery_avoids other.2.1 other.2.2.1], fun outcome _ => ?_⟩⟩
    split <;> simp
  | resultPageClustered id offset limit =>
    simp only [Gateway.operation, Prog.Avoids.map_iff, resultPageClustered, Prog.Avoids.bind_iff]
    refine ⟨by simp, fun outcome _ => ?_⟩
    split <;> simp
  | resultPartitionReaderClustered id partition partitions =>
    simp only [Gateway.operation, Prog.Avoids.map_iff, resultPartitionReaderClustered,
      Prog.Avoids.bind_iff]
    refine ⟨by simp, fun outcome _ => ?_⟩
    split <;> simp
  | querySchema id =>
    simp only [Gateway.operation, Prog.Avoids.map_iff, querySchema, Prog.Avoids.bind_iff]
    refine ⟨by simp, fun reference _ => ⟨by simp, fun record _ => ⟨by simp, fun _ _ => ?_⟩⟩⟩
    split <;> simp
  | createSession | createSessionClustered | sessionClustered | updateSessionClustered
  | switchTargetClustered | mutateSessionClustered | closeSessionClustered | submitSessionQuery
  | submitSessionQueryClustered | submitStatelessQueryClustered | createPreparedStatement
  | createStatelessPreparedStatement | createPreparedStatementClustered
  | preparedStatementClustered | bindPreparedStatement | bindPreparedStatementClustered
  | executePreparedStatement
  | executePreparedStatementClustered | executePreparedUpdate | executePreparedUpdateClustered
  | executeSessionUpdate | ingest | closePreparedStatementClustered | recoverQueryClustered =>
    simp only [Operation.grants, List.forall_mem_cons] at other
    simp [Gateway.operation, submitSessionQuery, submitSessionQueryClustered,
      submitStatelessQueryClustered, executePreparedStatement, executePreparedStatementClustered,
      executePreparedUpdateClustered, executeSessionUpdate, ingest, updateSessionClustered,
      switchTargetClustered, createPreparedStatement_avoids, executePreparedUpdate_avoids,
      createSession_avoids, createSessionClustered_avoids, sessionClustered_avoids,
      mutateSessionClustered_avoids, closeSessionClustered_avoids, submitQuery_avoids,
      publishClusterQuery_avoids, recoverQueryClustered_avoids,
      createStatelessPreparedStatement_avoids, createPreparedStatementClustered_avoids,
      preparedStatementClustered_avoids, bindPreparedStatement_avoids,
      bindPreparedStatementClustered_avoids, closePreparedStatementClustered_avoids, other]
  | _ =>
    simp [Gateway.operation, sessionMetadataRequest, targetMetadataRequest, updateSession,
      switchTarget, cancel, eventHistory]

/-- A request grants nothing else. -/
theorem program_avoids {gateway : Gateway} {request : Request}
    (other : ∀ grant ∈ request.grants, set grant = false) :
    (gateway.program request).Avoids (Op.within set) := by
  cases request with
  | call principal operation => exact operation_avoids other
  | beginShutdown => simp [Gateway.program, Gateway.beginShutdown]
  | cleanupExpired => simp [Gateway.program]
  | task task polls =>
    cases task with
    | collectQuery => simp [Gateway.program]
    | publishQueryCompletion =>
      simp only [Gateway.program]
      split
      · simp
      · exact Gateway.publishQueryCompletion_avoids (other _ List.mem_cons_self)

end

end ConfluxQuery
