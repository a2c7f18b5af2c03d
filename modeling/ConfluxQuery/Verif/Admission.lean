import ConfluxQuery.Lib.Gate
import ConfluxQuery.Verif.Footprints

/-!
# What a call has read when it admits something

Before a call inserts the owner of a session it has created, it has counted its principal's
sessions; before it inserts a query record, it has counted its principal's active queries and the
records of the process. Each count was below its limit when it was read. A session that is hydrated
from the shared store is inserted without a count. A permit of the cluster is asked for under the
limit of the principal.
-/

namespace ConfluxQuery

/-- What an operation reads of the number of a principal's sessions. -/
def sessionReads (principal : String) : (act : Op) → act.Reply → Option Nat
  | .owners (.count owner), count => if owner = principal then some count else none
  | _, _ => none

/-- What an operation reads of the number of a principal's active queries. -/
def activeReads (principal : String) : (act : Op) → act.Reply → Option Nat
  | .records (.countActive owner), count => if owner = principal then some count else none
  | _, _ => none

/-- What an operation reads of the number of records. -/
def recordReads : (act : Op) → act.Reply → Option Nat
  | .records .len, size => some size
  | _, _ => none

/-- Only a count of the principal's sessions reads their number. -/
theorem sessionReads_eq_some {principal : String} {act : Op} {reply : act.Reply} {count : Nat}
    (read : sessionReads principal act reply = some count) :
    (⟨act, reply⟩ : Sigma Op.Reply) = ⟨.owners (.count principal), count⟩ := by
  unfold sessionReads at read
  split at read
  · obtain ⟨rfl, rfl⟩ := Option.ite_none_right_eq_some.mp read |>.imp_right Option.some.inj
    rfl
  · cases read

/-- Only a count of the principal's active queries reads their number. -/
theorem activeReads_eq_some {principal : String} {act : Op} {reply : act.Reply} {count : Nat}
    (read : activeReads principal act reply = some count) :
    (⟨act, reply⟩ : Sigma Op.Reply) = ⟨.records (.countActive principal), count⟩ := by
  unfold activeReads at read
  split at read
  · obtain ⟨rfl, rfl⟩ := Option.ite_none_right_eq_some.mp read |>.imp_right Option.some.inj
    rfl
  · cases read

/-- Only the length of the registry reads the number of records. -/
theorem recordReads_eq_some {act : Op} {reply : act.Reply} {size : Nat}
    (read : recordReads act reply = some size) :
    (⟨act, reply⟩ : Sigma Op.Reply) = ⟨.records .len, size⟩ := by
  unfold recordReads at read
  split at read
  · cases read
    rfl
  · cases read

/-- The call's last step was to hydrate a session. -/
def Seen.hydrating : Seen → Bool
  | ⟨.sessions (.restore _ _), _⟩ :: _ => true
  | _ => false

/-- What a call has read when it admits something. -/
def Op.Admitted (gateway : Gateway) (request : Request) (trail : Seen) : Op → Prop
  | .owners (.insert _ owner) => trail.hydrating = true ∨ ∃ principal operation count,
      request = .call principal operation ∧ owner = principal.id ∧
      lastRead (S := gatewayOps) (sessionReads owner) trail = some count ∧
      count < principal.maxSessions
  | .records (.insert record) => ∃ principal operation active size,
      request = .call principal operation ∧ record.owner = principal.id ∧
      lastRead (S := gatewayOps) (activeReads record.owner) trail = some active ∧
      active < principal.maxConcurrentQueries ∧
      lastRead (S := gatewayOps) recordReads trail = some size ∧ size < gateway.limits.maxQueries
  | .store (.acquireQuota owner quota limit _) => ∃ principal operation,
      request = .call principal operation ∧ owner = principal.id ∧ quota = "sessions" ∧
      limit = principal.maxSessions
  | _ => True

/-- What one request keeps to when it admits something. -/
def admissionRule (gateway : Gateway) (request : Request) : Rule gatewayOps :=
  ⟨fun trail act => act.Admitted gateway request trail, fun _ _ => True⟩

/-- What every request keeps to when it admits something. -/
def admissionProtocol (gateways : Nat → Gateway) :
    Protocol gatewayOps Nat Request ServiceError Answer where
  allowed place request trail act := act.Admitted (gateways place) request trail
  possible _ _ := True
  post _ _ _ _ := True

/-- What may be granted under a condition. -/
def admission : Grant → Bool
  | .query | .session | .permit => true
  | .resource | .work | .statement | .ownership | .lock => false

@[simp] theorem admission_resource : admission .resource = false := rfl

@[simp] theorem admission_work : admission .work = false := rfl

@[simp] theorem admission_statement : admission .statement = false := rfl

/-- Making a statement the owner of its session meets no condition. -/
@[simp] theorem admission_ownership : admission .ownership = false := rfl

/-- Using the lock of the statements meets no condition. -/
@[simp] theorem admission_lock : admission .lock = false := rfl

/-- An operation that admits nothing meets no condition. -/
theorem admitted_of_not {gateway : Gateway} {request : Request} (trail : Seen) (act : Op)
    (other : act.within admission = false) : act.Admitted gateway request trail := by
  cases act with
  | owners op =>
    cases op with
    | insert => cases other
    | touch | remove | count | expired => trivial
  | records op =>
    cases op with
    | insert => cases other
    | len | countActive | activeQueryCount | findOwned | inspect | cancelSession | cancelActive
    | retainUnexpired | cancel | pushEvent | setEngineQueryId | collectBatch | finishResults
    | setError | setErrorIfNone => trivial
  | store op =>
    cases op with
    | acquireQuota => cases other
    | putResource | getResource | deleteResource | claimQuery | renewQuery | releaseQuery
    | releaseQuota => trivial
  | sessions | prepared | objects | adapter | host => trivial

namespace Gateway

open Call

variable {gateway : Gateway} {principal : AuthenticatedPrincipal} {operation : Operation}
  {id : String}

variable {request : Request} {overrides : Registry String String}

theorem keeps_of_avoids {α : Type} {prog : Call α} (avoids : prog.Avoids (Op.within admission)) :
    prog.Keeps (admissionRule gateway request) :=
  .of_avoids admitted_of_not avoids

/-- Once the count is below the limit, what is left of a creation keeps to the rule. -/
theorem createCounted_follows {target : ResolvedTarget} {trail : Seen} {count : Nat}
    (counted : lastRead (S := gatewayOps) (sessionReads principal.id) trail = some count)
    (room : count < principal.maxSessions) :
    Follows (admissionRule gateway (.call principal operation)) (do
      let created ← createWithOverrides target overrides
      owners (.insert created.id principal.id)
      return created) trail fun _ _ => True := by
  have rest : ∀ (username : String) (longer : Seen),
      lastRead (S := gatewayOps) (sessionReads principal.id) longer = some count →
      Follows (admissionRule gateway (.call principal operation)) (do
        let id ← sessions (.nextSessionId username)
        let session : Session := ⟨id, 1, target, overrides⟩
        sessions (.insert session)
        owners (.insert (snapshot session).id principal.id)
        return snapshot session) longer fun _ _ => True := by
    intro username longer counted
    refine Follows.perform trivial fun id _ => Follows.perform trivial fun _ _ => ?_
    refine Follows.perform (.inr ⟨principal, operation, count, rfl, rfl, ?_, room⟩)
      fun _ _ => trivial
    rwa [lastRead_cons_none rfl, lastRead_cons_none rfl]
  unfold createWithOverrides sessionUser
  split
  · exact rest _ trail counted
  · refine Follows.perform trivial fun user _ => rest _ _ ?_
    rwa [lastRead_cons_none rfl]

theorem createSession_keeps {name : String} :
    (gateway.createSession principal name overrides).Keeps
      (admissionRule gateway (.call principal operation)) := by
  refine .bind (keeps_of_avoids (by simp)) fun _ => .bind (keeps_of_avoids (by simp)) fun _ => ?_
  refine ⟨fun trail => Follows.bind_iff.mpr (Follows.perform trivial fun count _ => ?_)⟩
  refine Follows.ensure_iff.mpr ⟨fun room => ?_, fun _ => trivial⟩
  refine Follows.bind_iff.mpr (Follows.bind_iff.mpr (Follows.ensure_iff.mpr
    ⟨fun _ => ?_, fun _ => trivial⟩))
  refine Follows.okOr_iff.mpr ⟨fun target _ => ?_, fun _ => trivial⟩
  exact createCounted_follows (lastRead_cons_some (if_pos rfl)) (of_decide_eq_true room)

/-- A hydrated session is admitted right after it was restored. -/
theorem sessionClustered_keeps :
    (gateway.sessionClustered principal id).Keeps (admissionRule gateway request) := by
  refine .bind (keeps_of_avoids (by simp)) fun local_ => ?_
  split
  · exact keeps_of_avoids (by simp)
  refine .bind (keeps_of_avoids (by simp)) fun _ => .bind (keeps_of_avoids (by simp)) fun _ =>
    .bind (keeps_of_avoids (by simp)) fun _ => .bind (keeps_of_avoids (by simp)) fun resource =>
    .bind (keeps_of_avoids (by simp)) fun found => .bind (keeps_of_avoids (by simp)) fun target =>
    ⟨fun trail => ?_⟩
  refine Follows.perform trivial fun restored _ => Follows.bind_iff.mpr (Follows.lift_iff.mpr ?_)
  cases restored with
  | error error => trivial
  | ok _ => exact Follows.perform (.inl rfl) fun _ _ => trivial

theorem submitQuery_keeps {found : SessionSnapshot} {sql : String}
    {parameters : Option (List RecordBatch)} {close : Bool} :
    (gateway.submitQuery principal found sql parameters close).Keeps
      (admissionRule gateway (.call principal operation)) := by
  refine .bind (keeps_of_avoids (by simp)) fun _ => .bind (keeps_of_avoids (by simp)) fun _ =>
    .bind (keeps_of_avoids (by simp)) fun _ => ⟨fun trail => ?_⟩
  refine Follows.bind_iff.mpr (Follows.perform trivial fun active _ => ?_)
  refine Follows.ensure_iff.mpr ⟨fun room => ?_, fun _ => trivial⟩
  refine Follows.perform trivial fun size _ => Follows.bind_iff.mpr ?_
  refine Follows.ensure_iff.mpr ⟨fun space => ?_, fun _ => trivial⟩
  refine Follows.bind_iff.mpr (Follows.bind_iff.mpr (Follows.ensure_iff.mpr
    ⟨fun _ => ?_, fun _ => trivial⟩))
  refine Follows.perform trivial fun number _ => Follows.perform trivial fun run _ =>
    Follows.perform trivial fun uuid _ => ?_
  refine Follows.perform ⟨principal, operation, active, size, rfl, rfl, ?_, of_decide_eq_true room,
    ?_, of_decide_eq_true space⟩ fun reference _ => ?_
  · rw [lastRead_cons_none rfl, lastRead_cons_none rfl, lastRead_cons_none rfl,
      lastRead_cons_none rfl]
    exact lastRead_cons_some (if_pos rfl)
  · rw [lastRead_cons_none rfl, lastRead_cons_none rfl, lastRead_cons_none rfl]
    exact lastRead_cons_some rfl
  · exact Follows.perform trivial fun _ _ => Follows.perform trivial fun _ _ => trivial

/-- A shared session is admitted under a permit and after a count. -/
theorem createSessionClustered_keeps {name : String} :
    (gateway.createSessionClustered principal name overrides).Keeps
      (admissionRule gateway (.call principal operation)) := by
  unfold createSessionClustered
  split
  · exact createSession_keeps
  refine .bind (keeps_of_avoids (by simp)) fun _ => .bind (.perform fun _ => ?_) fun granted =>
    .bind (keeps_of_avoids (by simp)) fun permit => .bind createSession_keeps.attempt fun made => ?_
  · exact ⟨principal, operation, rfl, rfl, rfl, rfl⟩
  split
  · exact .bind (.perform fun _ => trivial) fun _ => keeps_of_avoids (by simp)
  · refine .bind (keeps_of_avoids (by simp)) fun _ =>
      .bind (keeps_of_avoids (by simp)) fun wrote => ?_
    split
    · exact .bind (keeps_of_avoids (by simp)) fun _ => .bind (.perform fun _ => trivial) fun _ =>
        keeps_of_avoids (by simp)
    · exact keeps_of_avoids (by simp)

/-- Changing a shared session admits the session it hydrates. -/
theorem mutateSessionClustered_keeps {version : Nat} {name : Option String}
    {overrides : Registry String (Option String)} :
    (gateway.mutateSessionClustered principal id version name overrides).Keeps
      (admissionRule gateway request) := by
  refine .bind sessionClustered_keeps fun _ => .bind (keeps_of_avoids (by simp)) fun changed => ?_
  split
  · exact keeps_of_avoids (by simp)
  · exact .bind (keeps_of_avoids (shareMutation_avoids rfl)) fun _ => keeps_of_avoids (by simp)

/-- Ending a shared session admits the session it hydrates. -/
theorem closeSessionClustered_keeps :
    (gateway.closeSessionClustered principal id).Keeps (admissionRule gateway request) := by
  refine .bind sessionClustered_keeps fun _ => .bind (keeps_of_avoids (by simp)) fun closing =>
    .bind (keeps_of_avoids (by simp)) fun _ => ?_
  split
  · exact keeps_of_avoids (by simp)
  refine .bind (keeps_of_avoids (by simp)) fun _ => .bind (keeps_of_avoids (by simp)) fun _ => ?_
  split
  · exact keeps_of_avoids (by simp)
  · exact .bind (.perform fun _ => trivial) fun _ => keeps_of_avoids (by simp)

/-- Reading a shared statement admits the session it hydrates. -/
theorem preparedStatementClustered_keeps :
    (gateway.preparedStatementClustered principal id).Keeps (admissionRule gateway request) := by
  refine .bind (keeps_of_avoids (by simp)) fun local_ => ?_
  split
  · exact keeps_of_avoids (by simp)
  · exact .bind (keeps_of_avoids (by simp)) fun _ => .bind (keeps_of_avoids (by simp)) fun _ =>
      .bind (keeps_of_avoids (by simp)) fun _ => .bind (keeps_of_avoids (by simp)) fun _ =>
      .bind (keeps_of_avoids (by simp)) fun _ => .bind sessionClustered_keeps fun _ =>
      keeps_of_avoids (by simp [prepare_avoids admission_work])

/-- Publishing a query admits nothing. -/
theorem publish_keeps {status : QueryStatus} :
    (do
      gateway.publishClusterQuery principal status
      return status).Keeps (admissionRule gateway request) :=
  .bind (keeps_of_avoids (publishClusterQuery_avoids rfl)) fun _ => keeps_of_avoids (by simp)

/-- Every operation keeps to the rule. -/
theorem operation_keeps (gateway : Gateway) (principal : AuthenticatedPrincipal)
    (operation : Operation) :
    (gateway.operation principal operation).Keeps
      (admissionRule gateway (.call principal operation)) := by
  cases operation with
  | createSession => exact .map createSession_keeps
  | createSessionClustered => exact .map createSessionClustered_keeps
  | sessionClustered => exact .map sessionClustered_keeps
  | updateSessionClustered | switchTargetClustered | mutateSessionClustered =>
    exact .map mutateSessionClustered_keeps
  | closeSessionClustered => exact .map closeSessionClustered_keeps
  | submitSessionQuery => exact .map (.bind (keeps_of_avoids (by simp)) fun _ => submitQuery_keeps)
  | submitSessionQueryClustered =>
    exact .map (.bind sessionClustered_keeps fun _ => .bind submitQuery_keeps fun _ =>
      publish_keeps)
  | submitStatelessQuery =>
    refine .map (.bind createSession_keeps fun _ => .bind submitQuery_keeps.attempt fun _ => ?_)
    exact keeps_of_avoids (by split <;> simp)
  | submitStatelessQueryClustered =>
    exact .map (.bind createSessionClustered_keeps fun _ => .bind submitQuery_keeps fun _ =>
      publish_keeps)
  | createStatelessPreparedStatement =>
    refine .map (.bind createSession_keeps fun _ => .bind
      (keeps_of_avoids (Prog.Avoids.attempt_iff.mpr (createPreparedStatement_avoids rfl rfl)))
      fun _ => ?_)
    split
    · exact keeps_of_avoids (by simp)
    refine .bind (keeps_of_avoids (by simp)) fun owns => ?_
    split
    · exact keeps_of_avoids (by simp)
    · exact .bind (keeps_of_avoids (by simp)) fun impossible => impossible.elim
  | createPreparedStatementClustered =>
    refine .map (.bind sessionClustered_keeps fun _ => .bind
      (keeps_of_avoids (createPreparedStatement_avoids rfl rfl)) fun _ => ?_)
    exact keeps_of_avoids (by split <;> simp)
  | preparedStatementClustered => exact .map preparedStatementClustered_keeps
  | bindPreparedStatementClustered =>
    refine .map (.bind preparedStatementClustered_keeps fun _ =>
      .bind (keeps_of_avoids (bindPreparedStatement_avoids rfl)) fun _ => ?_)
    exact keeps_of_avoids (by split <;> simp [shareParameters])
  | executePreparedStatement =>
    exact .map (.bind (keeps_of_avoids (by simp)) fun _ => .bind (keeps_of_avoids (by simp))
      fun _ => submitQuery_keeps)
  | executePreparedStatementClustered =>
    exact .map (.bind preparedStatementClustered_keeps fun _ => .bind sessionClustered_keeps
      fun _ => .bind submitQuery_keeps fun _ =>
        publish_keeps)
  | executePreparedUpdateClustered =>
    exact .map (.bind preparedStatementClustered_keeps fun _ =>
      keeps_of_avoids (executePreparedUpdate_avoids admission_work))
  | closePreparedStatementClustered =>
    refine .map (.bind preparedStatementClustered_keeps fun _ =>
      .bind (keeps_of_avoids (by simp)) fun _ => ?_)
    exact keeps_of_avoids (by split <;> simp)
  | _ => exact keeps_of_avoids (operation_avoids (by simp [Operation.grants, admission]))

end Gateway

theorem admission_obeys {S : Type} [ClusterStateStore S Payload] (gateways : Nat → Gateway) :
    (gatewayMachine S gateways).Obeys (admissionProtocol gateways) where
  follows place request := by
    have keeps : ((gateways place).program request).Keeps
        (admissionRule (gateways place) request) := by
      cases request with
      | call principal operation => exact Gateway.operation_keeps _ principal operation
      | beginShutdown => exact Gateway.keeps_of_avoids (program_avoids (by simp [Request.grants]))
      | cleanupExpired => exact Gateway.keeps_of_avoids (program_avoids (by simp [Request.grants]))
      | task task polls =>
        refine Gateway.keeps_of_avoids (program_avoids ?_)
        cases task <;> simp [Request.grants, admission]
    exact keeps.follows []
  replies _ _ _ _ _ _ := trivial

end ConfluxQuery
