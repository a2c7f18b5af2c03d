import ConfluxQuery.Verif.CollectorCalls
import ConfluxQuery.Verif.PreparedCalls
import ConfluxQuery.Verif.ReadCalls

/-!
# Gateways keep to the protocol

Every request's program keeps to the protocol from its first step and its outcome is explained, and
every reply of a gateway process is a possible one. With this every run of any number of gateways
is a history of the protocol.
-/

namespace ConfluxQuery

open Seen

namespace Gateway

variable {gateway : Gateway} {principal : AuthenticatedPrincipal}

/-- The rule of an operation a principal calls. -/
@[reducible] def callRule (gateway : Gateway) (principal : AuthenticatedPrincipal)
    (operation : Operation) : Rule gatewayOps := gateway.rule (.call principal operation)

/-- An operation keeps to the protocol and its outcome is explained. -/
def Conforms (gateway : Gateway) (principal : AuthenticatedPrincipal) (operation : Operation) :
    Prop :=
  Follows (gateway.callRule principal operation) (gateway.operation principal operation) []
    (Explained gateway principal operation)

theorem nothing_drawn (id : String) : ¬Drew [] id := by
  rintro ⟨_, seen⟩
  cases seen

theorem nothing_started (task : Task) : ¬Saw [] (.host (.spawn task)) () := by
  intro seen
  cases seen

/-- Mutating a session in the cluster. -/
theorem mutation_conforms {operation : Operation} {id : String} {version : Nat}
    {name : Option String} {values : Registry String (Option String)}
    (mutates : operation.mutation = some (id, version, name, values)) :
    Follows (gateway.callRule principal operation)
      (Answer.session <$> gateway.mutateSessionClustered principal id version name values) []
      (Explained gateway principal operation) :=
  Follows.map_iff.mpr (mutateSessionClustered_follows rfl mutates
    (fun _ target _ mutated =>
      .of_ok (.inr (.inr (.inr ⟨id, version, target, values, mutated⟩))))
    fun _ _ => .of_error)

theorem submitSessionQuery_conforms (id sql : String) :
    gateway.Conforms principal (.submitSessionQuery id sql) := by
  refine Follows.map_iff.mpr (Follows.bind_iff.mpr
    (session_follows rfl ?_ fun _ _ _ _ => .of_error))
  intro first found one owned _ holds
  exact submitQuery_follows rfl holds
    (fun task seen => nothing_started task (one.spawned task seen)) (by simp)
    (fun _ reference stored _ submitted _ => .of_ok (.inl ⟨reference, stored, submitted, rfl⟩))
    fun _ _ _ => .of_error

theorem submitSessionQueryClustered_conforms (id sql : String) :
    gateway.Conforms principal (.submitSessionQueryClustered id sql) := by
  refine Follows.map_iff.mpr (Follows.bind_iff.mpr (sessionClustered_follows rfl ?_
    fun _ _ => .of_error))
  intro first found one holds
  refine Follows.bind_iff.mpr (submitQuery_follows rfl holds
    (fun task seen => nothing_started task (one.spawned task seen)) (by simp) ?_
    fun _ _ _ => .of_error)
  intro second reference stored grown submitted unpublished
  refine Follows.bind_iff.mpr (publishClusterQuery_follows rfl submitted unpublished
    fun third outcome later => ?_)
  cases outcome with
  | error error => exact .of_error
  | ok => exact .of_ok (.inl ⟨reference, stored, submitted.grow later, rfl⟩)

theorem submitStatelessQuery_conforms (name sql : String) (overrides : Registry String String) :
    gateway.Conforms principal (.submitStatelessQuery name overrides sql) := by
  refine Follows.map_iff.mpr (Follows.bind_iff.mpr (createSession_follows rfl nothing_drawn rfl ?_
    fun _ _ _ => .of_error))
  intro first session one drew inserted
  refine Follows.bind_iff.mpr (Follows.attempt_iff.mpr (submitQuery_follows rfl
    (.created session inserted) (fun task seen => nothing_started task (one.spawned task seen))
    (fun _ => drew) ?_ ?_))
  · exact fun _ reference stored _ submitted _ =>
      .of_ok (.inl ⟨reference, stored, submitted, rfl⟩)
  · intro second error grown
    refine Follows.perform (.creator (drew.grow grown)) fun _ _ => ?_
    exact Follows.perform (.creator (drew.grow (grown.trans ⟨[_], rfl⟩))) fun _ _ => .of_error

theorem submitStatelessQueryClustered_conforms (name sql : String)
    (overrides : Registry String String) :
    gateway.Conforms principal (.submitStatelessQueryClustered name overrides sql) := by
  refine Follows.map_iff.mpr (Follows.bind_iff.mpr (createSessionClustered_follows rfl
    nothing_drawn rfl ?_ fun _ _ _ => .of_error))
  intro first session one drew inserted
  refine Follows.bind_iff.mpr (submitQuery_follows rfl
    (.created session inserted) (fun task seen => nothing_started task (one.spawned task seen))
    (fun _ => drew) ?_ fun _ _ _ => .of_error)
  intro second reference stored _ submitted unpublished
  refine Follows.bind_iff.mpr (publishClusterQuery_follows rfl submitted unpublished
    fun third outcome later => ?_)
  cases outcome with
  | error error => exact .of_error
  | ok => exact .of_ok (.inl ⟨reference, stored, submitted.grow later, rfl⟩)

theorem conforms (operation : Operation) : gateway.Conforms principal operation := by
  have tells : ∀ {trail : Seen} {id : String} {operation : Operation} {answer : Answer},
      operation.subject = some (.query id) →
      ((∃ reference record, trail.Located principal.id id reference record ∧
          answer.Shows trail.Saw record) ∨ gateway.cluster.isSome = true) →
      trail.Tells principal.id operation answer ∨ gateway.cluster.isSome = true :=
    fun names sourced => sourced.imp_left
      fun ⟨reference, record, found, shows⟩ => ⟨_, reference, record, names, found, shows⟩
  cases operation with
  | sessionMetadataRequest id catalog schema pattern =>
    refine Follows.map_iff.mpr (Follows.bind_iff.mpr (session_follows rfl ?_
      fun _ _ _ _ => .of_error))
    intro after found _ owned _ holds
    exact .of_ok (.inl ⟨found, holds, rfl, rfl, rfl⟩)
  | targetMetadataRequest name catalog schema pattern =>
    refine Follows.map_iff.mpr (Follows.bind_iff.mpr (authorizedTarget_follows ?_
      fun _ => .of_error))
    intro target allowed same found
    subst same
    exact Explained.of_ok (.inr ⟨target, found, allowed, rfl, rfl⟩)
  | createSession name overrides =>
    exact Follows.map_iff.mpr (createSession_follows rfl nothing_drawn rfl
      (fun _ _ _ _ inserted => .of_ok (.inl (.created _ inserted)))
      fun _ _ _ => .of_error)
  | createSessionClustered name overrides =>
    exact Follows.map_iff.mpr (createSessionClustered_follows rfl nothing_drawn rfl
      (fun _ _ _ _ inserted => .of_ok (.inl (.created _ inserted)))
      fun _ _ _ => .of_error)
  | session id =>
    exact Follows.map_iff.mpr (session_follows rfl
      (fun _ _ _ owned _ holds => .of_ok (.inl holds))
      fun _ _ _ _ => .of_error)
  | sessionClustered id =>
    exact Follows.map_iff.mpr (sessionClustered_follows rfl
      (fun _ _ _ holds => .of_ok (.inl holds)) fun _ _ => .of_error)
  | updateSession id version overrides =>
    exact Follows.map_iff.mpr (updateSession_follows rfl
      (fun _ _ made => .of_ok (.inr (.inl ⟨_, _, _, made⟩))) fun _ _ => .of_error)
  | updateSessionClustered id version overrides => exact mutation_conforms rfl
  | switchTarget id version name =>
    exact Follows.map_iff.mpr (switchTarget_follows rfl
      (fun _ _ _ made => .of_ok (.inr (.inr (.inl ⟨_, _, _, made⟩)))) fun _ _ => .of_error)
  | switchTargetClustered id version name => exact mutation_conforms rfl
  | mutateSession id version name overrides =>
    exact Follows.map_iff.mpr (mutateSession_follows rfl rfl
      (fun _ _ _ made => .of_ok (.inr (.inr (.inr ⟨_, _, _, _, made⟩)))) fun _ _ => .of_error)
  | mutateSessionClustered id version name overrides => exact mutation_conforms rfl
  | closeSession id =>
    exact Follows.map_iff.mpr (closeSession_follows rfl
      (fun _ _ _ _ _ => .of_ok trivial) fun _ _ _ => .of_error)
  | closeSessionClustered id =>
    refine Follows.map_iff.mpr (closeSessionClustered_follows rfl fun _ outcome => ?_)
    cases outcome with
    | error _ => exact .of_error
    | ok _ => exact .of_ok trivial
  | submitSessionQuery id sql => exact submitSessionQuery_conforms id sql
  | submitSessionQueryClustered id sql => exact submitSessionQueryClustered_conforms id sql
  | submitStatelessQuery name overrides sql =>
    exact submitStatelessQuery_conforms name sql overrides
  | submitStatelessQueryClustered name overrides sql =>
    exact submitStatelessQueryClustered_conforms name sql overrides
  | createPreparedStatement id sql =>
    exact Follows.map_iff.mpr (createPreparedStatement_follows rfl
      (fun _ _ _ _ _ made => .of_ok (.inl ⟨_, _, made⟩)) fun _ _ => .of_error)
  | createStatelessPreparedStatement name sql =>
    exact Follows.map_iff.mpr (createStatelessPreparedStatement_follows rfl nothing_drawn rfl
      (fun _ limit record _ made => .of_ok (.inl ⟨limit, record, made⟩)) fun _ _ => .of_error)
  | createPreparedStatementClustered id sql =>
    exact Follows.map_iff.mpr (createPreparedStatementClustered_follows rfl
      (fun _ _ _ _ made => .of_ok (.inl ⟨_, _, made⟩)) fun _ _ => .of_error)
  | preparedStatement handle =>
    exact Follows.map_iff.mpr (preparedStatement_follows rfl
      (fun _ _ _ found => .of_ok (.inr (.inl ⟨_, found⟩))) fun _ _ => .of_error)
  | preparedStatementClustered handle =>
    exact Follows.map_iff.mpr (preparedStatementClustered_follows rfl
      (fun _ _ _ sourced => .of_ok (.inr (sourced.elim (fun found => .inl ⟨_, found⟩)
        fun clustered => .inr (.inr clustered)))) fun _ _ => .of_error)
  | bindPreparedStatement handle parameters =>
    exact Follows.map_iff.mpr (bindPreparedStatement_follows rfl rfl
      (fun _ _ _ made => .of_ok (.inr (.inr (.inl ⟨_, _, made⟩)))) fun _ _ => .of_error)
  | bindPreparedStatementClustered handle parameters =>
    exact Follows.map_iff.mpr (bindPreparedStatementClustered_follows rfl
      (fun _ _ _ made => .of_ok (.inr (.inr (.inl ⟨_, _, made⟩)))) fun _ _ => .of_error)
  | executePreparedStatement handle =>
    exact Follows.map_iff.mpr (executePreparedStatement_follows rfl nothing_started
      (fun _ _ _ made => .of_ok (.inl ⟨_, _, made, rfl⟩)) fun _ _ => .of_error)
  | executePreparedStatementClustered handle =>
    exact Follows.map_iff.mpr (executePreparedStatementClustered_follows rfl nothing_started
      (fun _ _ _ made => .of_ok (.inl ⟨_, _, made, rfl⟩)) fun _ _ => .of_error)
  | executePreparedUpdate handle =>
    exact Follows.map_iff.mpr (executePreparedUpdate_follows rfl
      (fun _ found _ holds => .of_ok ⟨found, holds⟩) fun _ _ => .of_error)
  | executePreparedUpdateClustered handle =>
    exact Follows.map_iff.mpr (executePreparedUpdateClustered_follows rfl
      (fun _ found _ holds => .of_ok ⟨found, holds⟩) fun _ _ => .of_error)
  | executeSessionUpdate id sql =>
    exact Follows.map_iff.mpr (executeSessionUpdate_follows rfl
      (fun _ found _ holds => .of_ok ⟨found, holds⟩) fun _ _ => .of_error)
  | ingest id load batches =>
    exact Follows.map_iff.mpr (ingest_follows rfl
      (fun _ found _ holds => .of_ok ⟨found, holds⟩) fun _ _ => .of_error)
  | closePreparedStatement handle =>
    refine Follows.map_iff.mpr (closePreparedStatement_follows rfl fun _ outcome => ?_)
    cases outcome with
    | error _ => exact .of_error
    | ok _ => exact .of_ok trivial
  | closePreparedStatementClustered handle =>
    refine Follows.map_iff.mpr (closePreparedStatementClustered_follows rfl fun _ outcome => ?_)
    cases outcome with
    | error _ => exact .of_error
    | ok _ => exact .of_ok trivial
  | query id =>
    exact Follows.map_iff.mpr (query_follows rfl
      (fun _ _ _ _ located => .of_ok (.inr (.inl ⟨_, _, _, located, rfl⟩)))
      fun _ _ => .of_error)
  | queryClustered id =>
    exact Follows.map_iff.mpr (queryClustered_follows rfl
      (fun _ _ _ _ located => .of_ok (.inr (.inl ⟨_, _, _, located, rfl⟩)))
      (fun _ _ _ clustered _ => .of_ok (.inr (.inr clustered)))
      fun _ _ => .of_error)
  | recoverQueryClustered id =>
    exact Follows.map_iff.mpr (recoverQueryClustered_follows rfl
      (fun _ _ clustered => .of_ok (.inr (.inr clustered)))
      fun _ _ => .of_error)
  | cancel id =>
    exact Follows.map_iff.mpr (cancel_follows rfl
      (fun _ _ _ located => .of_ok (.inr (.inl ⟨_, _, _, located, rfl⟩)))
      fun _ => .of_error)
  | resultPage id offset limit =>
    refine Follows.map_iff.mpr (resultPage_follows rfl ?_ fun _ _ => .of_error)
    intro after page _ read
    refine .of_ok ⟨fun _ _ _ same => ?_, tells rfl (.inl read.shows)⟩
    cases same
    exact read
  | resultPageClustered id offset limit =>
    exact Follows.map_iff.mpr (resultPageClustered_follows rfl
      (fun _ _ sourced => .of_ok ⟨by simp, tells rfl sourced⟩)
      fun _ _ => .of_error)
  | resultReader id =>
    refine Follows.map_iff.mpr (resultReaderRange_follows rfl ?_ fun _ _ _ => .of_error)
    intro after reader _ read
    refine .of_ok ⟨fun _ same => ?_, tells rfl (.inl read.shows)⟩
    cases same
    exact read
  | resultReaderClustered id =>
    exact Follows.map_iff.mpr (resultReaderClustered_follows rfl
      (fun _ _ _ opens => .of_ok ⟨by simp,
        tells rfl (opens.imp Seen.ReadsResult.shows And.left)⟩)
      fun _ _ => .of_error)
  | resultBatchCount id =>
    exact Follows.map_iff.mpr (resultBatchCount_follows rfl
      (fun _ _ _ _ _ found shows => .of_ok ⟨_, _, _, rfl, found, shows⟩)
      fun _ _ => .of_error)
  | resultPartitionReader id partition partitions =>
    refine Follows.map_iff.mpr (resultPartitionReader_follows rfl ?_
      fun _ _ => .of_error)
    intro after skip remaining reader _ read
    exact .of_ok ⟨by simp, tells rfl (.inl read.shows)⟩
  | resultPartitionReaderClustered id partition partitions =>
    exact Follows.map_iff.mpr (resultPartitionReaderClustered_follows rfl
      (fun _ _ opens => .of_ok ⟨by simp, tells rfl opens.sourced⟩)
      fun _ _ => .of_error)
  | querySchema id =>
    exact Follows.map_iff.mpr (querySchema_follows rfl
      (fun _ _ ⟨_, _, found, _, _, same⟩ => .of_ok ⟨_, _, _, rfl, found, same⟩)
      fun _ _ => .of_error)
  | eventHistory id after =>
    exact Follows.map_iff.mpr (eventHistory_follows rfl
      (fun _ _ _ _ found shows => .of_ok ⟨_, _, _, rfl, found, shows⟩)
      fun _ => .of_error)

end Gateway

end ConfluxQuery
