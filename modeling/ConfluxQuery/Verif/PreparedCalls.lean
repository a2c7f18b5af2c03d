import ConfluxQuery.Verif.QueryCalls

/-!
# Prepared statements and ingestion keep to the protocol

One lemma for each program of `Service.Prepared`.
-/

namespace ConfluxQuery

namespace Gateway

open Seen

variable {gateway : Gateway} {request : Request} {principal : AuthenticatedPrincipal}
  {operation : Operation} {trail : Seen} {id handle sql : String}

theorem requireCapability_follows {engine message : String} {unavailable : ServiceError}
    {capability : AdapterCapability} {post : Seen → Except ServiceError Unit → Prop}
    (capable : post trail (.ok ())) (refused : ∀ error, post trail (.error error)) :
    Follows (gateway.rule request)
      (gateway.requireCapability engine unavailable capability message) trail post := by
  refine Follows.bind_iff.mpr (Follows.okOr_iff.mpr ⟨fun capabilities _ => ?_, fun _ => refused _⟩)
  exact Follows.ensure_iff.mpr ⟨fun _ => capable, fun _ => refused _⟩

theorem prepare_follows {found : SessionSnapshot} (called : request = .call principal operation)
    (holds : trail.Holds principal.id found)
    {post : Seen → Except ServiceError PreparedStatementMetadata → Prop}
    (done : ∀ (after : Seen) outcome, Quiet trail after → post after outcome) :
    Follows (gateway.rule request) (gateway.prepare found sql) trail post := by
  refine Follows.bind_iff.mpr (queryRequest_follows (fun first sent one carries => ?_)
    fun error => done _ _ Quiet.rfl)
  refine Follows.perform ⟨principal, operation, found, called, holds.grow one.grown, carries⟩
    fun reply _ => Follows.lift_iff.mpr ?_
  exact done _ _ (one.trans (Quiet.steps [_] rfl))

theorem createPreparedStatement_follows (called : request = .call principal operation)
    {post : Seen → Except ServiceError PreparedStatementSnapshot → Prop}
    (created : ∀ (after : Seen) limit record created, record.sessionId = id →
      after.Saw (.prepared (.create limit record)) (some created) → post after (.ok created))
    (failed : ∀ (after : Seen) error, post after (.error error)) :
    Follows (gateway.rule request) (gateway.createPreparedStatement principal id sql) trail
      post := by
  refine Follows.bind_iff.mpr (ensureAvailable_follows (fun _ _ _ => ?_) fun _ _ _ => failed _ _)
  refine Follows.bind_iff.mpr (Follows.ensure_iff.mpr ⟨fun _ => ?_, fun _ => failed _ _⟩)
  refine Follows.bind_iff.mpr (session_follows (acts_of_call called)
    (fun second found two owned _ holds => ?_) fun _ _ _ _ => failed _ _)
  refine Follows.bind_iff.mpr (requireCapability_follows ?_ fun _ => failed _ _)
  refine Follows.bind_iff.mpr (prepare_follows called holds fun third outcome three => ?_)
  cases outcome with
  | error _ => exact failed _ _
  | ok metadata =>
    refine Follows.bind_iff.mpr (cleanupExpired_follows fun fourth four => ?_)
    have owned := (owned.grow three.grown).grow four.grown
    refine Follows.perform ⟨principal, operation, called, rfl, rfl, owned⟩ fun reply _ => ?_
    refine Follows.okOr_iff.mpr ⟨fun statement made => ?_, fun _ => failed _ _⟩
    subst made
    exact created _ _ _ statement rfl Saw.newest

theorem createStatelessPreparedStatement_follows {name : String}
    (called : request = .call principal operation) (fresh : ∀ id, ¬trail.Drew id)
    (given : operation.created = ∅)
    {post : Seen → Except ServiceError PreparedStatementSnapshot → Prop}
    (created : ∀ (after : Seen) limit record created,
      after.Saw (.prepared (.create limit record)) (some created) → post after (.ok created))
    (refused : ∀ (after : Seen) error, post after (.error error)) :
    Follows (gateway.rule request) (gateway.createStatelessPreparedStatement principal name sql)
      trail post := by
  refine Follows.bind_iff.mpr (createSession_follows called fresh given ?_
    fun _ _ _ => refused _ _)
  intro first session _ _ _
  have withdraw : ∀ (after : Seen) error, Follows (gateway.rule request) (do
      let _ ← (closeSession principal (snapshot session).id).attempt
      Prog.fail error) after post := by
    intro after error
    exact Follows.bind_iff.mpr (Follows.attempt_iff.mpr (closeSession_follows
      (acts_of_call called) (fun _ _ _ _ _ => refused _ _) fun _ _ _ => refused _ _))
  refine Follows.bind_iff.mpr (Follows.attempt_iff.mpr (createPreparedStatement_follows called ?_
    withdraw))
  intro second limit record statement _ made
  refine Follows.perform ⟨limit, record, statement, made, rfl⟩ fun marked _ => ?_
  cases marked with
  | true => exact created _ limit record statement (made.grow ⟨[_], rfl⟩)
  | false => exact Follows.perform trivial fun impossible _ => impossible.elim

theorem createPreparedStatementClustered_follows (called : request = .call principal operation)
    {post : Seen → Except ServiceError PreparedStatementSnapshot → Prop}
    (created : ∀ (after : Seen) limit record created,
      after.Saw (.prepared (.create limit record)) (some created) → post after (.ok created))
    (failed : ∀ (after : Seen) error, post after (.error error)) :
    Follows (gateway.rule request) (gateway.createPreparedStatementClustered principal id sql) trail
      post := by
  refine Follows.bind_iff.mpr (sessionClustered_follows (acts_of_call called)
    (fun _ _ _ _ => ?_) failed)
  refine Follows.bind_iff.mpr (createPreparedStatement_follows called ?_ failed)
  intro second limit record statement same made
  cases joined : gateway.cluster with
  | none => exact created _ limit record statement made
  | some _ =>
    have clustered : gateway.cluster.isSome = true := by rw [joined]; rfl
    refine Follows.bind_iff.mpr (Follows.perform trivial fun now _ => ?_)
    subst same
    refine Follows.perform ⟨clustered, .createPrepared principal operation limit _ record statement
      sql called (made.grow ⟨[_], rfl⟩)⟩
      fun reply _ => Follows.bind_iff.mpr (Follows.lift_iff.mpr ?_)
    cases reply with
    | error _ => exact failed _ _
    | ok _ => exact created _ limit record statement (made.grow ⟨[_, _], rfl⟩)

/-- A prepared statement of this node. -/
theorem preparedStatement_follows (acts : request.principal = some principal)
    {post : Seen → Except ServiceError PreparedStatementSnapshot → Prop}
    (found : ∀ (after : Seen) statement, Quiet trail after →
      after.Saw (.prepared (.touch principal.id handle)) (some statement) →
      post after (.ok statement))
    (refused : ∀ after : Seen, Quiet trail after → post after (.error preparedNotFound)) :
    Follows (gateway.rule request) (gateway.preparedStatement principal handle) trail post := by
  refine Follows.bind_iff.mpr (cleanupExpired_follows fun first one => ?_)
  refine Follows.perform ⟨principal, acts, rfl⟩ fun reply _ =>
    Follows.okOr_iff.mpr ⟨?_, fun _ => ?_⟩
  · intro statement present
    subst present
    exact found _ statement (one.trans (Quiet.steps [_] rfl)) Saw.newest
  · exact refused _ (one.trans (Quiet.steps [_] rfl))

theorem sharedParameters_follows {key : Option String}
    {post : Seen → Except ServiceError (List RecordBatch) → Prop}
    (loaded : ∀ (after : Seen) parameters, Quiet trail after → after.Loaded key parameters →
      post after (.ok parameters))
    (failed : ∀ (after : Seen) error, Quiet trail after → post after (.error error)) :
    Follows (gateway.rule request) (sharedParameters key) trail post := by
  cases key with
  | none => exact loaded _ _ Quiet.rfl .none
  | some key =>
    refine Follows.perform trivial fun reply _ =>
      Follows.found (fun file present => ?_) fun _ => failed _ _ (Quiet.steps [_] rfl)
    subst present
    refine Follows.perform trivial fun read _ => Follows.bind_iff.mpr (Follows.lift_iff.mpr ?_)
    cases read with
    | error _ => exact failed _ _ (Quiet.steps [_, _] rfl)
    | ok entries =>
      refine Follows.lift_iff.mpr ?_
      cases decoded : entries.mapM id with
      | error _ => exact failed _ _ (Quiet.steps [_, _] rfl)
      | ok parameters =>
        exact loaded _ _ (Quiet.steps [_, _] rfl)
          (.object key file entries parameters (Saw.newest.grow ⟨[_], rfl⟩) Saw.newest decoded)

theorem preparedStatementClustered_follows (called : request = .call principal operation)
    {post : Seen → Except ServiceError PreparedStatementSnapshot → Prop}
    (found : ∀ (after : Seen) statement, Quiet trail after →
      (after.Saw (.prepared (.touch principal.id handle)) (some statement) ∨
        gateway.cluster.isSome = true) → post after (.ok statement))
    (failed : ∀ (after : Seen) error, post after (.error error)) :
    Follows (gateway.rule request) (gateway.preparedStatementClustered principal handle) trail
      post := by
  have acts := acts_of_call called
  refine Follows.bind_iff.mpr (Follows.attempt_iff.mpr (preparedStatement_follows acts
    (fun _ statement one touched => found _ statement one (.inl touched)) fun first one => ?_))
  refine Follows.bind_iff.mpr (Follows.ensure_iff.mpr ⟨fun clustered => ?_, fun _ => failed _ _⟩)
  refine Follows.perform ⟨clustered, principal, acts, rfl⟩ fun reply _ => ?_
  have two := one.trans (Quiet.steps
    [⟨.store (.getResource "prepared" handle principal.id), reply⟩] rfl)
  refine Follows.found (fun resource present => ?_) (failed _)
  subst present
  have known : Read (⟨.store (.getResource "prepared" handle principal.id),
    .ok (some resource)⟩ :: first) "prepared" handle principal.id resource := Saw.newest
  refine Follows.bind_iff.mpr (Follows.lift_iff.mpr ?_)
  cases shape : resource.payload with
  | session _ => exact failed _ _
  | query _ => exact failed _ _
  | prepared shared =>
    refine Follows.bind_iff.mpr (sessionClustered_follows acts
      (fun third session three holds => ?_) failed)
    refine Follows.bind_iff.mpr (prepare_follows called holds fun fourth outcome four => ?_)
    cases outcome with
    | error error => exact failed _ _
    | ok metadata =>
      refine Follows.bind_iff.mpr (sharedParameters_follows
        (fun fifth parameters five loaded => ?_) fun _ _ _ => failed _ _)
      refine Follows.perform trivial fun now _ => ?_
      have known := (known.grow three.grown).grow (four.trans five).grown
      refine Follows.perform ⟨principal, operation, resource, shared, called,
        known.grow ⟨[_], rfl⟩, shape, rfl, rfl, rfl, loaded.grow ⟨[_], rfl⟩⟩ fun _ _ => ?_
      refine found _ _ ?_ (.inr clustered)
      exact ((two.trans three).trans (four.trans five)).trans (Quiet.steps [_, _] rfl)

section Bindings

variable {parameters : List RecordBatch} (called : request = .call principal operation)
  (binds : operation.binding = some (handle, parameters))
  {post : Seen → Except ServiceError PreparedStatementSnapshot → Prop}
  (bound : ∀ (after : Seen) record statement,
    after.Saw (.prepared (.bind handle record)) statement → post after (.ok statement))
  (failed : ∀ (after : Seen) error, post after (.error error))

include called binds bound failed

theorem bindLocked_follows :
    Follows (gateway.rule request) (gateway.bindLocked principal handle parameters) trail post := by
  have acts := acts_of_call called
  refine Follows.perform ⟨principal, acts, rfl⟩ fun reply _ => ?_
  refine Follows.bind_iff.mpr (Follows.okOr_iff.mpr ⟨fun record present => ?_,
    fun _ => failed _ _⟩)
  subst present
  refine Follows.bind_iff.mpr (session_follows acts (fun second found two _ _ _ => ?_)
    fun _ _ _ _ => failed _ _)
  refine Follows.bind_iff.mpr (requireCapability_follows ?_ fun _ => failed _ _)
  refine Follows.bind_iff.mpr (Follows.ensure_iff.mpr ⟨fun _ => ?_, fun _ => failed _ _⟩)
  exact Follows.perform_iff.mpr ⟨⟨principal, operation, record, _, _, called, binds,
    Saw.newest.grow two.grown, rfl⟩, fun statement _ => bound _ _ statement Saw.newest⟩

theorem bindPreparedStatement_follows :
    Follows (gateway.rule request) (gateway.bindPreparedStatement principal handle parameters) trail
      post := by
  refine Follows.bind_iff.mpr (cleanupExpired_follows fun first one => ?_)
  refine Follows.perform trivial fun _ _ => ?_
  refine Follows.bind_iff.mpr (Follows.attempt_iff.mpr (bindLocked_follows called binds ?_ ?_))
  · intro second record statement made
    refine Follows.perform trivial fun _ _ => Follows.lift_iff.mpr ?_
    exact bound _ record statement (made.grow ⟨[_], rfl⟩)
  · intro second error
    exact Follows.perform trivial fun _ _ => Follows.lift_iff.mpr (failed _ error)

end Bindings

/-- Sharing bound parameters. -/
theorem shareParameters_follows {parameters : List RecordBatch}
    (called : request = .call principal (.bindPreparedStatementClustered handle parameters))
    (clustered : gateway.cluster.isSome = true)
    {post : Seen → Except ServiceError Unit → Prop}
    (done : ∀ (after : Seen) outcome, trail <:+ after → post after outcome) :
    Follows (gateway.rule request) (gateway.shareParameters principal handle parameters) trail
      post := by
  refine Follows.perform trivial fun encoded _ => Follows.bind_iff.mpr (Follows.lift_iff.mpr ?_)
  cases encoded with
  | error _ => exact done _ _ ⟨[_], rfl⟩
  | ok file =>
    refine Follows.perform trivial fun stored _ => Follows.bind_iff.mpr (Follows.lift_iff.mpr ?_)
    cases stored with
    | error _ => exact done _ _ ⟨[_, _], rfl⟩
    | ok =>
      refine Follows.perform ⟨clustered, principal, acts_of_call called, rfl⟩ fun reply _ => ?_
      refine Follows.found (fun resource present => ?_) fun _ => done _ _ ⟨[_, _, _], rfl⟩
      subst present
      refine Follows.bind_iff.mpr (Follows.lift_iff.mpr ?_)
      cases shape : resource.payload with
      | session _ => exact done _ _ ⟨[_, _, _], rfl⟩
      | query _ => exact done _ _ ⟨[_, _, _], rfl⟩
      | prepared shared =>
        refine Follows.bind_iff.mpr (Follows.perform trivial fun now _ => ?_)
        refine Follows.perform ⟨clustered, .bindPrepared principal handle parameters now _
          resource shared _ called ⟨_, rfl, _, rfl⟩ shape⟩ fun reply _ => ?_
        refine Follows.bind_iff.mpr (Follows.lift_iff.mpr ?_)
        cases reply with
        | error _ => exact done _ _ ⟨[_, _, _, _, _], rfl⟩
        | ok _ => exact done _ _ ⟨[_, _, _, _, _], rfl⟩

theorem bindPreparedStatementClustered_follows {parameters : List RecordBatch}
    (called : request = .call principal (.bindPreparedStatementClustered handle parameters))
    {post : Seen → Except ServiceError PreparedStatementSnapshot → Prop}
    (bound : ∀ (after : Seen) record statement,
      after.Saw (.prepared (.bind handle record)) statement → post after (.ok statement))
    (failed : ∀ (after : Seen) error, post after (.error error)) :
    Follows (gateway.rule request)
      (gateway.bindPreparedStatementClustered principal handle parameters) trail post := by
  refine Follows.bind_iff.mpr (preparedStatementClustered_follows called (fun first _ _ _ => ?_)
    failed)
  refine Follows.bind_iff.mpr (bindPreparedStatement_follows called rfl ?_ failed)
  intro second record statement made
  cases joined : gateway.cluster with
  | none => exact bound _ record statement made
  | some _ =>
    have clustered : gateway.cluster.isSome = true := by rw [joined]; rfl
    refine Follows.bind_iff.mpr (shareParameters_follows called clustered
      fun third outcome grown => ?_)
    cases outcome with
    | error _ => exact failed _ _
    | ok => exact bound _ record statement (made.grow grown)

section Executions

variable (called : request = .call principal operation)
  (idle : ∀ task, ¬trail.Saw (.host (.spawn task)) ())
  {post : Seen → Except ServiceError QueryStatus → Prop}
  (submitted : ∀ (after : Seen) reference stored, after.Submitted reference stored →
    post after (.ok (queryStatus stored)))
  (failed : ∀ (after : Seen) error, post after (.error error))

include called idle submitted failed

theorem executePreparedStatement_follows :
    Follows (gateway.rule request) (gateway.executePreparedStatement principal handle) trail
      post := by
  have acts := acts_of_call called
  refine Follows.bind_iff.mpr (preparedStatement_follows acts (fun first statement one _ => ?_)
    fun _ _ => failed _ _)
  refine Follows.bind_iff.mpr (session_follows acts (fun second session two _ _ holds => ?_)
    fun _ _ _ _ => failed _ _)
  exact submitQuery_follows called holds
    (fun task seen => idle task ((one.trans two).spawned task seen)) (by simp)
    (fun _ reference stored _ made _ => submitted _ reference stored made) fun _ _ _ => failed _ _

theorem executePreparedStatementClustered_follows :
    Follows (gateway.rule request) (gateway.executePreparedStatementClustered principal handle)
      trail post := by
  refine Follows.bind_iff.mpr (preparedStatementClustered_follows called
    (fun first statement one _ => ?_) failed)
  refine Follows.bind_iff.mpr (sessionClustered_follows (acts_of_call called)
    (fun second session two holds => ?_) failed)
  refine Follows.bind_iff.mpr (submitQuery_follows called holds
    (fun task seen => idle task ((one.trans two).spawned task seen)) (by simp) ?_
    fun _ _ _ => failed _ _)
  intro third reference stored _ made unpublished
  refine Follows.bind_iff.mpr (publishClusterQuery_follows called made unpublished
    fun fourth outcome later => ?_)
  cases outcome with
  | error error => exact failed _ _
  | ok => exact submitted _ reference stored (made.grow later)

end Executions

section Updates

variable (called : request = .call principal operation)
  {post : Seen → Except ServiceError Int → Prop}
  (updated : ∀ (after : Seen) found count, after.Holds principal.id found →
    post after (.ok count))
  (failed : ∀ (after : Seen) error, post after (.error error))

include called updated failed

theorem executeSessionUpdate_follows :
    Follows (gateway.rule request) (gateway.executeSessionUpdate principal id sql) trail post := by
  refine Follows.bind_iff.mpr (session_follows (acts_of_call called)
    (fun first session one _ _ holds => ?_) fun _ _ _ _ => failed _ _)
  refine Follows.bind_iff.mpr (queryRequest_follows (fun second sent two carries => ?_)
    fun _ => failed _ _)
  refine Follows.perform ⟨principal, operation, session, called, holds.grow two.grown, carries⟩
    fun reply _ => Follows.lift_iff.mpr ?_
  cases reply with
  | error _ => exact failed _ _
  | ok count => exact updated _ session count (holds.grow (two.grown.trans ⟨[_], rfl⟩))

theorem executePreparedUpdate_follows :
    Follows (gateway.rule request) (gateway.executePreparedUpdate principal handle) trail post := by
  have acts := acts_of_call called
  refine Follows.bind_iff.mpr (preparedStatement_follows acts (fun first statement _ _ => ?_)
    fun _ _ => failed _ _)
  refine Follows.bind_iff.mpr (session_follows acts (fun second session two _ _ holds => ?_)
    fun _ _ _ _ => failed _ _)
  refine Follows.bind_iff.mpr (queryRequest_follows (fun third sent three carries => ?_)
    fun _ => failed _ _)
  refine Follows.perform ⟨principal, operation, session, called, holds.grow three.grown, carries⟩
    fun reply _ => Follows.lift_iff.mpr ?_
  cases reply with
  | error _ => exact failed _ _
  | ok count => exact updated _ session count (holds.grow (three.grown.trans ⟨[_], rfl⟩))

theorem executePreparedUpdateClustered_follows :
    Follows (gateway.rule request) (gateway.executePreparedUpdateClustered principal handle) trail
      post :=
  Follows.bind_iff.mpr (preparedStatementClustered_follows called
    (fun _ _ _ _ => executePreparedUpdate_follows called updated failed) failed)

theorem ingest_follows {load : IngestRequest} {batches : List RecordBatch} :
    Follows (gateway.rule request) (gateway.ingest principal id load batches) trail post := by
  refine Follows.bind_iff.mpr (ensureAvailable_follows (fun _ _ _ => ?_) fun _ _ _ => failed _ _)
  refine Follows.bind_iff.mpr (Follows.ensure_iff.mpr ⟨fun _ => ?_, fun _ => failed _ _⟩)
  refine Follows.bind_iff.mpr (session_follows (acts_of_call called)
    (fun second session _ _ _ holds => ?_) fun _ _ _ _ => failed _ _)
  refine Follows.bind_iff.mpr (requireCapability_follows ?_ fun _ => failed _ _)
  refine Follows.perform ⟨principal, operation, session, called, holds, rfl⟩
    fun reply _ => Follows.lift_iff.mpr ?_
  cases reply with
  | error _ => exact failed _ _
  | ok count => exact updated _ session count (holds.grow ⟨[_], rfl⟩)

end Updates

theorem closePreparedStatement_follows (acts : request.principal = some principal)
    {post : Seen → Except ServiceError Unit → Prop}
    (done : ∀ (after : Seen) outcome, post after outcome) :
    Follows (gateway.rule request) (closePreparedStatement principal handle) trail post := by
  refine Follows.perform ⟨principal, acts, rfl⟩ fun reply _ => ?_
  refine Follows.bind_iff.mpr (Follows.okOr_iff.mpr ⟨fun record present => ?_, fun _ => done _ _⟩)
  subst present
  show Follows _ (if record.ownsSession = true then _ else _) _ _
  split
  · exact closeSession_follows acts (fun _ _ _ _ _ => done _ _) fun _ _ _ => done _ _
  · exact done _ _

theorem closePreparedStatementClustered_follows
    (called : request = .call principal (.closePreparedStatementClustered handle))
    {post : Seen → Except ServiceError Unit → Prop}
    (done : ∀ (after : Seen) outcome, post after outcome) :
    Follows (gateway.rule request) (gateway.closePreparedStatementClustered principal handle) trail
      post := by
  refine Follows.bind_iff.mpr (preparedStatementClustered_follows called (fun first _ _ _ => ?_)
    fun _ _ => done _ _)
  refine Follows.bind_iff.mpr (closePreparedStatement_follows (acts_of_call called)
    fun second outcome => ?_)
  cases outcome with
  | error _ => exact done _ _
  | ok _ =>
    cases joined : gateway.cluster with
    | none => exact done _ _
    | some _ =>
      have clustered : gateway.cluster.isSome = true := by rw [joined]; rfl
      refine Follows.perform ⟨clustered, principal, rfl, .inr ⟨rfl, called⟩⟩ fun reply _ => ?_
      refine Follows.bind_iff.mpr (Follows.lift_iff.mpr ?_)
      cases reply with
      | error _ => exact done _ _
      | ok _ => exact done _ _

end Gateway

end ConfluxQuery
