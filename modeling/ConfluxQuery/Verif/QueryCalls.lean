import ConfluxQuery.Verif.SessionCalls

/-!
# Query operations keep to the protocol

One lemma for each program of `Service.Queries` that a call or a publisher runs: submission, the
shared status of a query, and what reads a record.
-/

namespace ConfluxQuery

namespace Gateway

open Seen

variable {gateway : Gateway} {request : Request} {principal : AuthenticatedPrincipal}
  {operation : Operation} {trail : Seen} {id : String}

/-- Locating a record of one's own. -/
theorem ownedRecord_follows (acts : request.principal = some principal)
    {post : Seen → Except ServiceError Nat → Prop}
    (found : ∀ (after : Seen) reference, Quiet trail after →
      after.Saw (.records (.findOwned principal.id id)) (some reference) →
      post after (.ok reference))
    (refused : ∀ after : Seen, Quiet trail after → post after (.error queryNotFound)) :
    Follows (gateway.rule request) (gateway.ownedRecord principal id) trail post := by
  refine Follows.bind_iff.mpr (cleanupExpired_follows fun first one => ?_)
  refine Follows.perform ⟨principal, acts, rfl⟩ fun reply _ =>
    Follows.okOr_iff.mpr ⟨?_, fun _ => ?_⟩
  · intro reference present
    subst present
    exact found _ reference (one.trans (Quiet.steps [_] rfl)) Saw.newest
  · exact refused _ (one.trans (Quiet.steps [_] rfl))

theorem inspected_follows {α : Type} {next : Nat → QueryRecord → Call α}
    (acts : request.principal = some principal) {post : Seen → Except ServiceError α → Prop}
    (located : ∀ (after : Seen) reference record, Quiet trail after →
      after.Located principal.id id reference record →
      Follows (gateway.rule request) (next reference record) after post)
    (refused : ∀ after : Seen, Quiet trail after → post after (.error queryNotFound)) :
    Follows (gateway.rule request) (do
      let reference ← gateway.ownedRecord principal id
      let record ← Call.records (.inspect reference)
      next reference record) trail post := by
  refine Follows.bind_iff.mpr (ownedRecord_follows acts (fun first reference one found => ?_)
    refused)
  refine Follows.perform (.inr ⟨principal, acts, id, found⟩) fun record _ => ?_
  exact located _ reference record (one.trans (Quiet.steps [_] rfl))
    ⟨found.grow ⟨[_], rfl⟩, Saw.newest⟩

/-- The status of a query on this node. -/
theorem query_follows (acts : request.principal = some principal)
    {post : Seen → Except ServiceError QueryStatus → Prop}
    (located : ∀ (after : Seen) reference record, Quiet trail after →
      after.Located principal.id id reference record → post after (.ok (queryStatus record)))
    (refused : ∀ after : Seen, Quiet trail after → post after (.error queryNotFound)) :
    Follows (gateway.rule request) (gateway.query principal id) trail post :=
  inspected_follows acts (fun _ reference record one found => located _ reference record one found)
    refused

variable {post : Seen → Except ServiceError Unit → Prop} {status : QueryStatus} {lease : QueryLease}

theorem enforceQueryQuota_follows (within : ∀ after : Seen, Quiet trail after → post after (.ok ()))
    (refused : ∀ (after : Seen) error, Quiet trail after → post after (.error error)) :
    Follows (gateway.rule request) (enforceQueryQuota principal) trail post := by
  refine Follows.perform trivial fun count _ => Follows.ensure_iff.mpr ⟨fun _ => ?_, fun _ => ?_⟩
  · exact within _ (Quiet.steps [_] rfl)
  · exact refused _ _ (Quiet.steps [_] rfl)

theorem queryRequest_follows {found : SessionSnapshot} {sql : String}
    {post : Seen → Except ServiceError QueryRequest → Prop}
    (numbered : ∀ (after : Seen) (sent : QueryRequest), Quiet trail after →
      sent.context = found.context → post after (.ok sent))
    (refused : ∀ error, post trail (.error error)) :
    Follows (gateway.rule request) (gateway.queryRequest found sql) trail post := by
  refine Follows.bind_iff.mpr (Follows.ensure_iff.mpr ⟨fun _ => ?_, fun _ => refused _⟩)
  exact Follows.perform trivial fun number _ => numbered _ _ (Quiet.steps [_] rfl) rfl

/-- Submitting a statement inserts a record for the session and starts its collector. -/
theorem submitQuery_follows {found : SessionSnapshot} {sql : String}
    {parameters : Option (List RecordBatch)} {close : Bool}
    (called : request = .call principal operation) (holds : trail.Holds principal.id found)
    (idle : ∀ task, ¬trail.Saw (.host (.spawn task)) ()) (own : close = true → trail.Drew found.id)
    {post : Seen → Except ServiceError QueryStatus → Prop}
    (submitted : ∀ (after : Seen) reference stored, trail <:+ after →
      after.Submitted reference stored →
      (∀ principal queryId lease,
        ¬after.Saw (.host (.spawn (.publishQueryCompletion principal queryId lease))) ()) →
      post after (.ok (queryStatus stored)))
    (refused : ∀ (after : Seen) error, trail <:+ after → post after (.error error)) :
    Follows (gateway.rule request) (gateway.submitQuery principal found sql parameters close) trail
      post := by
  refine Follows.bind_iff.mpr (ensureAvailable_follows (fun first one _ => ?_)
    fun first one _ => refused _ _ one.grown)
  refine Follows.bind_iff.mpr (Follows.ensure_iff.mpr ⟨fun _ => ?_, fun _ => refused _ _ one.grown⟩)
  refine Follows.bind_iff.mpr (cleanupExpired_follows fun second two => ?_)
  refine Follows.bind_iff.mpr (enforceQueryQuota_follows (fun third three => ?_)
    fun third error three => refused _ _ ((one.trans two).trans three).grown)
  have quiet := (one.trans two).trans three
  refine Follows.perform trivial fun size _ => ?_
  refine Follows.bind_iff.mpr (Follows.ensure_iff.mpr ⟨fun _ => ?_,
    fun _ => refused _ _ (quiet.grown.trans ⟨[_], rfl⟩)⟩)
  refine Follows.bind_iff.mpr (queryRequest_follows (fun fourth sent four carries => ?_)
    fun error => refused _ _ (quiet.grown.trans ⟨[_], rfl⟩))
  have numbered := quiet.trans ((Quiet.steps [⟨.records .len, size⟩] rfl).trans four)
  refine Follows.perform ⟨principal, operation, found, called, holds.grow numbered.grown, carries⟩
    fun run _ => ?_
  refine Follows.perform trivial fun uuid _ => ?_
  refine Follows.perform ⟨principal, operation, uuid, _, found, called, rfl,
    holds.grow (numbered.grown.trans ⟨[_, _], rfl⟩), rfl⟩ fun reference _ => ?_
  refine Follows.perform (.inl ⟨_, Saw.newest⟩) fun stored _ => ?_
  have fresh : ∀ task, ¬Saw (⟨.records (.inspect reference), stored⟩ ::
      ⟨.records (.insert ⟨"qcli_" ++ uuid, principal.id, found.id, found.version, found.target,
        found.engine, false, .submitted⟩), reference⟩ :: ⟨.host .uuid, uuid⟩ ::
      ⟨.adapter (.execute sent parameters), run⟩ :: fourth) (.host (.spawn task)) () := by
    intro task seen
    exact idle task (numbered.spawned task (by simpa [Saw] using seen))
  refine Follows.perform ⟨principal, operation, _, called, Saw.newest.grow ⟨[_], rfl⟩, rfl, rfl,
    ⟨sent, parameters, Saw.newest.grow ⟨[_, _, _], rfl⟩⟩, fun yes => ?_, ?_⟩ fun _ _ => ?_
  · exact (own yes).grow (numbered.grown.trans ⟨[_, _, _, _], rfl⟩)
  · exact fun _ _ _ _ seen => fresh _ seen
  refine submitted _ reference stored (numbered.grown.trans ⟨[_, _, _, _, _], rfl⟩)
    ⟨⟨_, Saw.newest.grow ⟨[_, _], rfl⟩⟩, Saw.newest.grow ⟨[_], rfl⟩⟩ ?_
  intro other queryId lease seen
  rcases List.mem_cons.mp seen with head | tail
  · cases head
  · exact fresh _ tail

theorem putSharedQuery_follows {resultKey : Option String} {batchCount : Nat}
    (acts : request.principal = some principal) (clustered : gateway.cluster.isSome = true)
    (leased : request.Leases trail status.id lease.fencingToken)
    (keyed : resultKey ≠ none → status.state = .completed)
    (done : ∀ (after : Seen) outcome, Idle trail after → post after outcome) :
    Follows (gateway.rule request) (putSharedQuery principal status resultKey batchCount lease)
      trail post := by
  refine Follows.bind_iff.mpr (Follows.perform trivial fun now _ => ?_)
  refine Follows.perform ⟨clustered, principal, acts, rfl⟩ fun reply _ => ?_
  refine Follows.bind_iff.mpr (Follows.lift_iff.mpr ?_)
  cases reply with
  | error _ => exact done _ _ (Idle.steps [_, _] rfl)
  | ok current =>
    refine Follows.perform ⟨clustered, .shareQuery principal status resultKey batchCount
      lease.fencingToken _ current acts ⟨_, rfl⟩ (leased.grow ⟨[_, _], rfl⟩) keyed⟩
      fun reply _ => ?_
    refine Follows.bind_iff.mpr (Follows.lift_iff.mpr ?_)
    cases reply with
    | error _ => exact done _ _ (Idle.steps [_, _, _] rfl)
    | ok _ => exact done _ _ (Idle.steps [_, _, _] rfl)

theorem publishClusterQuery_follows {reference : Nat} {stored : QueryRecord}
    (called : request = .call principal operation) (submitted : trail.Submitted reference stored)
    (unpublished : ∀ principal queryId lease,
      ¬trail.Saw (.host (.spawn (.publishQueryCompletion principal queryId lease))) ())
    (done : ∀ (after : Seen) outcome, trail <:+ after → post after outcome) :
    Follows (gateway.rule request) (gateway.publishClusterQuery principal (queryStatus stored))
      trail post := by
  unfold publishClusterQuery
  split
  · exact done _ _ List.suffix_rfl
  next cluster joined =>
  have clustered : gateway.cluster.isSome = true := by rw [joined]; rfl
  refine Follows.perform ⟨clustered, principal, operation, called, rfl, .inl ⟨reference, stored,
    submitted, rfl⟩⟩ fun reply _ => Follows.bind_iff.mpr (Follows.lift_iff.mpr ?_)
  cases reply with
  | error _ => exact done _ _ ⟨[_], rfl⟩
  | ok lease =>
    refine Follows.bind_iff.mpr (putSharedQuery_follows (acts_of_call called) clustered
      (.claimed principal operation cluster.nodeId cluster.leaseTtl reference stored lease called
        (submitted.grow ⟨[_], rfl⟩) rfl Saw.newest) nofun fun after outcome idle => ?_)
    have grown : trail <:+ after := List.IsSuffix.trans ⟨[_], rfl⟩ idle.grown
    cases outcome with
    | error _ => exact done _ _ grown
    | ok =>
      refine Follows.perform_iff.mpr ⟨⟨operation, cluster.nodeId, cluster.leaseTtl, reference,
        stored, called, submitted.grow grown, rfl, Saw.newest.grow idle.grown, ?_⟩,
        fun _ _ => done _ _ (grown.trans ⟨[_], rfl⟩)⟩
      intro other queryId lease seen
      exact unpublished _ _ _ (by simpa [Saw] using idle.spawned _ seen)

/-- Refusing a record that failed. -/
theorem refuseFailed_follows {kind : ServiceErrorKind} {record : QueryRecord}
    (sound : record.data.error = none → post trail (.ok ()))
    (failed : ∀ error, post trail (.error error)) :
    Follows (gateway.rule request) (refuseFailed kind record) trail post := by
  unfold refuseFailed
  split
  · exact failed _
  · next none => exact sound none

theorem resultReaderRange_follows {skip : Nat} {remaining : Option Nat}
    (acts : request.principal = some principal)
    {post : Seen → Except ServiceError ResultBatchReader → Prop}
    (read : ∀ (after : Seen) reader, Quiet trail after →
      after.ReadsResult principal.id id skip remaining reader → post after (.ok reader))
    (failed : ∀ (after : Seen) error, Quiet trail after → post after (.error error)) :
    Follows (gateway.rule request) (gateway.resultReaderRange principal id skip remaining) trail
      post := by
  refine inspected_follows acts (fun first reference record two located => ?_)
    fun first one => failed _ _ one
  have refused : ∀ error, post _ (.error error) := fun error =>
    failed _ error two
  refine Follows.bind_iff.mpr (refuseFailed_follows (fun sound => ?_) refused)
  refine Follows.bind_iff.mpr (Follows.ensure_iff.mpr ⟨fun ended => ?_, fun _ => refused _⟩)
  have state : record.data.state = .completed ∨ record.data.state = .cancelled := by
    simpa using ended
  cases storage : record.data.storage with
  | memory batches =>
    exact read _ _ two ⟨reference, record, located, sound, state, rfl, rfl, .inl ⟨batches, storage,
      rfl, rfl⟩⟩
  | spill file writing =>
    cases writing with
    | true => exact refused _
    | false =>
      refine Follows.perform trivial fun reply _ => Follows.bind_iff.mpr (Follows.lift_iff.mpr ?_)
      have three := two.trans (Quiet.steps [⟨.host (.readFile file), reply⟩] rfl)
      have located : Located (⟨.host (.readFile file), reply⟩ :: first) principal.id id reference
        record := located.grow ⟨[_], rfl⟩
      cases reply with
      | error _ => exact failed _ _ three
      | ok entries =>
        exact read _ _ three ⟨reference, record, located, sound, state, rfl, rfl,
          .inr ⟨file, storage, rfl, Saw.newest⟩⟩

/-- Encoding what a reader gives. -/
theorem encodeReader_follows {reader : ResultBatchReader}
    {post : Seen → Except ServiceError (Option (IpcFile × Nat)) → Prop}
    (done : ∀ (after : Seen) encoded, trail <:+ after → post after (.ok encoded)) :
    Follows (gateway.rule request) (encodeReader reader) trail post := by
  unfold encodeReader
  split
  · exact done _ _ List.suffix_rfl
  · exact Follows.perform trivial fun encoded _ => done _ _ ⟨[_], rfl⟩

theorem retainedResult_follows (acts : request.principal = some principal)
    {post : Seen → Except ServiceError (Option (IpcFile × Nat)) → Prop}

    (done : ∀ (after : Seen) retained, trail <:+ after → (retained ≠ none → status.state =
      .completed) → post after (.ok retained)) :
    Follows (gateway.rule request) (gateway.retainedResult principal status id) trail post := by
  unfold retainedResult
  split
  · next completed =>
    have completed := beq_iff_eq.mp completed
    refine Follows.bind_iff.mpr (Follows.attempt_iff.mpr (resultReaderRange_follows acts ?_ ?_))
    · exact fun first reader one _ => encodeReader_follows fun after encoded grown =>
        done _ _ (one.grown.trans grown) fun _ => completed
    · exact fun first error one => done _ _ one.grown nofun
  · exact done _ _ List.suffix_rfl nofun

theorem publishEnded_follows {started : QueryLease} {polls : Nat}
    (task : request = .task (.publishQueryCompletion principal id started) polls)
    (clustered : gateway.cluster.isSome = true)
    (leased : request.Leases trail status.id lease.fencingToken)
    (presents : trail.Presents started lease) (done : ∀ after : Seen, post after (.ok ())) :
    Follows (gateway.rule request) (gateway.publishEnded principal id status lease) trail post := by
  have acts : request.principal = some principal := by
    subst task
    rfl
  refine Follows.bind_iff.mpr (retainedResult_follows acts
    fun first retained grown completed => ?_)
  have share : ∀ (after : Seen) (published : QueryStatus × Option String × Nat),
      trail <:+ after → published.1.id = status.id →
      (published.2.1 ≠ none → published.1.state = .completed) → Follows (gateway.rule request) (do
        let _ ← (putSharedQuery principal published.1 published.2.1 published.2.2 lease).attempt
        let _ ← Call.store (.releaseQuery lease)) after post := by
    intro after published later same keyed
    refine Follows.bind_iff.mpr (Follows.attempt_iff.mpr (putSharedQuery_follows acts clustered
      (same ▸ leased.grow later) keyed fun _ _ idle => ?_))
    exact Follows.perform ⟨clustered, .publisher principal id started polls lease task
      (presents.grow (later.trans idle.grown))⟩ fun _ _ => done _
  cases retained with
  | none => exact share _ (status, none, 0) grown rfl nofun
  | some pair =>
    obtain ⟨file, batches⟩ := pair
    refine Follows.bind_iff.mpr (Follows.perform trivial fun reply _ => ?_)
    cases reply with
    | ok => exact share _ _ (grown.trans ⟨[_], rfl⟩) rfl fun _ => completed nofun
    | error _ => exact share _ _ (grown.trans ⟨[_], rfl⟩) rfl nofun

/-- Publishing a query until it has ended, under the lease the publisher was started with. -/
theorem publishQueryCompletion_follows {cluster : ClusterContext} {polls : Nat}
    (task : request = .task (.publishQueryCompletion principal id lease) polls)
    (clustered : gateway.cluster.isSome = true) {post : Seen → Except ServiceError Answer → Prop}
    (done : ∀ (after : Seen) answer, post after (.ok answer)) (left : Nat) (held : QueryLease)
    (same : held.fencingToken = lease.fencingToken) (presents : trail.Presents lease held) :
    Follows (gateway.rule request) (gateway.publishQueryCompletion principal cluster id left held)
      trail post := by
  have acts : request.principal = some principal := by
    subst task
    rfl
  induction left generalizing trail held with
  | zero => exact done _ _
  | succ left step =>
    refine Follows.bind_iff.mpr (Follows.attempt_iff.mpr (query_follows acts ?_ ?_))
    · intro first reference record seen located
      have leased : request.Leases first (queryStatus record).id held.fencingToken :=
        same ▸ .published principal id lease polls reference record task located.1 located.2 rfl
      show Follows _ (if (queryStatus record).state.terminal = true then _ else _) _ _
      split
      · exact Follows.bind_iff.mpr (publishEnded_follows task clustered leased
          (presents.grow seen.grown) fun _ => done _ _)
      · refine Follows.bind_iff.mpr (Follows.attempt_iff.mpr (putSharedQuery_follows acts clustered
          leased nofun fun second _ idle => ?_))
        refine Follows.perform ⟨clustered, principal, id, lease, polls, task,
          presents.grow (seen.grown.trans idle.grown)⟩ fun reply possible => ?_
        cases reply with
        | error _ => exact done _ _
        | ok renewed =>
          exact step renewed ((possible renewed rfl).trans same) (.inr ⟨_, _, Saw.newest⟩)
    · exact fun _ _ => done _ _

theorem queryClustered_follows (acts : request.principal = some principal)
    {post : Seen → Except ServiceError QueryStatus → Prop}
    (located : ∀ (after : Seen) reference record, Quiet trail after →
      after.Located principal.id id reference record → post after (.ok (queryStatus record)))
    (shared : ∀ (after : Seen) found, Quiet trail after → gateway.cluster.isSome = true →
      after.ReadsShared principal.id id found → post after (.ok found.status))
    (failed : ∀ (after : Seen) error, post after (.error error)) :
    Follows (gateway.rule request) (gateway.queryClustered principal id) trail post := by
  refine Follows.bind_iff.mpr (Follows.attempt_iff.mpr (query_follows acts located ?_))
  intro first one
  refine Follows.bind_iff.mpr (Follows.ensure_iff.mpr ⟨fun clustered => ?_,
    fun _ => failed _ _⟩)
  refine Follows.perform ⟨clustered, principal, acts, rfl⟩ fun reply _ => ?_
  have two := one.trans (Quiet.steps
    [⟨.store (.getResource "query" id principal.id), reply⟩] rfl)
  refine Follows.found (fun resource present => ?_) (failed _)
  subst present
  refine Follows.bind_iff.mpr (Follows.lift_iff.mpr ?_)
  cases shape : resource.payload with
  | session _ => exact failed _ _
  | prepared _ => exact failed _ _
  | query found => exact shared _ found two clustered ⟨resource, Saw.newest, shape⟩

theorem recoverQueryClustered_follows
    (called : request = .call principal (.recoverQueryClustered id))
    {post : Seen → Except ServiceError QueryStatus → Prop}
    (recovered : ∀ (after : Seen) status, gateway.cluster.isSome = true → post after (.ok status))
    (failed : ∀ (after : Seen) error, post after (.error error)) :
    Follows (gateway.rule request) (gateway.recoverQueryClustered principal id) trail post := by
  refine Follows.bind_iff.mpr (Follows.okOr_iff.mpr ⟨fun cluster clustered => ?_,
    fun _ => failed _ _⟩)
  have joined : gateway.cluster.isSome = true := by rw [clustered]; rfl
  refine Follows.perform ⟨joined, principal, acts_of_call called, rfl⟩ fun reply possible => ?_
  refine Follows.found (fun resource present => ?_) (failed _)
  subst present
  obtain ⟨kind, rfl, _⟩ := possible resource rfl
  refine Follows.bind_iff.mpr (Follows.lift_iff.mpr ?_)
  cases shape : resource.payload with
  | session _ => exact failed _ _
  | prepared _ => exact failed _ _
  | query found =>
    show Follows _ (if found.status.state.terminal = true then _ else _) _ _
    split
    · exact recovered _ _ joined
    next running =>
    refine Follows.perform ⟨joined, principal, _, called, rfl, .inr rfl⟩ fun reply _ => ?_
    refine Follows.bind_iff.mpr (Follows.lift_iff.mpr ?_)
    cases reply with
    | error _ => exact failed _ _
    | ok lease =>
      refine Follows.bind_iff.mpr (Follows.perform trivial fun now _ => ?_)
      refine Follows.perform ⟨joined, .recoverQuery principal _ cluster.nodeId cluster.leaseTtl
        _ resource found _ lease called ?_ shape (by simpa using running)⟩ fun reply _ => ?_
      · exact ((List.nil_sublist trail).cons_cons _ |>.cons_cons _).cons _
      refine Follows.bind_iff.mpr (Follows.lift_iff.mpr ?_)
      cases reply with
      | error _ => exact failed _ _
      | ok stored =>
        refine Follows.perform ⟨joined, .recovery principal cluster.nodeId cluster.leaseTtl lease
          _ stored _ _ _ ?_ ?_ rfl kind rfl rfl⟩ fun _ _ => ?_
        · exact called
        · exact Saw.newest.grow ⟨[_, _], rfl⟩
        · exact recovered _ _ joined

end Gateway

end ConfluxQuery
