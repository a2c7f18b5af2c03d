import ConfluxQuery.Verif.QueryCalls

/-!
# Reading queries keeps to the protocol

One lemma for each program of `Service.Reads`.
-/

namespace ConfluxQuery

namespace Gateway

open Seen

variable {gateway : Gateway} {request : Request} {principal : AuthenticatedPrincipal}
  {operation : Operation} {trail : Seen} {id : String}

theorem cancel_follows (called : request = .call principal (.cancel id))
    {post : Seen → Except ServiceError QueryStatus → Prop}
    (located : ∀ (after : Seen) reference record,
      after.Located principal.id id reference record → post after (.ok (queryStatus record)))
    (refused : ∀ after : Seen, post after (.error queryNotFound)) :
    Follows (gateway.rule request) (gateway.cancel principal id) trail post := by
  have acts := acts_of_call called
  refine Follows.bind_iff.mpr (ownedRecord_follows acts (fun first reference _ found => ?_)
    fun _ _ => refused _)
  refine Follows.perform (.inr ⟨principal, acts, id, found⟩) fun _ _ => ?_
  refine Follows.perform (.inl ⟨principal, id, called, found.grow ⟨[_], rfl⟩, rfl, rfl⟩)
    fun _ _ => ?_
  refine Follows.perform (.inr ⟨principal, acts, id, found.grow ⟨[_, _], rfl⟩⟩) fun record _ => ?_
  exact located _ reference record ⟨found.grow ⟨[_, _, _], rfl⟩, Saw.newest⟩

/-- A page of a query's result. -/
theorem resultPage_follows {offset limit : Nat} (acts : request.principal = some principal)
    {post : Seen → Except ServiceError ResultPage → Prop}
    (read : ∀ (after : Seen) page, Quiet trail after →
      after.ReadsPage principal.id id offset limit page → post after (.ok page))
    (failed : ∀ (after : Seen) error, post after (.error error)) :
    Follows (gateway.rule request) (gateway.resultPage principal id offset limit) trail post := by
  refine inspected_follows acts (fun first reference record two located => ?_)
    fun _ _ => failed _ _
  refine Follows.bind_iff.mpr (Follows.ensure_iff.mpr ⟨fun closed => ?_, fun _ => failed _ _⟩)
  refine Follows.bind_iff.mpr (refuseFailed_follows (fun sound => ?_) fun _ => failed _ _)
  refine Follows.bind_iff.mpr (Follows.ensure_iff.mpr ⟨fun ended => ?_, fun _ => failed _ _⟩)
  refine Follows.bind_iff.mpr ?_
  unfold loadPage
  cases storage : record.data.storage with
  | memory batches =>
    exact read _ _ two ⟨reference, record, _, located, sound, ended, rfl, .inl ⟨batches, storage,
      rfl⟩⟩
  | spill file writing =>
    have done : writing = false := by
      rw [storage] at closed
      simpa [ResultStorage.writing] using closed
    subst done
    refine Follows.perform trivial fun reply _ => Follows.bind_iff.mpr (Follows.lift_iff.mpr ?_)
    have three := two.trans (Quiet.steps [⟨.host (.readFile file), reply⟩] rfl)
    have located : Located (⟨.host (.readFile file), reply⟩ :: first) principal.id id reference
      record := located.grow ⟨[_], rfl⟩
    cases reply with
    | error _ => exact failed _ _
    | ok entries =>
      refine Follows.lift_iff.mpr ?_
      cases loaded : loadFrom (pageBounds record.data.rows offset limit).1
          (pageBounds record.data.rows offset limit).2 0 entries with
      | error _ => exact failed _ _
      | ok batches =>
        exact read _ _ three ⟨reference, record, batches, located, sound, ended, rfl,
          .inr ⟨file, entries, storage, Saw.newest, loaded⟩⟩

theorem resultBatchCount_follows (acts : request.principal = some principal)
    {post : Seen → Except ServiceError Nat → Prop}
    (counted : ∀ (after : Seen) reference record count, Quiet trail after →
      after.Located principal.id id reference record →
      (Answer.batchCount count).Shows after.Saw record → post after (.ok count))
    (failed : ∀ (after : Seen) error, post after (.error error)) :
    Follows (gateway.rule request) (gateway.resultBatchCount principal id) trail post := by
  refine inspected_follows acts (fun first reference record two located => ?_)
    fun _ _ => failed _ _
  refine Follows.bind_iff.mpr (Follows.ensure_iff.mpr ⟨fun _ => ?_, fun _ => failed _ _⟩)
  cases stored : record.data.storage with
  | memory batches =>
    exact counted _ reference record _ two located
      ⟨batches.map .ok, .inl ⟨batches, stored, rfl⟩, by simp⟩
  | spill file writing =>
    cases writing with
    | true => exact failed _ _
    | false =>
      refine Follows.perform trivial fun reply _ => Follows.bind_iff.mpr (Follows.lift_iff.mpr ?_)
      have three := two.trans (Quiet.steps [⟨.host (.readFile file), reply⟩] rfl)
      cases reply with
      | error _ => exact failed _ _
      | ok entries =>
        exact counted _ reference record _ three (located.grow ⟨[_], rfl⟩)
          ⟨entries, .inr ⟨file, stored, Saw.newest⟩, rfl⟩

variable {post : Seen → Except ServiceError ResultBatchReader → Prop}

theorem resultPartitionReader_follows {partition partitions : Nat}
    (acts : request.principal = some principal)
    (read : ∀ (after : Seen) skip remaining reader, Quiet trail after →
      after.ReadsResult principal.id id skip remaining reader → post after (.ok reader))
    (failed : ∀ (after : Seen) error, post after (.error error)) :
    Follows (gateway.rule request)
      (gateway.resultPartitionReader principal id partition partitions) trail post := by
  refine Follows.bind_iff.mpr (Follows.ensure_iff.mpr ⟨fun _ => ?_, fun _ => failed _ _⟩)
  refine Follows.bind_iff.mpr (resultBatchCount_follows acts
    (fun first reference record count one located _ => ?_) failed)
  exact resultReaderRange_follows acts
    (fun second reader two => read _ _ _ reader (one.trans two)) fun _ _ _ => failed _ _

/-- A query as the cluster shares it. -/
theorem sharedQuery_follows (acts : request.principal = some principal)
    {post : Seen → Except ServiceError SharedQuery → Prop}
    (found : ∀ (after : Seen) shared, Quiet trail after → gateway.cluster.isSome = true →
      after.ReadsShared principal.id id shared → post after (.ok shared))
    (failed : ∀ (after : Seen) error, post after (.error error)) :
    Follows (gateway.rule request) (gateway.sharedQuery principal id) trail post := by
  refine Follows.bind_iff.mpr (Follows.ensure_iff.mpr ⟨fun clustered => ?_,
    fun _ => failed _ _⟩)
  refine Follows.perform ⟨clustered, principal, acts, rfl⟩ fun reply _ => ?_
  have one : Quiet trail (⟨.store (.getResource "query" id principal.id), reply⟩ :: trail) :=
    Quiet.steps [_] rfl
  refine Follows.found (fun resource present => ?_) (failed _)
  subst present
  refine Follows.lift_iff.mpr ?_
  cases shape : resource.payload with
  | session _ => exact failed _ _
  | prepared _ => exact failed _ _
  | query shared => exact found _ shared one clustered ⟨resource, Saw.newest, shape⟩

/-- Opening a shared result. -/
theorem openShared_follows {missing : ServiceError} {key : String}
    {post : Seen → Except ServiceError (Schema × FileReader) → Prop}
    (opened : ∀ (after : Seen) file entries, Quiet trail after →
      after.Saw (.objects (.get key)) (.ok (some file)) → post after (.ok (file.schema, entries)))
    (failed : ∀ (after : Seen) error, post after (.error error)) :
    Follows (gateway.rule request) (openShared missing key) trail post := by
  refine Follows.perform trivial fun reply _ =>
    Follows.found (fun file present => ?_) (failed _)
  subst present
  refine Follows.perform trivial fun read _ => ?_
  refine Follows.bind_iff.mpr (Follows.lift_iff.mpr ?_)
  cases read with
  | error _ => exact failed _ _
  | ok entries =>
    exact opened _ file entries (Quiet.steps [_, _] rfl) (Saw.newest.grow ⟨[_], rfl⟩)

theorem resultReaderClustered_follows (acts : request.principal = some principal)
    (read : ∀ (after : Seen) reader, Quiet trail after →
      (after.ReadsResult principal.id id 0 none reader ∨
        (gateway.cluster.isSome = true ∧ after.OpensShared principal.id id reader)) →
      post after (.ok reader))
    (failed : ∀ (after : Seen) error, post after (.error error)) :
    Follows (gateway.rule request) (gateway.resultReaderClustered principal id) trail post := by
  refine Follows.bind_iff.mpr (Follows.attempt_iff.mpr (resultReaderRange_follows acts ?_ ?_))
  · exact fun first reader one reads => read _ reader one (.inl reads)
  intro first _ one
  refine Follows.bind_iff.mpr (sharedQuery_follows acts
    (fun second shared two clustered reads => ?_) failed)
  refine Follows.bind_iff.mpr (Follows.ensure_iff.mpr ⟨fun _ => ?_,
    fun _ => failed _ _⟩)
  refine Follows.bind_iff.mpr (Follows.okOr_iff.mpr ⟨fun key keyed => ?_,
    fun _ => failed _ _⟩)
  refine Follows.bind_iff.mpr (openShared_follows (fun third file entries three got => ?_) failed)
  exact read _ _ ((one.trans two).trans three) (.inr ⟨clustered, shared, key, file,
    reads.grow three.grown, keyed, got, rfl⟩)

theorem resultPageClustered_follows {offset limit : Nat} (acts : request.principal = some principal)
    {post : Seen → Except ServiceError ResultPage → Prop}
    (read : ∀ (after : Seen) page,
      ((∃ reference record, after.Located principal.id id reference record ∧
          (Answer.page page).Shows after.Saw record) ∨
        gateway.cluster.isSome = true) →
      post after (.ok page))
    (failed : ∀ (after : Seen) error, post after (.error error)) :
    Follows (gateway.rule request) (gateway.resultPageClustered principal id offset limit) trail
      post := by
  refine Follows.bind_iff.mpr (Follows.attempt_iff.mpr (resultPage_follows acts ?_ ?_))
  · exact fun first page _ reads => read _ page (.inl reads.shows)
  intro first _
  have fetch : ∀ (second : Seen) (status : QueryStatus),
      ((∃ reference counted, second.Saw (.records (.inspect reference)) counted ∧
        status.rows = counted.data.rows) ∨ gateway.cluster.isSome = true) →
          Follows (gateway.rule request) (do
      let reader ← gateway.resultReaderClustered principal id
      let batches ← Prog.lift reader.readAll
      let bounds := pageBounds status.rows offset limit
      return pageOf status.rows bounds.2 (sliceBatches batches bounds.1 bounds.2)) second post := by
    intro second status counts
    refine Follows.bind_iff.mpr (resultReaderClustered_follows acts
      (fun third reader quiet opens => ?_) failed)
    refine Follows.bind_iff.mpr (Follows.lift_iff.mpr ?_)
    cases all : reader.readAll with
    | error error => exact failed _ error
    | ok batches =>
      refine read _ _ ?_
      rcases opens with reads | ⟨clustered, -⟩
      · rcases counts with ⟨counter, counted, saw, same⟩ | clustered
        · obtain ⟨reference, record, located, retains⟩ := reads.shows
          obtain ⟨source, entries, skip, remaining⟩ := reader
          obtain ⟨-, -, -, -, -, rfl, rfl, -⟩ := reads
          rw [same]
          exact .inl ⟨reference, record, located, counter, counted, offset, limit, _, _,
            saw.grow quiet.grown, rfl, retains, .inr (.inr ⟨source, batches, all, rfl⟩)⟩
        · exact .inr clustered
      · exact .inr clustered
  exact Follows.bind_iff.mpr (queryClustered_follows acts
    (fun second reference record _ located =>
      fetch second _ (.inl ⟨reference, record, located.2, rfl⟩))
    (fun second _ _ clustered _ => fetch second _ (.inr clustered)) failed)

theorem resultPartitionReaderClustered_follows {partition partitions : Nat}
    (acts : request.principal = some principal)
    (read : ∀ (after : Seen) reader, after.Opens gateway principal.id id reader →
      post after (.ok reader))
    (failed : ∀ (after : Seen) error, post after (.error error)) :
    Follows (gateway.rule request)
      (gateway.resultPartitionReaderClustered principal id partition partitions) trail post := by
  refine Follows.bind_iff.mpr (Follows.attempt_iff.mpr (resultPartitionReader_follows acts ?_ ?_))
  · exact fun first skip remaining reader one reads => read _ reader (.inl ⟨skip, remaining, reads⟩)
  intro first _
  refine Follows.bind_iff.mpr (Follows.ensure_iff.mpr ⟨fun _ => ?_, fun _ => failed _ _⟩)
  refine Follows.bind_iff.mpr (sharedQuery_follows acts
    (fun second shared two clustered reads => ?_) failed)
  refine Follows.bind_iff.mpr (Follows.okOr_iff.mpr ⟨fun key keyed => ?_, fun _ => failed _ _⟩)
  refine Follows.bind_iff.mpr (openShared_follows (fun third file entries three got => ?_) failed)
  exact read _ _ (.inr ⟨clustered, shared, key, file, reads.grow three.grown, keyed, got, rfl⟩)

/-- The schema of a query's result. -/
theorem querySchema_follows (acts : request.principal = some principal)
    {post : Seen → Except ServiceError Schema → Prop}
    (read : ∀ (after : Seen) schema, after.ReadsSchema principal.id id schema →
      post after (.ok schema))
    (failed : ∀ (after : Seen) error, post after (.error error)) :
    Follows (gateway.rule request) (gateway.querySchema principal id) trail post := by
  refine inspected_follows acts (fun first reference record _ located => ?_)
    fun _ _ => failed _ _
  refine Follows.bind_iff.mpr (refuseFailed_follows (fun sound => ?_) fun _ => failed _ _)
  cases known : record.data.schema with
  | some schema =>
    exact read _ schema ⟨reference, record, located, sound, .inl (by rw [known]; rfl),
      by rw [known]; rfl⟩
  | none =>
    refine Follows.bind_iff.mpr (Follows.ensure_iff.mpr ⟨fun ended => ?_, fun _ => failed _ _⟩)
    exact read _ _ ⟨reference, record, located, sound, .inr ended, by rw [known]; rfl⟩

/-- The events of a query. -/
theorem eventHistory_follows {after : Nat} (acts : request.principal = some principal)
    {post : Seen → Except ServiceError (List ServiceEvent) → Prop}
    (read : ∀ (later : Seen) reference record events,
      later.Located principal.id id reference record →
      (Answer.events events).Shows later.Saw record → post later (.ok events))
    (refused : ∀ later : Seen, post later (.error queryNotFound)) :
    Follows (gateway.rule request) (gateway.eventHistory principal id after) trail post :=
  inspected_follows acts
    (fun _ reference record _ found => read _ reference record _ found ⟨after, rfl⟩)
    fun _ _ => refused _

end Gateway

end ConfluxQuery
