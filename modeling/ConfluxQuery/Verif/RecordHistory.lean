import ConfluxQuery.Verif.Runs

/-!
# Records over a whole run

A query record is created once and never moves: every later section keeps its identity and changes
its data in one place, or not at all. Each reference is handed out by one insertion and filled by at
most one collector, which the submitting call starts.
-/

namespace ConfluxQuery

/-- What a section does to the data of the record of a reference. -/
def RecordOp.alter (now : Nat) (io : FileIo) (reference : Nat) (op : RecordOp)
    (data : QueryData) : QueryData :=
  match op with
  | pushEvent other event terminal =>
    if other = reference then ConfluxQuery.pushEvent now event terminal data else data
  | setEngineQueryId other id =>
    if other = reference then { data with engineQueryId := some id } else data
  | collectBatch limits other batch =>
    if other = reference then (ConfluxQuery.collectBatch limits io batch data).2 else data
  | finishResults other =>
    if other = reference then (ConfluxQuery.finishResults io data).2 else data
  | setError other error => if other = reference then { data with error := some error } else data
  | setErrorIfNone other error =>
    if other = reference then { data with error := data.error.or (some error) } else data
  | _ => data

/-- A change of the data at one reference, read back at any reference. -/
theorem Records.get_modifyData (records : Records) (other reference : Nat)
    (change : QueryData → QueryData) {record : QueryRecord}
    (found : records.get reference = some record) :
    (records.modifyData other change).get reference = some { record with
      data := if other = reference then change record.data else record.data } := by
  simp only [Records.get] at found
  simp only [Records.get, Records.modifyData, Records.modify, List.getElem?_modify, found]
  by_cases same : other = reference <;> simp [same]

/-- A section keeps every record, its identity, a cancellation that was requested and, but for the
record it is about, its data. -/
theorem RecordOp.apply_get_cancelled (now : Nat) (io : FileIo) (records : Records) (op : RecordOp)
    {reference : Nat} {record : QueryRecord} (found : records.get reference = some record) :
    ∃ cancelled, (record.cancelled = true → cancelled = true) ∧
      (op.apply now io records).2.get reference = some { record with
        cancelled := cancelled, data := op.alter now io reference record.data } := by
  cases op with
  | len | countActive | activeQueryCount | findOwned | retainUnexpired | inspect =>
    exact ⟨record.cancelled, id, found⟩
  | insert added =>
    have bound : reference < records.heap.length := (List.getElem?_eq_some_iff.mp found).1
    refine ⟨record.cancelled, id, ?_⟩
    show (records.heap ++ [added])[reference]? = _
    rw [List.getElem?_append_left bound]
    exact found
  | cancelSession id =>
    simp only [Records.get] at found
    simp only [RecordOp.apply, Records.get, Records.cancelWhere, List.getElem?_mapIdx, found,
      Option.map_some]
    split
    · exact ⟨true, fun _ => rfl, rfl⟩
    · exact ⟨record.cancelled, fun yes => yes, rfl⟩
  | cancelActive =>
    simp only [Records.get] at found
    simp only [RecordOp.apply, Records.get, Records.cancelWhere, List.getElem?_mapIdx, found,
      Option.map_some]
    split
    · exact ⟨true, fun _ => rfl, rfl⟩
    · exact ⟨record.cancelled, id, rfl⟩
  | cancel other =>
    simp only [Records.get] at found
    simp only [RecordOp.apply, Records.get, Records.modify, List.getElem?_modify, found]
    by_cases same : other = reference
    · exact ⟨true, fun _ => rfl, by simp [same, RecordOp.alter]⟩
    · exact ⟨record.cancelled, id, by simp [same, RecordOp.alter]⟩
  | pushEvent other | setEngineQueryId other | collectBatch _ other | finishResults other
  | setError other | setErrorIfNone other =>
    exact ⟨record.cancelled, id, records.get_modifyData other reference _ found⟩

/-- A section keeps every record, its identity and, but for the record it is about, its data. -/
theorem RecordOp.apply_get (now : Nat) (io : FileIo) (records : Records) (op : RecordOp)
    {reference : Nat} {record : QueryRecord} (found : records.get reference = some record) :
    ∃ cancelled, (op.apply now io records).2.get reference =
      some { record with
        cancelled := cancelled, data := op.alter now io reference record.data } := by
  obtain ⟨cancelled, _, kept⟩ := op.apply_get_cancelled now io records found
  exact ⟨cancelled, kept⟩

/-- Only an insertion adds a record, and it replies with the new reference. -/
theorem RecordOp.apply_fresh (now : Nat) (io : FileIo) (records : Records) (op : RecordOp)
    {reference : Nat} {record : QueryRecord} (fresh : records.get reference = none)
    (found : (op.apply now io records).2.get reference = some record) :
    ∃ added, op = .insert added ∧ record = added ∧ reference = records.heap.length := by
  have absent : records.heap.length ≤ reference := List.getElem?_eq_none_iff.mp fresh
  have bound : reference < (op.apply now io records).2.heap.length :=
    (List.getElem?_eq_some_iff.mp found).1
  cases op with
  | insert added =>
    have last : reference = records.heap.length := by
      simp only [RecordOp.apply, Records.insert, List.length_append, List.length_singleton] at bound
      omega
    subst last
    simp only [RecordOp.apply, Records.get, Records.insert, List.getElem?_concat_length,
      Option.some.injEq] at found
    exact ⟨added, rfl, found.symm, rfl⟩
  | len | countActive | activeQueryCount | findOwned | retainUnexpired | inspect =>
    exact absurd bound (Nat.not_lt.mpr absent)
  | cancelSession | cancelActive =>
    simp only [RecordOp.apply, Records.cancelWhere, List.length_mapIdx] at bound
    exact absurd bound (Nat.not_lt.mpr absent)
  | cancel | pushEvent | setEngineQueryId | collectBatch | finishResults | setError
  | setErrorIfNone =>
    simp only [RecordOp.apply, Records.modifyData, Records.modify, List.length_modify] at bound
    exact absurd bound (Nat.not_lt.mpr absent)

/-- What a registry lists after a section it has listed before, or it is the record inserted. -/
theorem RecordOp.apply_lists {now : Nat} {io : FileIo} {records : Records} {op : RecordOp}
    {id : String} {reference : Nat}
    (present : (op.apply now io records).2.listed.lookup id = some reference) :
    records.listed.lookup id = some reference ∨
      ∃ record, op = .insert record ∧ reference = records.heap.length := by
  cases op with
  | insert added =>
    rw [RecordOp.apply, Records.insert, Registry.lookup_insert_ite] at present
    split at present
    · exact .inr ⟨added, rfl, (Option.some.inj present).symm⟩
    · exact .inl present
  | retainUnexpired now ttl =>
    rw [RecordOp.apply, Records.retain, Registry.lookup_retain] at present
    exact .inl (Option.filter_eq_some_iff.mp present).1
  | len | countActive | activeQueryCount | findOwned | inspect | cancelSession | cancelActive
  | cancel | pushEvent | setEngineQueryId | collectBatch | finishResults | setError
  | setErrorIfNone => exact .inl present

/-- The listed record of an identifier. -/
def Records.find (records : Records) (id : String) : Option QueryRecord :=
  (records.listed.lookup id).bind records.get

/-- A retained registry finds the records that pass the test. -/
theorem Records.find_retain (records : Records) (test : QueryRecord → Bool) (id : String) :
    (records.retain test).find id = (records.find id).filter test := by
  simp only [Records.find, Records.retain, Registry.lookup_retain]
  cases records.listed.lookup id with
  | none => rfl
  | some reference =>
    change ((some reference).filter (records.satisfies test)).bind records.get =
      (records.get reference).filter test
    cases found : records.get reference with
    | none => simp [Option.filter, Records.satisfies, found]
    | some record =>
      cases passed : test record <;> simp [Option.filter, Records.satisfies, found, passed]

/-- A registry lists records under their own identifiers. -/
def Records.Listed (records : Records) : Prop :=
  ∀ id reference, records.listed.lookup id = some reference →
    ∃ record, records.get reference = some record ∧ record.id = id

/-- Every section keeps records listed under their own identifiers. -/
theorem RecordOp.apply_listed (now : Nat) (io : FileIo) {records : Records} (op : RecordOp)
    (listed : records.Listed) : (op.apply now io records).2.Listed := by
  intro id reference present
  have kept : ∀ {reference}, records.listed.lookup id = some reference →
      ∃ record, (op.apply now io records).2.get reference = some record ∧ record.id = id := by
    intro reference present
    obtain ⟨record, found, named⟩ := listed id reference present
    obtain ⟨cancelled, after⟩ := op.apply_get now io records found
    exact ⟨_, after, named⟩
  cases op with
  | insert added =>
    rw [RecordOp.apply, Records.insert, Registry.lookup_insert_ite] at present
    split at present
    · next same =>
      cases present
      exact ⟨added, List.getElem?_concat_length, same.symm⟩
    · exact kept present
  | retainUnexpired now ttl =>
    rw [RecordOp.apply, Records.retain, Registry.lookup_retain] at present
    exact kept (Option.filter_eq_some_iff.mp present).1
  | len | countActive | activeQueryCount | findOwned | inspect | cancelSession | cancelActive
  | cancel | pushEvent | setEngineQueryId | collectBatch | finishResults | setError
  | setErrorIfNone => exact kept present

variable {S : Type}

/-- The record of a reference at a process. -/
def World.record (world : World S) (place reference : Nat) : Option QueryRecord :=
  (world.nodes place).records.get reference

/-- What an operation does to the data of the record of a reference at its own process. -/
def Op.alter (reading : Reading) (reference : Nat) (op : Op) (data : QueryData) : QueryData :=
  match op with
  | .records op => op.alter reading.now reading.io reference data
  | _ => data

section

variable [ClusterStateStore S Payload] {place node reference : Nat} {reading : Reading} {op : Op}
  {world : World S} {outcome : Outcome gatewayOps (World S) Request op} {record : QueryRecord}

/-- An operation keeps every record, its identity and, but for the record it is about, its data. -/
theorem handle_record (handled : handle place reading op world = some outcome)
    (found : world.record node reference = some record) :
    ∃ cancelled, outcome.world.record node reference = some { record with
      cancelled := cancelled
      data := if node = place then op.alter reading reference record.data else record.data } := by
  by_cases here : node = place
  · subst here
    cases op with
    | records op =>
      obtain ⟨cancelled, same⟩ := op.apply_get reading.now reading.io _ found
      refine ⟨cancelled, ?_⟩
      simp only [World.record, (handle_records handled).2, same, Op.alter, if_true]
    | sessions | owners | prepared | store | objects | adapter | host =>
      refine ⟨record.cancelled, ?_⟩
      simp only [World.record, (handle_framed handled).records (by simp), Op.alter, if_true]
      exact found
  · refine ⟨record.cancelled, ?_⟩
    simp only [World.record, (handle_framed handled).nodes node here, here, if_false]
    exact found

/-- What the collector is told of closing is what closing the record's result gives. -/
theorem handle_finishResults
    {outcome : Outcome gatewayOps (World S) Request (.records (.finishResults reference))}
    (handled : handle place reading (.records (.finishResults reference)) world = some outcome)
    (found : world.record place reference = some record) :
    outcome.reply = (finishResults reading.io record.data).1 := by
  unfold World.record at found
  rw [(handle_records handled).1]
  simp only [RecordOp.apply, found]

/-- A record's cancellation has been requested. -/
def World.cancelled (world : World S) (place reference : Nat) : Bool :=
  (world.record place reference).any QueryRecord.cancelled

/-- A cancellation that was requested stays requested. -/
theorem handle_cancelled (handled : handle place reading op world = some outcome)
    (cancelled : world.cancelled node reference = true) :
    outcome.world.cancelled node reference = true := by
  obtain ⟨record, found, set⟩ := (Option.any_eq_true _ _).mp cancelled
  refine (Option.any_eq_true _ _).mpr ?_
  by_cases here : node = place
  · subst here
    cases op with
    | records op =>
      obtain ⟨after, keeps, same⟩ := op.apply_get_cancelled reading.now reading.io _ found
      exact ⟨_, by rw [World.record, (handle_records handled).2, same], keeps set⟩
    | sessions | owners | prepared | store | objects | adapter | host =>
      exact ⟨record, by
        rw [World.record, (handle_framed handled).records (by simp)]
        exact found, set⟩
  · exact ⟨record, by
      rw [World.record, (handle_framed handled).nodes node here]
      exact found, set⟩

/-- A record appears with an insertion at its process, which replies with its reference. -/
theorem handle_fresh (handled : handle place reading op world = some outcome)
    (fresh : world.record node reference = none)
    (found : outcome.world.record node reference = some record) :
    node = place ∧ (⟨op, outcome.reply⟩ : Σ act : gatewayOps.Op, gatewayOps.Reply act) =
      ⟨.records (.insert record), reference⟩ := by
  have here : node = place := by
    by_contra elsewhere
    rw [World.record, (handle_framed handled).nodes node elsewhere] at found
    rw [World.record, found] at fresh
    cases fresh
  subst here
  cases op with
  | records op =>
    rw [World.record, (handle_records handled).2] at found
    obtain ⟨added, rfl, rfl, rfl⟩ := op.apply_fresh _ _ _ fresh found
    rw [(handle_records handled).1]
    exact ⟨rfl, rfl⟩
  | sessions | owners | prepared | store | objects | adapter | host =>
    rw [World.record, (handle_framed handled).records (by simp)] at found
    rw [World.record, found] at fresh
    cases fresh

/-- Every operation keeps records listed under their own identifiers. -/
theorem handle_listed (handled : handle place reading op world = some outcome)
    (listed : (world.nodes node).records.Listed) : (outcome.world.nodes node).records.Listed := by
  rcases handle_records_cases handled node with same | ⟨sub, _, _, after⟩
  · exact same ▸ listed
  · rw [after]
    exact sub.apply_listed _ _ listed

/-- An insertion replies with a reference that had no record and now has the one inserted. -/
theorem handle_insert {outcome : Outcome gatewayOps (World S) Request (.records (.insert record))}
    (handled : handle place reading (.records (.insert record)) world = some outcome) :
    world.record place outcome.reply = none ∧
      outcome.world.record place outcome.reply = some record := by
  obtain ⟨replied, after⟩ := handle_records handled
  rw [replied, World.record, World.record, after]
  exact ⟨List.getElem?_eq_none (Nat.le_refl _), List.getElem?_concat_length⟩

end

section

variable [ClusterStateStore S Payload] {gateways : Nat → Gateway} {guard : Guard S}
  {world₀ world : World S} {past : Past S}

variable {actor collector : Caller} {reference : Nat}

/-- A record appears with an insertion at its process, and as it was submitted. -/
theorem handle_submitted {act : Op} {input : Reading}
    {outcome : Outcome gatewayOps (World S) Request act} {place : Nat} {record : QueryRecord}
    (allowed : act.Allowed (gateways actor.place) actor.request (trailOf actor.thread past))
    (handled : handle actor.place input act world = some outcome)
    (fresh : world.record place reference = none)
    (found : outcome.world.record place reference = some record) :
    place = actor.place ∧ act = .records (.insert record) ∧ record.data = .submitted := by
  obtain ⟨here, inserted⟩ := handle_fresh handled fresh found
  have added : act = .records (.insert record) := congrArg Sigma.fst inserted
  subst added
  obtain ⟨_, _, _, _, _, _, _, _, shape⟩ := allowed
  exact ⟨here, rfl, by rw [shape]⟩

/-- What holds of a submitted query and is kept by every section holds of every record. -/
theorem records_satisfy {store : S} (holds : QueryData → Prop) (submitted : holds .submitted)
    (kept : ∀ now io reference (op : RecordOp) data, holds data →
      holds (op.alter now io reference data))
    (history : GatewayHistory gateways guard (World.initial store) world past) {place : Nat}
    {record : QueryRecord} (found : world.record place reference = some record) :
    holds record.data := by
  induction history generalizing record with
  | initial => cases found
  | arrives _ _ _ _ _ step => exact step found
  | returns _ _ _ _ _ _ _ step => exact step found
  | @performs before past actor act input outcome held known _ allowed handled met step =>
    have handled : handle actor.place input act before = some outcome := handled
    cases old : before.record place reference with
    | none =>
      obtain ⟨-, -, same⟩ := handle_submitted allowed handled old found
      exact same ▸ submitted
    | some earlier =>
      obtain ⟨cancelled, after⟩ := handle_record handled old
      rw [after, Option.some.injEq] at found
      subst found
      simp only
      split
      · cases act with
        | records op => exact kept _ _ _ op _ (step old)
        | sessions | owners | prepared | store | objects | adapter | host => exact step old
      · exact step old

/-- A record that was inserted is there for good, under its reference and with its identity. -/
theorem inserted_record (history : GatewayHistory gateways guard world₀ world past)
    {record : QueryRecord} (inserted : Done past actor (.records (.insert record)) reference) :
    ∃ cancelled data, world.record actor.place reference =
      some { record with cancelled := cancelled, data := data } := by
  induction history with
  | initial => exact absurd inserted (by simp [Done])
  | arrives _ _ _ _ _ step => exact step (done_enter.mp inserted)
  | returns _ _ _ _ _ _ _ step => exact step (done_returned.mp inserted)
  | performs _ _ _ outcome _ _ _ _ handled _ step =>
    rcases done_did.mp inserted with ⟨rfl, same⟩ | earlier
    · cases same
      exact ⟨_, _, (handle_insert handled).2⟩
    · obtain ⟨cancelled, data, found⟩ := step earlier
      obtain ⟨cancelled, kept⟩ := handle_record handled found
      exact ⟨_, _, kept⟩

omit [ClusterStateStore S Payload] in
theorem initial_listed (store : S) (place : Nat) :
    ((World.initial store).nodes place).records.Listed := fun _ _ present => by cases present

/-- Gateways that start empty list records under their own identifiers. -/
theorem records_listed {store : S}
    (history : GatewayHistory gateways guard (World.initial store) world past) (place : Nat) :
    (world.nodes place).records.Listed := by
  induction history with
  | initial => exact initial_listed store place
  | arrives _ _ _ _ _ step => exact step
  | returns _ _ _ _ _ _ _ step => exact step
  | performs _ _ _ _ _ _ _ _ handled _ step => exact handle_listed handled step

/-- A record that was found for a principal has the identifier looked for and that owner. -/
theorem found_record {store : S}
    (history : GatewayHistory gateways guard (World.initial store) world past)
    {principal id : String}
    (found : Done past actor (.records (.findOwned principal id)) (some reference)) :
    ∃ record, world.record actor.place reference = some record ∧ record.id = id ∧
      record.owner = principal := by
  induction history with
  | initial => exact absurd found (by simp [Done])
  | arrives _ _ _ _ _ step => exact step (done_enter.mp found)
  | returns _ _ _ _ _ _ _ step => exact step (done_returned.mp found)
  | @performs before past doing act input outcome held _ _ _ handled _ step =>
    have handled : handle doing.place input act before = some outcome := handled
    have earlier : ∃ record, before.record actor.place reference = some record ∧
        record.id = id ∧ record.owner = principal := by
      rcases done_did.mp found with ⟨rfl, same⟩ | earlier
      · obtain ⟨rfl, answer⟩ := Sigma.mk.inj_iff.mp same
        have replied := (eq_of_heq answer).trans (handle_records handled).1
        obtain ⟨present, owned⟩ := Option.filter_eq_some_iff.mp replied.symm
        obtain ⟨record, here, named⟩ := records_listed held actor.place id reference present
        simp only [Records.satisfies, here, Option.any_some, beq_iff_eq] at owned
        exact ⟨record, here, named, owned⟩
      · exact step earlier
    obtain ⟨record, here, named, owned⟩ := earlier
    obtain ⟨cancelled, kept⟩ := handle_record handled here
    exact ⟨_, kept, named, owned⟩

/-- A reference of a process is handed out by one insertion. -/
theorem insert_unique (history : GatewayHistory gateways guard world₀ world past)
    {first second : Caller} {one other : QueryRecord} (together : first.place = second.place)
    (inserted : Done past first (.records (.insert one)) reference)
    (again : Done past second (.records (.insert other)) reference) :
    first = second ∧ one = other := by
  induction history with
  | initial => exact absurd inserted (by simp [Done])
  | arrives _ _ _ _ _ step => exact step (done_enter.mp inserted) (done_enter.mp again)
  | returns _ _ _ _ _ _ _ step => exact step (done_returned.mp inserted) (done_returned.mp again)
  | performs actor _ _ outcome held _ _ _ handled _ step =>
    rcases done_did.mp inserted with ⟨rfl, same⟩ | earlier <;>
      rcases done_did.mp again with ⟨rfl, same'⟩ | earlier'
    · cases same
      cases same'
      exact ⟨rfl, rfl⟩
    · cases same
      obtain ⟨_, _, present⟩ := inserted_record held earlier'
      have absent := (handle_insert handled).1
      rw [together, present] at absent
      cases absent
    · cases same'
      obtain ⟨_, _, present⟩ := inserted_record held earlier
      have absent := (handle_insert handled).1
      rw [← together, present] at absent
      cases absent
    · exact step earlier earlier'

/-- A collector is started by the call that inserted its record, with the identity of the record's
session and with what the adapter was found to send. -/
structure SpawnedBy (past : Past S) (spawner collector : Caller) (collection : Collection) :
    Prop where
  place : spawner.place = collector.place
  /-- The record was inserted by the spawner. -/
  inserted : ∃ record, Done past spawner (.records (.insert record)) collection.reference ∧
    record.sessionId = collection.sessionId ∧ record.sessionVersion = collection.sessionVersion
  /-- The run is the adapter's reply. -/
  executed : ∃ sent parameters,
    Done past spawner (.adapter (.execute sent parameters)) collection.run
  /-- The spawner asked for the collector. -/
  asked : Done past spawner (.host (.spawn (.collectQuery collection.reference
    collection.sessionId collection.sessionVersion collection.run collection.closeSession))) ()

omit [ClusterStateStore S Payload] in
theorem SpawnedBy.grow {more : Past S} {spawner : Caller} {collection : Collection}
    (spawned : SpawnedBy past spawner collector collection)

    (grown : ∀ {act : Op} {reply : act.Reply}, Done past spawner act reply →
      Done more spawner act reply) :
    SpawnedBy more spawner collector collection where
  place := spawned.place
  inserted := by
    obtain ⟨record, inserted, named⟩ := spawned.inserted
    exact ⟨record, grown inserted, named⟩
  executed := by
    obtain ⟨sent, parameters, executed⟩ := spawned.executed
    exact ⟨sent, parameters, grown executed⟩
  asked := grown spawned.asked

/-- Every collector was started by the call that inserted its record. -/
theorem collector_spawned (history : GatewayHistory gateways guard world₀ world past)
    {collection : Collection} (started : .started collector ∈ past)
    (collects : collector.request.collection = some collection) :
    ∃ spawner, .started spawner ∈ past ∧ SpawnedBy past spawner collector collection := by
  induction history with
  | initial => exact absurd started List.not_mem_nil
  | arrives place request _ client _ step =>
    rcases List.mem_cons.mp started with head | tail
    · cases head
      cases request with
      | task => cases client
      | call | beginShutdown | cleanupExpired => cases collects
    · obtain ⟨spawner, known, spawned⟩ := step tail
      exact ⟨spawner, List.mem_cons_of_mem _ known, spawned.grow done_enter.mpr⟩
  | returns _ _ _ _ _ _ _ step =>
    obtain ⟨spawner, known, spawned⟩ := step (by simpa using started)
    exact ⟨spawner, List.mem_cons_of_mem _ known, spawned.grow done_returned.mpr⟩
  | performs actor act _ outcome held known _ allowed handled _ step =>
    rcases mem_begun.mp started with old | ⟨request, spawned, same⟩
    · obtain ⟨spawner, known, spawned⟩ := step (by simpa using old)
      exact ⟨spawner, mem_begun.mpr (.inl (List.mem_cons_of_mem _ known)),
        spawned.grow fun done => done_did.mpr (.inr done)⟩
    · cases same
      obtain ⟨task, rfl, rfl⟩ := handle_spawned handled spawned
      cases task with
      | publishQueryCompletion => cases collects
      | collectQuery reference sessionId version run close =>
        cases collects
        obtain ⟨principal, operation, record, called, inserted, sameId, sameVersion,
          ⟨sent, parameters, executed⟩, _⟩ := allowed
        refine ⟨actor, mem_begun.mpr (.inl (List.mem_cons_of_mem _ known)), rfl,
          ⟨record, done_did.mpr (.inr ?_), sameId, sameVersion⟩,
          ⟨sent, parameters, done_did.mpr (.inr ?_)⟩, done_did.mpr (.inl ⟨rfl, rfl⟩)⟩
        · exact (held.mem_trail_iff known).mp inserted
        · exact (held.mem_trail_iff known).mp executed

/-- A record has at most one collector. -/
theorem collector_unique (history : GatewayHistory gateways guard world₀ world past)
    {first second : Caller} {one other : Collection} (started : .started first ∈ past)
    (started' : .started second ∈ past) (collects : first.request.collection = some one)
    (collects' : second.request.collection = some other) (together : first.place = second.place)
    (same : one.reference = other.reference) : first = second := by
  induction history with
  | initial => exact absurd started List.not_mem_nil
  | @arrives _ past place request _ client _ step =>
    have old : ∀ {caller : Caller} {collection : Collection},
        .started caller ∈ enter place past request →
        caller.request.collection = some collection → .started caller ∈ past := by
      intro caller collection began collects
      rcases List.mem_cons.mp began with head | tail
      · cases head
        cases request with
        | task => cases client
        | call | beginShutdown | cleanupExpired => cases collects
      · exact tail
    exact step (old started collects) (old started' collects')
  | returns _ _ _ _ _ _ _ step => exact step (by simpa using started) (by simpa using started')
  | @performs _ past actor act _ outcome held known _ allowed handled _ step =>
    -- A collector that starts now has a record for which none was asked before.
    have fresh : ∀ {caller : Caller} {collection : Collection} {request : Request},
        outcome.spawned = some request → request.collection = some collection →
        .started caller ∈ past → caller.place = actor.place →
        ∀ {collected : Collection}, caller.request.collection = some collected →
          collected.reference ≠ collection.reference := by
      intro caller collection request spawned collects began together collected collects' same
      obtain ⟨task, rfl, rfl⟩ := handle_spawned handled spawned
      cases task with
      | publishQueryCompletion => cases collects
      | collectQuery reference sessionId version run close =>
        cases collects
        obtain ⟨_, _, record, _, inserted, _, _, _, _, unasked⟩ := allowed
        obtain ⟨spawner, _, spawnedBy⟩ := collector_spawned held began collects'
        obtain ⟨record', inserted', _⟩ := spawnedBy.inserted
        have own := (held.mem_trail_iff known).mp inserted
        have asked := spawnedBy.asked
        simp only at same
        rw [same] at inserted' asked
        have unique := (insert_unique held (by rw [spawnedBy.place, together]) inserted' own).1
        subst unique
        have asked := (held.mem_trail_iff known).mpr asked
        exact unasked _ _ _ _ asked
    rcases mem_begun.mp started with old | ⟨request, spawned, new⟩ <;>
      rcases mem_begun.mp started' with old' | ⟨request', spawned', new'⟩
    · exact step (by simpa using old) (by simpa using old')
    · cases new'
      exact absurd same (fresh spawned' collects' (by simpa using old) together collects)
    · cases new
      exact absurd same.symm
        (fresh spawned collects (by simpa using old') together.symm collects')
    · cases new
      cases new'
      rw [spawned] at spawned'
      cases spawned'
      rfl

/-- What a collector of a record has done is in the trail of every collector of that record. -/
theorem collector_did (history : GatewayHistory gateways guard world₀ world past)
    (known : .started collector ∈ past) (collects : collector.request.Collects reference) {act : Op}
    {reply : act.Reply} (done : Done past actor act reply)
    (together : actor.place = collector.place) (collects' : actor.request.Collects reference) :
    Seen.Saw (trailOf collector.thread past) act reply := by
  obtain ⟨one, collection, rfl⟩ := collects
  obtain ⟨other, collection', same⟩ := collects'
  have unique := collector_unique history (history.done_started done) known collection' collection
    together same
  subst unique
  exact (history.mem_trail_iff known).mpr done

/-- The record of a collector is there. -/
theorem collected_record (history : GatewayHistory gateways guard world₀ world past)
    (known : .started collector ∈ past) (collects : collector.request.Collects reference) :
    ∃ record, world.record collector.place reference = some record := by
  obtain ⟨collection, collects, rfl⟩ := collects
  obtain ⟨spawner, _, spawned⟩ := collector_spawned history known collects
  obtain ⟨record, inserted, _⟩ := spawned.inserted
  obtain ⟨_, _, present⟩ := inserted_record history inserted
  exact ⟨_, spawned.place ▸ present⟩

end

end ConfluxQuery
