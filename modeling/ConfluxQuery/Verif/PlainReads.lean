import ConfluxQuery.Lib.Alone
import ConfluxQuery.Verif.RecordHistory

/-!
# Reads at one moment

What the gateway's read operations answer when they run alone at one moment: each of them depends on
nothing but the record it finds after the cleanup, so its answer is a function of that record.
-/

namespace ConfluxQuery

/-- A record apart from the cancellation request, which no read looks at. -/
def QueryRecord.content (record : QueryRecord) : QueryRecord := { record with cancelled := false }

namespace Records

/-- The reference a principal finds is that of a listed record of its own. -/
theorem findOwned_get (records : Records) (principal id : String) :
    (records.findOwned principal id).bind records.get =
      (records.find id).filter fun record => record.owner == principal := by
  simp only [find, findOwned]
  cases records.listed.lookup id with
  | none => rfl
  | some reference =>
    change ((some reference).filter
      (records.satisfies fun record => record.owner == principal)).bind records.get =
        (records.get reference).filter _
    cases found : records.get reference with
    | none => simp [Option.filter, satisfies, found]
    | some record =>
      cases passed : record.owner == principal <;> simp [Option.filter, satisfies, found, passed]

theorem findOwned_some {records : Records} {principal id : String} {reference : Nat}
    (found : records.findOwned principal id = some reference) :
    ∃ record, records.get reference = some record := by
  have passed := (Option.filter_eq_some_iff.mp found).2
  cases present : records.get reference with
  | none => simp [satisfies, present] at passed
  | some record => exact ⟨record, rfl⟩

theorem find_cancelWhere (records : Records) (test : QueryRecord → Bool) (id : String) :
    ((records.cancelWhere test).find id).map QueryRecord.content =
      (records.find id).map QueryRecord.content := by
  simp only [find, cancelWhere]
  cases records.listed.lookup id with
  | none => rfl
  | some reference =>
    simp only [Option.bind_some, get, List.getElem?_mapIdx, Option.map_map]
    congr 1
    funext record
    simp only [Function.comp_apply]
    split <;> rfl

end Records

/-- Changing a process to what it is changes nothing. -/
@[simp] theorem World.setNode_self {S : Type} (world : World S) (place : Nat) :
    world.setNode place (world.nodes place) = world := by
  simp [World.setNode]

/-- A principal that reads a query of a gateway at one moment. -/
structure Viewer where
  gateway : Gateway
  place : Nat
  /-- What the environment decides at that moment. -/
  reading : Reading
  principal : AuthenticatedPrincipal
  queryId : String

section

variable {S : Type} [ClusterStateStore S Payload] {viewer : Viewer} {α β : Type}

namespace Viewer

/-- What operations do where and when the viewer is. -/
abbrev handles (viewer : Viewer) (act : Op) (world : World S) :
    Option (Outcome gatewayOps (World S) Request act) :=
  handle viewer.place viewer.reading act world

/-- The process the viewer asks. -/
def node (viewer : Viewer) (world : World S) : NodeState := world.nodes viewer.place

/-- The viewer may read a record: it owns it, and the record has not expired. -/
def reads (viewer : Viewer) (record : QueryRecord) : Bool :=
  record.owner == viewer.principal.id &&
    record.unexpired viewer.reading.now viewer.gateway.limits.resultTtl

/-- The record the viewer finds. -/
def known (viewer : Viewer) (world : World S) : Option QueryRecord :=
  (((viewer.node world).records.find viewer.queryId).map QueryRecord.content).filter viewer.reads

/-- No call holds the lock of the prepared statements. -/
def unlocked (viewer : Viewer) (world : World S) : Prop :=
  (viewer.node world).prepared.lock = .free

/-- A program answers by the record the viewer finds: run alone while the lock is free, it ends with
that answer and leaves to the viewer what it found. -/
def Answers (S : Type) [ClusterStateStore S Payload] (viewer : Viewer) (prog : Call α)
    (answer : Option QueryRecord → Except ServiceError α) : Prop :=
  ∀ world : World S, viewer.unlocked world → ∃ after : World S, viewer.unlocked after ∧
    viewer.known after = viewer.known world ∧
      prog.alone viewer.handles world = some (answer (viewer.known world), after)

/-- A program that performs nothing answers its own outcome. -/
theorem Answers.of_outcome {prog : Call α} {outcome : Except ServiceError α}
    (same : ∀ world : World S, prog.alone viewer.handles world = some (outcome, world)) :
    viewer.Answers S prog fun _ => outcome :=
  fun world free => ⟨world, free, rfl, same world⟩

theorem Answers.bind {first : Call α} {next : α → Call β}
    {answer : Option QueryRecord → Except ServiceError α}
    {then_ : α → Option QueryRecord → Except ServiceError β}
    (one : viewer.Answers S first answer)
    (two : ∀ value, viewer.Answers S (next value) (then_ value)) :
    viewer.Answers S (first >>= next) fun known =>
      (answer known).bind fun value => then_ value known := by
  intro world free
  obtain ⟨middle, stillFree, same, ended⟩ := one world free
  rw [Prog.alone_bind, ended, Option.bind_some]
  cases answered : answer (viewer.known world) with
  | error error => exact ⟨middle, stillFree, same, by simp [answered, Except.bind]⟩
  | ok value =>
    obtain ⟨after, endFree, sameAfter, result⟩ := two value middle stillFree
    refine ⟨after, endFree, sameAfter.trans same, ?_⟩
    rw [same] at result
    simpa [answered, Except.bind] using result

omit [ClusterStateStore S Payload] in
/-- The record a viewer finds is one of its process, apart from the cancellation request. -/
theorem known_recorded {world : World S} {record : QueryRecord}
    (known : viewer.known world = some record) :
    ∃ reference stored, world.record viewer.place reference = some stored ∧
      record.data = stored.data := by
  obtain ⟨seen, _⟩ := Option.filter_eq_some_iff.mp known
  obtain ⟨stored, found, rfl⟩ := Option.map_eq_some_iff.mp seen
  obtain ⟨reference, _, here⟩ := Option.bind_eq_some_iff.mp found
  exact ⟨reference, stored, here, rfl⟩

/-- Worlds in which the viewer's process has the same lock and finds the same records. -/
structure Kept (viewer : Viewer) (world after : World S) : Prop where
  /-- The prepared statements and their lock. -/
  prepared : (viewer.node after).prepared = (viewer.node world).prepared
  /-- Records apart from requests for cancellation. -/
  found : ∀ id, ((viewer.node after).records.find id).map QueryRecord.content =
    ((viewer.node world).records.find id).map QueryRecord.content

theorem expireSession_runs (viewer : Viewer) (expired : String × String) (world : World S) :
    ∃ after, (Gateway.expireSession expired).alone viewer.handles world = some (.ok (), after) ∧
      viewer.Kept world after := by
  refine ⟨_, rfl, ?_, fun id => ?_⟩
  · simp [node]
  · simpa [node, RecordOp.apply] using Records.find_cancelWhere _ _ id

theorem expireSessions_runs (viewer : Viewer) (expired : List (String × String))
    (world : World S) :
    ∃ after, (Prog.each Gateway.expireSession expired).alone viewer.handles world =
        some (.ok (), after) ∧
      viewer.Kept world after := by
  induction expired generalizing world with
  | nil => exact ⟨world, rfl, rfl, fun _ => rfl⟩
  | cons first rest step =>
    obtain ⟨middle, ended, kept⟩ := viewer.expireSession_runs first world
    obtain ⟨after, endedRest, keptRest⟩ := step middle
    refine ⟨after, ?_, keptRest.prepared.trans kept.prepared,
      fun id => (keptRest.found id).trans (kept.found id)⟩
    change (Gateway.expireSession first >>=
      fun _ => Prog.each Gateway.expireSession rest).alone viewer.handles world = _
    rw [Prog.alone_bind, ended]
    exact endedRest

/-- Reading the clock. -/
theorem alone_clock (viewer : Viewer) (world : World S) :
    (Call.host .clock).alone viewer.handles world = some (.ok viewer.reading.now, world) := by
  change some (Except.ok viewer.reading.now, world.setNode viewer.place _) = _
  rw [World.setNode_self]

/-- Opening a file. -/
theorem alone_readFile (viewer : Viewer) (file : IpcFile) (world : World S) :
    (Call.host (.readFile file)).alone viewer.handles world =
      some (.ok (viewer.reading.io.read file), world) := by
  change some (Except.ok (viewer.reading.io.read file), world.setNode viewer.place _) = _
  rw [World.setNode_self]

/-- A section on query records. -/
theorem alone_records (viewer : Viewer) (op : RecordOp) (world : World S) :
    (Call.records op).alone viewer.handles world =
      some (.ok (op.apply viewer.reading.now viewer.reading.io (viewer.node world).records).1,
        world.setNode viewer.place { viewer.node world with
          records := (op.apply viewer.reading.now viewer.reading.io
            (viewer.node world).records).2 }) := rfl

/-- Looking for a principal's record changes nothing. -/
theorem alone_findOwned (viewer : Viewer) (principal id : String) (world : World S) :
    (Call.records (.findOwned principal id)).alone viewer.handles world =
      some (.ok ((viewer.node world).records.findOwned principal id), world) := by
  rw [alone_records]
  exact congrArg (fun after => some (Except.ok _, after)) (world.setNode_self viewer.place)

theorem alone_inspect (viewer : Viewer) (reference : Nat) (world : World S) :
    (Call.records (.inspect reference)).alone viewer.handles world =
      some (.ok (((viewer.node world).records.get reference).getD default), world) := by
  rw [alone_records]
  exact congrArg (fun after => some (Except.ok _, after)) (world.setNode_self viewer.place)

/-- A section on prepared statements when the lock is free. -/
theorem alone_prepared {world : World S} (free : viewer.unlocked world) {op : PreparedOp}
    (takes : op.underLock = false) :
    (Call.prepared op).alone viewer.handles world =
      some (.ok (op.perform viewer.reading.now viewer.reading.uuid (viewer.node world).prepared).1,
        world.setNode viewer.place { viewer.node world with
          prepared := (op.perform viewer.reading.now viewer.reading.uuid
            (viewer.node world).prepared).2 }) := by
  have free : (world.nodes viewer.place).prepared.lock = .free := free
  refine (Prog.alone_perform (S := gatewayOps) (.prepared op)).trans ?_
  simp [handle, PreparedOp.apply, takes, free, node]

/-- The cleanup leaves the records that have not expired. -/
theorem cleanupExpired_runs (viewer : Viewer) {world : World S} (free : viewer.unlocked world) :
    ∃ after : World S, viewer.gateway.cleanupExpired.alone viewer.handles world =
        some (.ok (), after) ∧ viewer.unlocked after ∧
      ∀ id, ((viewer.node after).records.find id).map QueryRecord.content =
        (((viewer.node world).records.find id).map QueryRecord.content).filter
          (QueryRecord.unexpired viewer.reading.now viewer.gateway.limits.resultTtl) := by
  unfold Gateway.cleanupExpired
  rw [Prog.alone_bind, alone_clock, Option.bind_some, Prog.resume_ok, Prog.alone_bind,
    alone_prepared free rfl, Option.bind_some, Prog.resume_ok, Prog.alone_bind]
  -- The owning handles that expired end their sessions, then the records are swept.
  obtain ⟨first, ended, kept⟩ := viewer.expireSessions_runs _ (world.setNode viewer.place _)
  rw [ended, Option.bind_some, Prog.resume_ok, Prog.alone_bind, alone_records, Option.bind_some,
    Prog.resume_ok, Prog.alone_bind]
  obtain ⟨after, endedIdle, keptIdle⟩ := viewer.expireSessions_runs _
    ((first.setNode viewer.place _).setNode viewer.place _)
  refine ⟨after, endedIdle, ?_, fun id => ?_⟩
  · have keptLock := congrArg PreparedRegistry.lock kept.prepared
    have free : (world.nodes viewer.place).prepared.lock = .free := free
    rw [unlocked, keptIdle.prepared]
    simpa [node, PreparedOp.perform, free] using keptLock
  · have keptFound := kept.found id
    rw [keptIdle.found id]
    simp only [node, World.setNode_nodes, ↓reduceIte, RecordOp.apply, OwnerOp.apply] at keptFound ⊢
    rw [← keptFound, Records.find_retain, Option.filter_map]
    rfl

omit [ClusterStateStore S Payload] in
/-- Once expired records are gone, the viewer finds what a lookup of its own record finds. -/
theorem known_swept {world after : World S}
    (swept : ((viewer.node after).records.find viewer.queryId).map QueryRecord.content =
      (((viewer.node world).records.find viewer.queryId).map QueryRecord.content).filter
        (QueryRecord.unexpired viewer.reading.now viewer.gateway.limits.resultTtl)) :
    viewer.known after = viewer.known world ∧
      viewer.known world = ((viewer.node after).records.findOwned viewer.principal.id
        viewer.queryId).bind fun reference =>
          ((viewer.node after).records.get reference).map QueryRecord.content := by
  have located : (((viewer.node after).records.find viewer.queryId).filter fun record =>
      record.owner == viewer.principal.id).map QueryRecord.content =
        (((viewer.node after).records.find viewer.queryId).map QueryRecord.content).filter
          fun record => record.owner == viewer.principal.id := by
    rw [Option.filter_map]
    rfl
  have looked : (((viewer.node after).records.findOwned viewer.principal.id
      viewer.queryId).bind fun reference =>
        ((viewer.node after).records.get reference).map QueryRecord.content) =
      (((viewer.node after).records.findOwned viewer.principal.id viewer.queryId).bind
        (viewer.node after).records.get).map QueryRecord.content := by
    cases (viewer.node after).records.findOwned viewer.principal.id viewer.queryId <;> rfl
  rw [looked, Records.findOwned_get, located, known, known, swept]
  cases (((viewer.node world).records.find viewer.queryId).map QueryRecord.content) with
  | none => exact ⟨rfl, rfl⟩
  | some record =>
    cases owned : record.owner == viewer.principal.id <;>
      cases unexpired : record.unexpired viewer.reading.now viewer.gateway.limits.resultTtl <;>
        simp [Option.filter, reads, owned, unexpired]

/-- Looking for one's own record. -/
theorem ownedRecord_runs (viewer : Viewer) {world : World S} (free : viewer.unlocked world) :
    ∃ after : World S, viewer.unlocked after ∧ viewer.known after = viewer.known world ∧
      ((viewer.known world = none ∧
          (viewer.gateway.ownedRecord viewer.principal viewer.queryId).alone viewer.handles world =
            some (.error queryNotFound, after)) ∨
        ∃ reference record, (viewer.node after).records.get reference = some record ∧
          viewer.known world = some record.content ∧
          (viewer.gateway.ownedRecord viewer.principal viewer.queryId).alone viewer.handles world =
            some (.ok reference, after)) := by
  obtain ⟨after, ended, stillFree, swept⟩ := viewer.cleanupExpired_runs free
  obtain ⟨same, located⟩ := known_swept (swept viewer.queryId)
  have searched : (viewer.gateway.ownedRecord viewer.principal viewer.queryId).alone
      viewer.handles world = some (((viewer.node after).records.findOwned viewer.principal.id
        viewer.queryId).elim (.error queryNotFound) .ok, after) := by
    unfold Gateway.ownedRecord
    rw [Prog.alone_bind, ended, Option.bind_some, Prog.resume_ok, Prog.alone_bind,
      alone_findOwned, Option.bind_some, Prog.resume_ok, Prog.alone_okOr]
  refine ⟨after, stillFree, same, ?_⟩
  cases found : (viewer.node after).records.findOwned viewer.principal.id viewer.queryId with
  | none => exact .inl ⟨by simpa [found] using located, by simpa [found] using searched⟩
  | some reference =>
    obtain ⟨record, present⟩ := Records.findOwned_some found
    refine .inr ⟨reference, record, present, ?_, by simpa [found] using searched⟩
    simpa [found, present] using located

/-- A read that looks at its record and then at nothing but files answers by the record's
content. -/
theorem Answers.located (rest : QueryRecord → Call α)
    (outcome : QueryRecord → Except ServiceError α)
    (blind : ∀ record, outcome record.content = outcome record)
    (ended : ∀ record (world : World S),
      (rest record).alone viewer.handles world = some (outcome record, world)) :
    viewer.Answers S (do
      let reference ← viewer.gateway.ownedRecord viewer.principal viewer.queryId
      rest (← Call.records (.inspect reference))) fun known =>
        known.elim (.error queryNotFound) outcome := by
  intro world free
  obtain ⟨after, stillFree, same, missing | located⟩ := viewer.ownedRecord_runs free
  · obtain ⟨unknown, searched⟩ := missing
    refine ⟨after, stillFree, same, ?_⟩
    rw [Prog.alone_bind, searched, unknown]
    rfl
  · obtain ⟨reference, record, present, found, searched⟩ := located
    refine ⟨after, stillFree, same, ?_⟩
    rw [Prog.alone_bind, searched, Option.bind_some, Prog.resume_ok, Prog.alone_bind,
      alone_inspect, Option.bind_some, Prog.resume_ok, found, present]
    simpa [blind] using ended record after

end Viewer

end

namespace QueryRecord

/-- The error a failed record answers its readers. -/
def refusal (record : QueryRecord) : Except ServiceError Unit :=
  match record.data.error with
  | some error => .error ⟨.failedPrecondition, error.code, error.message⟩
  | none => .ok ()

/-- Go on when a test holds. -/
def require (test : Bool) (error : ServiceError) : Except ServiceError Unit :=
  if test then .ok () else .error error

/-- A spill file as an open reader. -/
def opened (io : FileIo) (file : IpcFile) : Except ServiceError FileReader :=
  (io.read file).mapError storageServiceError

/-- The rows of a page, from memory or from the spill file. -/
def pageBatches (io : FileIo) (start stop : Nat) (record : QueryRecord) :
    Except ServiceError (List RecordBatch) :=
  match record.data.storage with
  | .memory batches => .ok (sliceBatches batches start stop)
  | .spill file _ => (opened io file).bind (loadFrom start stop 0)

/-- The page a record answers. -/
def page (io : FileIo) (offset limit : Nat) (record : QueryRecord) :
    Except ServiceError ResultPage := do
  require (!record.data.storage.writing) (queryRunning resultsPending)
  record.refusal
  require record.data.state.terminal (queryRunning resultsPending)
  let bounds := pageBounds record.data.rows offset limit
  let batches ← record.pageBatches io bounds.1 bounds.2
  return pageOf record.data.rows bounds.2 batches

/-- The reader a record answers. -/
def reader (io : FileIo) (skip : Nat) (remaining : Option Nat) (record : QueryRecord) :
    Except ServiceError ResultBatchReader := do
  record.refusal
  require (record.data.state == .completed || record.data.state == .cancelled)
    (queryRunning resultsPending)
  match record.data.storage with
  | .memory batches => return ⟨.memory, batches.map .ok, skip, remaining⟩
  | .spill file false =>
    let entries ← opened io file
    return ⟨.spill file.schema, entries, skip, remaining⟩
  | .spill _ true => .error (queryRunning resultsPending)

/-- The number of batches a record answers. -/
def batchCount (io : FileIo) (record : QueryRecord) : Except ServiceError Nat := do
  require (record.data.state == .completed)
    (queryRunning "query must complete before partition discovery")
  match record.data.storage with
  | .memory batches => return batches.length
  | .spill _ true => .error (queryRunning "query result is still being written")
  | .spill file false =>
    let entries ← opened io file
    return entries.length

end QueryRecord

section

variable {S : Type} [ClusterStateStore S Payload] {viewer : Viewer}

namespace Viewer

/-- The answer of a read that needs its record. -/
def lookedUp {α : Type} (outcome : QueryRecord → Except ServiceError α)
    (known : Option QueryRecord) :
    Except ServiceError α :=
  known.elim (.error queryNotFound) outcome

/-- A program that changes nothing ends with an outcome. -/
def Ends (S : Type) [ClusterStateStore S Payload] {α : Type} (viewer : Viewer) (prog : Call α)
    (outcome : Except ServiceError α) : Prop :=
  ∀ world : World S, prog.alone viewer.handles world = some (outcome, world)

theorem Ends.bind {α β : Type} {first : Call α} {next : α → Call β}
    {outcome : Except ServiceError α} {then_ : α → Except ServiceError β}
    (one : viewer.Ends S first outcome) (two : ∀ value, viewer.Ends S (next value) (then_ value)) :
    viewer.Ends S (first >>= next) (outcome >>= then_) := by
  intro world
  rw [Prog.alone_bind, one world, Option.bind_some]
  cases outcome with
  | error error => rfl
  | ok value => exact two value world

/-- A value. -/
theorem ends_pure {α : Type} (value : α) : viewer.Ends S (pure value) (.ok value) := fun _ => rfl

/-- A test. -/
theorem ends_ensure (test : Bool) (error : ServiceError) :
    viewer.Ends S (Prog.ensure test error) (QueryRecord.require test error) :=
  fun _ => Prog.alone_ensure test error

theorem ends_refuseFailed (record : QueryRecord) :
    viewer.Ends S (Gateway.refuseFailed .failedPrecondition record) record.refusal := by
  intro world
  unfold Gateway.refuseFailed QueryRecord.refusal
  cases record.data.error <;> rfl

/-- A fallible computation. -/
theorem ends_lift {α : Type} (outcome : Except ServiceError α) :
    viewer.Ends S (Prog.lift outcome) outcome :=
  fun _ => Prog.alone_lift outcome

theorem Ends.opened {α : Type} {file : IpcFile} {next : FileReader → Call α}
    {then_ : FileReader → Except ServiceError α}
    (rest : ∀ entries, viewer.Ends S (next entries) (then_ entries)) :
    viewer.Ends S (do
      let entries ← Prog.lift ((← Call.host (.readFile file)).mapError storageServiceError)
      next entries) (QueryRecord.opened viewer.reading.io file >>= then_) := by
  have opens : viewer.Ends S (Call.host (.readFile file)) (.ok (viewer.reading.io.read file)) :=
    alone_readFile viewer file
  exact opens.bind fun _ => (ends_lift _).bind rest

/-- The rows of a page. -/
theorem ends_loadPage (record : QueryRecord) (start stop : Nat) :
    viewer.Ends S (Gateway.loadPage record.data.storage start stop)
      (record.pageBatches viewer.reading.io start stop) := by
  unfold Gateway.loadPage QueryRecord.pageBatches
  cases record.data.storage with
  | memory batches => exact ends_pure _
  | spill file writing => exact Ends.opened fun entries => ends_lift _

theorem resultPage_answers (offset limit : Nat) :
    viewer.Answers S (viewer.gateway.resultPage viewer.principal viewer.queryId offset limit)
      (lookedUp (QueryRecord.page viewer.reading.io offset limit)) := by
  refine Answers.located (fun record => do
    Prog.ensure (!record.data.storage.writing) (queryRunning resultsPending)
    Gateway.refuseFailed .failedPrecondition record
    Prog.ensure record.data.state.terminal (queryRunning resultsPending)
    let rows := record.data.rows
    let bounds := pageBounds rows offset limit
    let batches ← Gateway.loadPage record.data.storage bounds.1 bounds.2
    return pageOf rows bounds.2 batches) _ (fun _ => rfl) fun record => ?_
  exact (ends_ensure _ _).bind fun _ => (ends_refuseFailed record).bind fun _ =>
    (ends_ensure _ _).bind fun _ => (ends_loadPage record _ _).bind fun _ => ends_pure _

theorem resultReaderRange_answers (skip : Nat) (remaining : Option Nat) :
    viewer.Answers S
      (viewer.gateway.resultReaderRange viewer.principal viewer.queryId skip remaining)
      (lookedUp (QueryRecord.reader viewer.reading.io skip remaining)) := by
  refine Answers.located (fun record => do
    Gateway.refuseFailed .failedPrecondition record
    Prog.ensure (record.data.state == .completed || record.data.state == .cancelled)
      (queryRunning resultsPending)
    match record.data.storage with
    | .memory batches => return ResultBatchReader.mk .memory (batches.map .ok) skip remaining
    | .spill file false =>
      let entries ← Prog.lift
        ((← Call.host (.readFile file)).mapError storageServiceError)
      return ResultBatchReader.mk (.spill file.schema) entries skip remaining
    | .spill _ true => Prog.fail (queryRunning resultsPending)) _ (fun _ => rfl) fun record => ?_
  refine (ends_refuseFailed record).bind fun _ => (ends_ensure _ _).bind fun _ => ?_
  cases record.data.storage with
  | memory batches => exact ends_pure _
  | spill file writing =>
    cases writing with
    | false => exact Ends.opened fun entries => ends_pure _
    | true => exact fun _ => rfl

theorem resultBatchCount_answers :
    viewer.Answers S (viewer.gateway.resultBatchCount viewer.principal viewer.queryId)
      (lookedUp (QueryRecord.batchCount viewer.reading.io)) := by
  refine Answers.located (fun record => do
    Prog.ensure (record.data.state == .completed)
      (queryRunning "query must complete before partition discovery")
    match record.data.storage with
    | .memory batches => return batches.length
    | .spill _ true => Prog.fail (queryRunning "query result is still being written")
    | .spill file false =>
      let entries ← Prog.lift
        ((← Call.host (.readFile file)).mapError storageServiceError)
      return entries.length) _ (fun _ => rfl) fun record => ?_
  refine (ends_ensure _ _).bind fun _ => ?_
  cases record.data.storage with
  | memory batches => exact ends_pure _
  | spill file writing =>
    cases writing with
    | false => exact Ends.opened fun entries => ends_pure _
    | true => exact fun _ => rfl

/-- The partition a read asks for is one of those there are. -/
def inRange (partition partitions : Nat) : Except ServiceError Unit :=
  QueryRecord.require (partitions != 0 && decide (partition < partitions)) Gateway.invalidPartition

/-- What a read of a partition answers. -/
def partitionRead (io : FileIo) (partition partitions : Nat) (known : Option QueryRecord) :
    Except ServiceError ResultBatchReader :=
  (inRange partition partitions).bind fun _ =>
    (lookedUp (QueryRecord.batchCount io) known).bind fun batches =>
      let bounds := Gateway.partitionBounds batches partition partitions
      lookedUp (QueryRecord.reader io bounds.1 (some (bounds.2 - bounds.1))) known

theorem resultPartitionReader_answers (partition partitions : Nat) :
    viewer.Answers S (viewer.gateway.resultPartitionReader viewer.principal viewer.queryId
      partition partitions) (partitionRead viewer.reading.io partition partitions) :=
  Answers.bind (Answers.of_outcome fun _ => Prog.alone_ensure _ _) fun _ =>
    Answers.bind resultBatchCount_answers fun _ => resultReaderRange_answers _ _

end Viewer

end

end ConfluxQuery
