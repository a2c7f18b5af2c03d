import ConfluxQuery.Verif.Paging
import ConfluxQuery.Verif.ResultSources

/-!
# The partitions of a result

A completed result is given out in partitions, each by a reader of its own that counts the batches,
works out its bounds by a truncated division and passes over the batches before them. The readers
are opened at different moments and know nothing of each other, but their bounds are cuts of one
list: each partition starts where the one before it ends.
-/

namespace ConfluxQuery

/-- The part of a list between two consecutive cuts. -/
def between {α : Type} (values : List α) (cut : Nat → Nat) (index : Nat) : List α :=
  (values.drop (cut index)).take (cut (index + 1) - cut index)

/-- Parts between consecutive cuts make up the list up to the last cut. -/
theorem flatMap_between {α : Type} (values : List α) {cut : Nat → Nat} (start : cut 0 = 0)
    (ordered : ∀ index, cut index ≤ cut (index + 1)) (count : Nat) :
    (List.range count).flatMap (between values cut) = values.take (cut count) := by
  induction count with
  | zero => simp [start]
  | succ count step =>
    rw [List.range_succ, List.flatMap_append, step, List.flatMap_singleton, between,
      ← List.take_add, Nat.add_sub_cancel' (ordered count)]

/-- Where a partition starts, in a list that is cut evenly. -/
def evenCut (length parts index : Nat) : Nat := length * index / parts

theorem evenCut_ordered (length parts index : Nat) :
    evenCut length parts index ≤ evenCut length parts (index + 1) :=
  Nat.div_le_div_right (Nat.mul_le_mul_left length (Nat.le_succ index))

theorem evenCut_last (length : Nat) {parts : Nat} (positive : 0 < parts) :
    evenCut length parts parts = length :=
  Nat.mul_div_cancel length positive

/-- A partition has the length of the list divided by the number of partitions, or one more. -/
theorem evenCut_step (length index : Nat) {parts : Nat} (positive : 0 < parts) :
    length / parts ≤ evenCut length parts (index + 1) - evenCut length parts index ∧
      evenCut length parts (index + 1) - evenCut length parts index ≤ length / parts + 1 := by
  have sum : length * (index + 1) = length * index + length := Nat.mul_succ length index
  simp only [evenCut, sum, Nat.add_div positive]
  generalize length / parts = share, length * index / parts = start
  split <;> omega

/-- The bounds of a partition are cuts, as long as no product overflows. -/
theorem Gateway.partitionBounds_cut {batches partition partitions : Nat}
    (inside : partition < partitions) (exact_ : batches * partitions < 2 ^ 64) :
    Gateway.partitionBounds batches partition partitions =
      (evenCut batches partitions partition, evenCut batches partitions (partition + 1)) := by
  have last : batches * (partition + 1) ≤ batches * partitions :=
    Nat.mul_le_mul_left batches inside
  have first : batches * partition ≤ batches * (partition + 1) :=
    Nat.mul_le_mul_left batches (Nat.le_succ partition)
  simp only [Gateway.partitionBounds, saturatingMul, usizeMax, evenCut]
  rw [Nat.min_eq_left (by omega), Nat.min_eq_left (by omega)]

/-- A partition is the part of the batches between two cuts, as long as no product overflows. -/
theorem partitionOf_between (batches : List RecordBatch) {partition partitions : Nat}
    (inside : partition < partitions) (exact_ : batches.length * partitions < 2 ^ 64) :
    partitionOf batches partition partitions =
      between batches (evenCut batches.length partitions) partition := by
  rw [partitionOf, Gateway.partitionBounds_cut inside exact_]
  rfl

/-- The length of a partition. -/
theorem length_between (batches : List RecordBatch) {partition partitions : Nat}
    (inside : partition < partitions) :
    (between batches (evenCut batches.length partitions) partition).length =
      evenCut batches.length partitions (partition + 1) -
        evenCut batches.length partitions partition := by
  have positive : 0 < partitions := Nat.zero_lt_of_lt inside
  have last : evenCut batches.length partitions (partition + 1) ≤ batches.length :=
    calc
      evenCut batches.length partitions (partition + 1)
        ≤ evenCut batches.length partitions partitions :=
          Nat.div_le_div_right (Nat.mul_le_mul_left _ inside)
      _ = batches.length := evenCut_last _ positive
  rw [between, List.length_take, List.length_drop]
  omega

namespace ResultStorage.Seals

variable {record : QueryRecord} {batches : List RecordBatch} {io : FileIo}

/-- A completed record that holds its result for good opens a reader over it. -/
theorem reader (seals : record.data.storage.Seals batches)
    (completed : record.data.state = .completed) (clean : record.data.error = none)
    (faithful : io.Faithful) (skip : Nat) (remaining : Option Nat) :
    ∃ source, record.reader io skip remaining = .ok ⟨source, batches.map .ok, skip, remaining⟩ := by
  rcases seals.cases faithful with kept | ⟨file, kept, read⟩
  · refine ⟨.memory, ?_⟩
    simp only [QueryRecord.reader, QueryRecord.require, QueryRecord.refusal, completed, clean, kept]
    rfl
  · refine ⟨.spill file.schema, ?_⟩
    simp only [QueryRecord.reader, QueryRecord.require, QueryRecord.refusal, completed, clean, kept,
      QueryRecord.opened, read]
    rfl

/-- A completed record that holds its result for good counts its batches. -/
theorem batchCount (seals : record.data.storage.Seals batches)
    (completed : record.data.state = .completed) (faithful : io.Faithful) :
    record.batchCount io = .ok batches.length := by
  rcases seals.cases faithful with kept | ⟨file, kept, read⟩
  · simp only [QueryRecord.batchCount, QueryRecord.require, completed, kept]
    rfl
  · simp only [QueryRecord.batchCount, QueryRecord.require, completed, kept, QueryRecord.opened,
      read]
    exact congrArg Except.ok (List.length_map ..)

end ResultStorage.Seals

section

variable {S : Type} [ClusterStateStore S Payload]

/-- What a reader gives until its end, when it is opened at one moment. -/
def Viewer.drains (viewer : Viewer) (world : World S) (opening : Call ResultBatchReader) :
    Option (Except ServiceError (List RecordBatch)) :=
  (opening.alone viewer.handles world).map fun ended =>
    ended.1.bind ResultBatchReader.readAll

/-- What the reader of the whole result gives. -/
def Viewer.drainsResult (viewer : Viewer) (world : World S) :
    Option (Except ServiceError (List RecordBatch)) :=
  viewer.drains world (viewer.gateway.resultReader viewer.principal viewer.queryId)

/-- What the reader of a partition gives. -/
def Viewer.drainsPartition (viewer : Viewer) (world : World S) (partition partitions : Nat) :
    Option (Except ServiceError (List RecordBatch)) :=
  viewer.drains world
    (viewer.gateway.resultPartitionReader viewer.principal viewer.queryId partition partitions)

/-- A viewer at a moment at which it finds its query completed: no call holds it up, files are read
back, and the record it finds retains its result in some storage. -/
structure Viewer.FindsCompleted (viewer : Viewer) (world : World S) (storage : ResultStorage)
    (error : Option QueryError) : Prop where
  /-- The lock of the prepared statements is free. -/
  free : viewer.unlocked world
  faithful : viewer.reading.io.Faithful
  found : ∃ record, viewer.known world = some record ∧ record.data.state = .completed ∧
    record.data.storage = storage ∧ record.data.error = error

namespace Viewer

variable {viewer : Viewer} {world : World S} {storage : ResultStorage} {error : Option QueryError}
  {batches : List RecordBatch}

/-- A reader that is opened by the record the viewer finds gives what the answer gives. -/
theorem drains_answer {opening : Call ResultBatchReader}
    {answer : Option QueryRecord → Except ServiceError ResultBatchReader}
    (answers : viewer.Answers S opening answer) (free : viewer.unlocked world) :
    viewer.drains world opening =
      some ((answer (viewer.known world)).bind ResultBatchReader.readAll) := by
  obtain ⟨after, _, _, ended⟩ := answers world free
  rw [drains, ended, Option.map_some]

/-- The reader of the whole result gives the batches that are held. -/
theorem FindsCompleted.drainsResult (finds : viewer.FindsCompleted world storage none)
    (seals : storage.Seals batches) : viewer.drainsResult world = some (.ok batches) := by
  obtain ⟨record, known, completed, rfl, clean⟩ := finds.found
  obtain ⟨source, opened⟩ := seals.reader completed clean finds.faithful 0 none
  rw [Viewer.drainsResult, Gateway.resultReader,
    drains_answer (resultReaderRange_answers 0 none) finds.free, known, lookedUp, Option.elim_some,
    opened]
  exact congrArg some (ResultBatchReader.readAll_window source batches 0 none)

variable {partition partitions : Nat}

theorem inRange_true (inside : partition < partitions) :
    (partitions != 0 && decide (partition < partitions)) = true := by
  simp only [Bool.and_eq_true, bne_iff_ne, decide_eq_true_eq]
  omega

/-- The reader of a partition gives the batches between its bounds. -/
theorem FindsCompleted.drainsPartition (finds : viewer.FindsCompleted world storage none)
    (seals : storage.Seals batches) (inside : partition < partitions) :
    viewer.drainsPartition world partition partitions =
      some (.ok (partitionOf batches partition partitions)) := by
  obtain ⟨record, known, completed, rfl, clean⟩ := finds.found
  have within := inRange_true inside
  let bounds := Gateway.partitionBounds batches.length partition partitions
  obtain ⟨source, opened⟩ :=
    seals.reader completed clean finds.faithful bounds.1 (some (bounds.2 - bounds.1))
  have counted := seals.batchCount completed finds.faithful
  have answered : partitionRead viewer.reading.io partition partitions (some record) =
      .ok ⟨source, batches.map .ok, bounds.1, some (bounds.2 - bounds.1)⟩ := by
    simp only [partitionRead, inRange, QueryRecord.require, within, lookedUp, Option.elim_some,
      counted]
    exact opened
  rw [Viewer.drainsPartition, drains_answer (resultPartitionReader_answers partition partitions)
    finds.free, known, answered]
  exact congrArg some (ResultBatchReader.readAll_window source batches _ _)

theorem reader_refused {record : QueryRecord} {error : QueryError}
    (failed : record.data.error = some error) (io : FileIo) (skip : Nat) (remaining : Option Nat) :
    record.reader io skip remaining =
      .error ⟨.failedPrecondition, error.code, error.message⟩ := by
  simp only [QueryRecord.reader, QueryRecord.refusal, failed]
  rfl

theorem FindsCompleted.refusesResult {error : QueryError}
    (finds : viewer.FindsCompleted world storage (some error)) :
    viewer.drainsResult world =
      some (.error ⟨.failedPrecondition, error.code, error.message⟩) := by
  obtain ⟨record, known, _, _, failed⟩ := finds.found
  rw [Viewer.drainsResult, Gateway.resultReader,
    drains_answer (resultReaderRange_answers 0 none) finds.free, known, lookedUp, Option.elim_some,
    reader_refused failed]
  rfl

/-- A record with an error does not give a partition of its result. -/
theorem FindsCompleted.refusesPartition {error : QueryError}
    (finds : viewer.FindsCompleted world storage (some error)) (inside : partition < partitions) :
    ∃ refusal, viewer.drainsPartition world partition partitions = some (.error refusal) := by
  obtain ⟨record, known, _, _, failed⟩ := finds.found
  rw [Viewer.drainsPartition, drains_answer (resultPartitionReader_answers partition partitions)
    finds.free, known, partitionRead, inRange, QueryRecord.require, if_pos (inRange_true inside)]
  -- Counting the batches does not look at the error, but may fail as well.
  cases counted : record.batchCount viewer.reading.io with
  | error refusal =>
    refine ⟨refusal, ?_⟩
    simp only [lookedUp, Option.elim_some, counted]
    rfl
  | ok count =>
    refine ⟨⟨.failedPrecondition, error.code, error.message⟩, ?_⟩
    simp only [lookedUp, Option.elim_some, counted, Except.bind, reader_refused failed]

end Viewer

/-- In every run, consider a query that its owner finds completed. If its record has an error,
neither the whole result nor a partition of it is given. Otherwise the record holds batches, the
reader of the whole result gives them, and their partitions tile them as long as the product of the
two numbers fits into 64 bits: opened at whatever moments the query is found so, the readers of the
partitions give parts that make up the batches in order, their lengths differ by one at most, and
with no more partitions than batches none of them is empty. -/
theorem partitions_tile_result [LawfulStore S] (gateways : Nat → Gateway) (store : S)
    (schedule : Schedule)
    (viewer : Viewer) (storage : ResultStorage) (error : Option QueryError)
    (finds : viewer.FindsCompleted (gatewayRun gateways store schedule).world storage error)
    (partitions : Nat) (positive : 0 < partitions) :
    match error with
    | some error =>
      viewer.drainsResult (gatewayRun gateways store schedule).world =
          some (.error ⟨.failedPrecondition, error.code, error.message⟩) ∧
        ∀ partition < partitions, ∃ refusal, viewer.drainsPartition
          (gatewayRun gateways store schedule).world partition partitions = some (.error refusal)
    | none => ∃ batches, storage.Seals batches ∧
      viewer.drainsResult (gatewayRun gateways store schedule).world = some (.ok batches) ∧
      (batches.length * partitions < 2 ^ 64 → ∃ parts : Nat → List RecordBatch,
        (∀ partition < partitions, ∀ (opener : Viewer) (world : World S),
          opener.FindsCompleted world storage none →
            opener.drainsPartition world partition partitions = some (.ok (parts partition))) ∧
        (List.range partitions).flatMap parts = batches ∧
        (∀ one < partitions, ∀ two < partitions,
          (parts one).length ≤ (parts two).length + 1) ∧
        ∀ requested, partitions = min requested (max batches.length 1) → batches.length ≠ 0 →
          ∀ partition < partitions, parts partition ≠ []) := by
  obtain ⟨record, known, completed, rfl, failed⟩ := finds.found
  cases error with
  | some error =>
    refine ⟨?_, fun partition inside => ?_⟩
    · exact finds.refusesResult
    · exact finds.refusesPartition inside
  | none =>
    obtain ⟨reference, stored, here, same⟩ := Viewer.known_recorded known
    rw [same] at completed failed
    obtain ⟨_, collection, _, _, _, _, _, _, seals⟩ :=
      ended_complete (gatewayRun_history (runMeets_trivial gateways store schedule)) here
        (by rw [completed]; rfl) failed
    rw [← same] at seals
    generalize batchesOf collection.run.items = batches at seals
    refine ⟨batches, seals, finds.drainsResult seals, fun exact_ =>
      ⟨between batches (evenCut batches.length partitions), ?_, ?_, ?_, ?_⟩⟩
    · intro partition inside opener world found
      rw [found.drainsPartition seals inside, partitionOf_between _ inside exact_]
    · rw [flatMap_between _ (by simp [evenCut]) (evenCut_ordered _ _), evenCut_last _ positive,
        List.take_length]
    · intro one inside two within
      rw [length_between _ inside, length_between _ within]
      have atMost := (evenCut_step batches.length one positive).2
      have atLeast := (evenCut_step batches.length two positive).1
      omega
    · intro requested issued some_ partition inside
      have few : partitions ≤ batches.length := by omega
      have share : 0 < batches.length / partitions := Nat.div_pos few positive
      have atLeast := (evenCut_step batches.length partition positive).1
      rw [← List.length_pos_iff, length_between _ inside]
      omega

end

namespace Sample

/-- The batches are in memory. -/
def keeps (batches : List RecordBatch) : ResultStorage → Bool
  | .memory kept => kept == batches
  | .spill .. => false

/-- A run leaves a query that Alice finds completed without an error, with its batches in memory. -/
def completesCleanly (batches : List RecordBatch) : Bool :=
  let world := (run none (pagedQuery batches 10)).world
  decide ((pager.node world).prepared.lock = .free) && (pager.known world).any fun record =>
    record.data.state == .completed && keeps batches record.data.storage &&
      record.data.error.isNone

/-- What Alice finds after such a run. -/
theorem completesCleanly_finds {batches : List RecordBatch}
    (completes : completesCleanly batches = true) :
    pager.FindsCompleted (run none (pagedQuery batches 10)).world (.memory batches) none := by
  simp only [completesCleanly, Bool.and_eq_true, decide_eq_true_eq, Option.any_eq_true,
    beq_iff_eq, Option.isNone_iff_eq_none] at completes
  obtain ⟨free, record, known, ⟨completed, kept⟩, clean⟩ := completes
  have kept : record.data.storage = .memory batches := by
    cases storage : record.data.storage with
    | memory held => rw [storage, keeps, beq_iff_eq] at kept; rw [kept]
    | spill file writing => rw [storage] at kept; cases kept
  exact ⟨free, fun _ _ _ => rfl, record, known, completed, kept, clean⟩

/-- Three batches, one of them empty. -/
def threeBatches : List RecordBatch := [columnless [[], []], columnless [], columnless [[]]]

end Sample

set_option maxRecDepth 20000 in
/-- A result of three batches is tiled by two partitions, neither of which is empty. -/
theorem partitions_tile_three :
    ∃ one two : List RecordBatch, one ++ two = Sample.threeBatches ∧ one ≠ [] ∧ two ≠ [] ∧
      Sample.pager.drainsPartition
        (Sample.run none (Sample.pagedQuery Sample.threeBatches 10)).world 0 2 = some (.ok one) ∧
      Sample.pager.drainsPartition
        (Sample.run none (Sample.pagedQuery Sample.threeBatches 10)).world 1 2 =
          some (.ok two) := by
  have finds := Sample.completesCleanly_finds
    (show Sample.completesCleanly Sample.threeBatches = true by decide +kernel)
  obtain ⟨batches, kept, _, tiles⟩ := partitions_tile_result (S := MemoryState Payload) _ _ _
    Sample.pager _ none finds 2 (by decide)
  cases kept
  obtain ⟨parts, given, whole, _, full⟩ := tiles (by decide)
  have full := full 2 (by decide) (by decide)
  exact ⟨parts 0, parts 1, by simpa [List.range_succ] using whole, full 0 (by decide),
    full 1 (by decide), given 0 (by decide) _ _ finds, given 1 (by decide) _ _ finds⟩

end ConfluxQuery
