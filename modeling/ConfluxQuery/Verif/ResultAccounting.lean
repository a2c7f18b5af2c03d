import ConfluxQuery.Verif.EventStream
import ConfluxQuery.Verif.Retention

/-!
# Accounting of retained results

What the gateway counts of the batches it retains. A batch is tested against the limits by a
saturating addition, and counted by a plain one. The test bounds the bytes, unless the limit is the
largest machine word; nothing bounds the rows, since a batch without columns has rows and no bytes.
-/

namespace ConfluxQuery

/-- Storing a batch fails: the result would pass its limit, or the file it has to be written to
cannot be made, written or is closed. -/
def QueryData.refuses (limits : ServiceLimits) (io : FileIo) (batch : RecordBatch)
    (data : QueryData) : Bool :=
  let bytes := saturatingAdd data.retainedBytes batch.memorySize
  decide (limits.maxResultBytesPerQuery < bytes) ||
    match data.storage with
    | .memory existing => decide (limits.memoryResultBytesPerQuery < bytes) &&
        !(io.create.isOk && io.header.isOk &&
          (List.range (existing.length + 1)).all fun position => (io.write position).isOk)
    | .spill _ true => !(io.write 0).isOk
    | .spill _ false => true

/-- Batches are written when all their writes succeed. -/
theorem IpcFile.writeAll_isOk (io : FileIo) (position : Nat) (file : IpcFile)
    (batches : List RecordBatch) : (IpcFile.writeAll io position file batches).isOk =
      (List.range' position batches.length).all fun position => (io.write position).isOk := by
  induction batches generalizing position file with
  | nil => rfl
  | cons batch rest step =>
    simp only [writeAll, List.length_cons, List.range'_succ, List.all_cons]
    cases written : io.write position with
    | error => rfl
    | ok => simpa [written, Except.isOk, Except.toBool] using step (position + 1) _

theorem spillBatch_isOk (io : FileIo) (position : Nat) (file : IpcFile) (batch : RecordBatch)
    (data : QueryData) :
    (spillBatch io position file batch data).1.isOk = (io.write position).isOk := by
  unfold spillBatch
  cases io.write position <;> rfl

/-- All writes of a spill succeed when the batches so far and the new one are written. -/
theorem all_written (io : FileIo) (schema : Schema) (existing : List RecordBatch) :
    ((List.range (existing.length + 1)).all fun position => (io.write position).isOk) =
      ((IpcFile.writeAll io 0 (IpcFile.start schema) existing).isOk &&
        (io.write existing.length).isOk) := by
  rw [IpcFile.writeAll_isOk, List.range_succ, List.all_append, List.range_eq_range']
  simp only [List.all_cons, List.all_nil, Bool.and_true]

/-- Storing a batch fails exactly when it is refused. -/
theorem storeBatch_isOk (limits : ServiceLimits) (io : FileIo) (batch : RecordBatch)
    (data : QueryData) :
    (storeBatch limits io batch data).1.isOk = !data.refuses limits io batch := by
  have retained : (if data.schema.isNone then { data with schema := some batch.schema }
      else data).retainedBytes = data.retainedBytes := by split <;> rfl
  have storage : (if data.schema.isNone then { data with schema := some batch.schema }
      else data).storage = data.storage := by split <;> rfl
  simp only [storeBatch, QueryData.refuses, retained, storage]
  split
  · next isOver => simp [isOver, Except.isOk, Except.toBool]
  · next within =>
    cases kept : data.storage with
    | memory existing =>
      dsimp only
      split
      · next large =>
        cases created : io.create with
        | error => simp [large, Except.isOk, Except.toBool]
        | ok =>
          cases headed : io.header with
          | error => simp [large, Except.isOk, Except.toBool]
          | ok =>
            dsimp only
            cases written : IpcFile.writeAll io 0 (IpcFile.start batch.schema) existing with
            | error =>
              rw [all_written io batch.schema, written]
              simp [large, Except.isOk, Except.toBool]
            | ok file =>
              rw [all_written io batch.schema, written, spillBatch_isOk]
              simp [within, large, Except.isOk, Except.toBool]
      · next small => simp [within, small, Except.isOk, Except.toBool]
    | spill file writing =>
      cases writing with
      | true => simp [within, spillBatch_isOk]
      | false => simp [Except.isOk, Except.toBool]

namespace ResultStorage

/-- The batches that are retained. -/
def held : ResultStorage → List RecordBatch
  | .memory batches => batches
  | .spill file _ => file.batches

theorem Keeps.held {storage : ResultStorage} {batches : List RecordBatch}
    (keeps : storage.Keeps batches) : storage.held = batches := by
  cases storage with
  | memory kept => exact keeps
  | spill file writing => exact keeps.2.2

end ResultStorage

/-- Memory of some batches. -/
def totalBytes (batches : List RecordBatch) : Nat :=
    (batches.map fun batch => batch.columns.sum).sum

/-- Memory of one more batch. -/
theorem totalBytes_append (batches : List RecordBatch) (batch : RecordBatch) :
    totalBytes (batches ++ [batch]) = totalBytes batches + batch.columns.sum := by
  simp [totalBytes]

/-- Rows of one more batch. -/
theorem totalRows_append (batches : List RecordBatch) (batch : RecordBatch) :
    totalRows (batches ++ [batch]) = totalRows batches + batch.numRows := by
  simp [totalRows, rowsOf, RecordBatch.numRows]

/-- No file operation of a section fails. -/
structure FileIo.Works (io : FileIo) : Prop where
  create : io.create = .ok ()
  header : io.header = .ok ()
  write : ∀ position, io.write position = .ok ()

/-- A batch would take the result over its limit. -/
def QueryData.exceeds (limits : ServiceLimits) (batch : RecordBatch) (data : QueryData) : Prop :=
  limits.maxResultBytesPerQuery < saturatingAdd data.retainedBytes batch.memorySize

/-- A batch over the limit is rejected, and nothing but the schema can change. -/
theorem storeBatch_over {limits : ServiceLimits} {batch : RecordBatch} {data : QueryData}
    (isOver : data.exceeds limits batch) (io : FileIo) :
    ∃ error schema, storeBatch limits io batch data =
      (.error error, { data with schema := schema }) := by
  obtain ⟨schema, seen⟩ := data.schema_noted batch
  unfold storeBatch
  simp only [seen]
  split
  · exact ⟨_, schema, rfl⟩
  · next within => exact absurd isOver within

/-- A batch within the limit is accepted while the result is open and files work. -/
theorem QueryData.accepts {limits : ServiceLimits} {io : FileIo} {batch : RecordBatch}
    {data : QueryData} {kept : List RecordBatch} (within : ¬data.exceeds limits batch)
    (works : io.Works)
    (keeps : data.storage.Keeps kept) : data.refuses limits io batch = false := by
  have within : decide (limits.maxResultBytesPerQuery <
      saturatingAdd data.retainedBytes batch.memorySize) = false := decide_eq_false within
  simp only [QueryData.refuses, within, Bool.false_or]
  cases storage : data.storage with
  | memory existing =>
    simp [works.create, works.header, works.write, Except.isOk, Except.toBool]
  | spill file writing =>
    rw [storage] at keeps
    obtain ⟨rfl, _⟩ := keeps
    simp [works.write, Except.isOk, Except.toBool]

/-- A batch that goes to a file leaves the result there. -/
theorem spillBatch_spills {io : FileIo} {position : Nat} {file : IpcFile} {batch : RecordBatch}
    {data after : QueryData} {reply : Except QueryError Unit} {kept : List RecordBatch}
    (spilled : spillBatch io position file batch data = (reply, after)) :
    after.storage ≠ .memory kept := by
  intro memory
  unfold spillBatch at spilled
  split at spilled <;> cases spilled <;> cases memory

/-- A result that is still in memory after a batch was accepted is within the memory limit. -/
theorem storeBatch_memory {limits : ServiceLimits} {io : FileIo} {batch : RecordBatch}
    {data after : QueryData} {kept : List RecordBatch}
    (stored : storeBatch limits io batch data = (.ok (), after))
    (memory : after.storage = .memory kept) :
    saturatingAdd data.retainedBytes batch.memorySize ≤ limits.memoryResultBytesPerQuery := by
  obtain ⟨schema, seen⟩ := data.schema_noted batch
  unfold storeBatch at stored
  simp only [seen] at stored
  split at stored
  · cases stored
  · split at stored
    · split at stored
      · split at stored
        · cases stored
        · cases stored
        · split at stored
          · cases stored
          · exact absurd memory (spillBatch_spills stored)
      · next small => exact Nat.le_of_not_lt small
    · exact absurd memory (spillBatch_spills stored)
    · cases stored

/-- A batch within the limit is counted and kept while the result is open and files work. -/
theorem storeBatch_within {limits : ServiceLimits} {io : FileIo} {batch : RecordBatch}
    {data : QueryData} {kept : List RecordBatch} (within : ¬data.exceeds limits batch)
    (works : io.Works) (keeps : data.storage.Keeps kept) :
    ∃ after, storeBatch limits io batch data = (.ok (), after) ∧
      after.rows = wrappingAdd data.rows batch.numRows ∧
      after.retainedBytes = wrappingAdd data.retainedBytes batch.memorySize ∧
      after.storage.Keeps (kept ++ [batch]) := by
  have accepted := storeBatch_isOk limits io batch data
  rw [QueryData.accepts within works keeps] at accepted
  have stored := storeBatch_stored limits io batch data
  cases called : storeBatch limits io batch data with
  | mk reply after =>
    rw [called] at accepted stored
    cases reply with
    | error error => cases accepted
    | ok => exact ⟨after, rfl, (stored.keeps keeps).2⟩

/-- The account of one call: what is counted is what is retained, within the limits and in memory
only within the memory limit; a rejected batch changes none of it; and no addition overflows. -/
structure Accounts (limits : ServiceLimits) (batch : RecordBatch) (before : QueryData)
    (result : Except QueryError Unit × QueryData) : Prop where
  /-- Rows are those of the batches retained. -/
  rows : result.2.rows = totalRows result.2.storage.held
  /-- Bytes are those of the batches retained. -/
  bytes : result.2.retainedBytes = totalBytes result.2.storage.held
  limited : result.2.retainedBytes ≤ limits.maxResultBytesPerQuery
  /-- A result in memory is within the memory limit. -/
  memory : ∀ batches, result.2.storage = .memory batches →
    result.2.retainedBytes ≤ limits.memoryResultBytesPerQuery
  /-- A rejected batch changes nothing that is counted. -/
  rejected : ∀ error, result.1 = .error error → result.2.storage = before.storage ∧
    result.2.rows = before.rows ∧ result.2.retainedBytes = before.retainedBytes
  /-- The columns of the batch add up in a machine word. -/
  size : batch.columns.sum < 2 ^ 64
  /-- So do the rows and the bytes of an accepted batch and of those before it. -/
  sums : result.1 = .ok () → before.rows + batch.numRows < 2 ^ 64 ∧
    before.retainedBytes + batch.memorySize < 2 ^ 64

/-- The batches retained after one more, by numbers that do not overflow. -/
def retainBatch (limits : ServiceLimits) (kept : List RecordBatch) (batch : RecordBatch) :
    List RecordBatch :=
  if limits.maxResultBytesPerQuery < saturatingAdd (totalBytes kept) batch.columns.sum then kept
  else kept ++ [batch]

/-- What is counted of the batches retained so far. -/
structure Counted (limits : ServiceLimits) (kept : List RecordBatch) (data : QueryData) : Prop where
  /-- The result is open and holds the batches. -/
  keeps : data.storage.Keeps kept
  rows : data.rows = totalRows kept
  bytes : data.retainedBytes = totalBytes kept
  limited : data.retainedBytes ≤ limits.maxResultBytesPerQuery
  /-- A result in memory is within the memory limit. -/
  memory : ∀ batches, data.storage = .memory batches →
    data.retainedBytes ≤ limits.memoryResultBytesPerQuery

/-- Rows and bytes of some batches fit into machine words. -/
def Countable (batches : List RecordBatch) : Prop :=
  totalRows batches < 2 ^ 64 ∧ totalBytes batches < 2 ^ 64

section

variable {limits : ServiceLimits} {kept : List RecordBatch} {data : QueryData} {batch : RecordBatch}
  {io : FileIo}

/-- A rejected batch is accounted for, and leaves the numbers exact. -/
theorem Counted.reject (counted : Counted limits kept data) (size : batch.columns.sum < 2 ^ 64)
    (isOver : data.exceeds limits batch) (io : FileIo) :
    Accounts limits batch data (storeBatch limits io batch data) ∧
      Counted limits kept (storeBatch limits io batch data).2 := by
  obtain ⟨error, schema, called⟩ := storeBatch_over isOver io
  rw [called]
  have held : data.storage.held = kept := counted.keeps.held
  refine ⟨⟨?_, ?_, counted.limited, counted.memory, fun _ _ => ⟨rfl, rfl, rfl⟩, size, ?_⟩,
    ⟨counted.keeps, counted.rows, counted.bytes, counted.limited, counted.memory⟩⟩
  · rw [held]
    exact counted.rows
  · rw [held]
    exact counted.bytes
  · intro accepted
    cases accepted

/-- An accepted batch leaves the numbers exact when the batches can be counted. -/
theorem Counted.accept (counted : Counted limits kept data) (works : io.Works)
    (size : batch.columns.sum < 2 ^ 64) (within : ¬data.exceeds limits batch)
    (countable : Countable (kept ++ [batch])) :
    Accounts limits batch data (storeBatch limits io batch data) ∧
      Counted limits (kept ++ [batch]) (storeBatch limits io batch data).2 := by
  obtain ⟨after, called, rows, bytes, keeps⟩ := storeBatch_within within works counted.keeps
  obtain ⟨fewRows, fewBytes⟩ := countable
  have exactSize : batch.memorySize = batch.columns.sum := Nat.mod_eq_of_lt size
  rw [totalRows_append, ← counted.rows] at fewRows
  rw [totalBytes_append, ← counted.bytes, ← exactSize] at fewBytes
  have rows : after.rows = totalRows (kept ++ [batch]) := by
    rw [rows, wrappingAdd, Nat.mod_eq_of_lt fewRows, totalRows_append, counted.rows]
  have sum : after.retainedBytes = data.retainedBytes + batch.memorySize := by
    rw [bytes, wrappingAdd, Nat.mod_eq_of_lt fewBytes]
  have bytes : after.retainedBytes = totalBytes (kept ++ [batch]) := by
    rw [sum, totalBytes_append, counted.bytes, exactSize]
  -- Below the largest word the saturating sum of the tests is the sum.
  have saturated : saturatingAdd data.retainedBytes batch.memorySize = after.retainedBytes := by
    rw [sum, saturatingAdd, usizeMax]
    omega
  have limited : after.retainedBytes ≤ limits.maxResultBytesPerQuery := by
    rw [← saturated]
    exact Nat.le_of_not_lt within
  have memory : ∀ batches, after.storage = .memory batches →
      after.retainedBytes ≤ limits.memoryResultBytesPerQuery := by
    intro batches held
    rw [← saturated]
    exact storeBatch_memory called held
  rw [called]
  refine ⟨⟨?_, ?_, limited, memory, ?_, size, fun _ => ⟨fewRows, fewBytes⟩⟩,
    ⟨keeps, rows, bytes, limited, memory⟩⟩
  · rw [keeps.held]
    exact rows
  · rw [keeps.held]
    exact bytes
  · intro error rejected
    cases rejected

/-- With exact numbers so far, a call is accounted for just where the columns of its batch add up
and the batches then retained can be counted; the numbers are then exact again. -/
theorem Counted.step (counted : Counted limits kept data) (countable : Countable kept)
    (works : io.Works) :
    (Accounts limits batch data (storeBatch limits io batch data) ↔
      batch.columns.sum < 2 ^ 64 ∧ Countable (retainBatch limits kept batch)) ∧
    (batch.columns.sum < 2 ^ 64 → Countable (retainBatch limits kept batch) →
      Counted limits (retainBatch limits kept batch) (storeBatch limits io batch data).2) := by
  by_cases size : batch.columns.sum < 2 ^ 64
  · have exactSize : batch.memorySize = batch.columns.sum := Nat.mod_eq_of_lt size
    have rule : retainBatch limits kept batch = if limits.maxResultBytesPerQuery <
        saturatingAdd data.retainedBytes batch.memorySize then kept else kept ++ [batch] := by
      rw [retainBatch, counted.bytes, exactSize]
    rw [rule]
    split
    · next isOver =>
      obtain ⟨accounts, after⟩ := counted.reject size isOver io
      exact ⟨⟨fun _ => ⟨size, countable⟩, fun _ => accounts⟩, fun _ _ => after⟩
    · next within =>
      refine ⟨⟨fun accounts => ⟨size, ?_⟩, fun fits =>
        (counted.accept works size within fits.2).1⟩, fun _ fits =>
          (counted.accept works size within fits).2⟩
      obtain ⟨after, called, _⟩ := storeBatch_within within works counted.keeps
      obtain ⟨fewRows, fewBytes⟩ := accounts.sums (by rw [called])
      rw [counted.rows] at fewRows
      rw [counted.bytes, exactSize] at fewBytes
      rw [Countable, totalRows_append, totalBytes_append]
      exact ⟨fewRows, fewBytes⟩
  · exact ⟨⟨fun accounts => absurd accounts.size size, fun fits => absurd fits.1 size⟩,
      fun fits => absurd fits size⟩

/-- One call of the collector: a batch, and what the file operations do meanwhile. -/
structure StoreCall where
  batch : RecordBatch
  io : FileIo

/-- The data of a query after some calls. -/
def storeBatches (limits : ServiceLimits) (calls : List StoreCall) : QueryData :=
  calls.foldl (fun data call => (storeBatch limits call.io call.batch data).2) .submitted

/-- The batches retained of those given, by numbers that do not overflow. -/
def retained (limits : ServiceLimits) (batches : List RecordBatch) : List RecordBatch :=
  batches.foldl (retainBatch limits) []

/-- No number of a sequence of batches overflows: the columns of each add up in a machine word, and
so do the rows and the bytes of those that are retained. -/
structure Fits (limits : ServiceLimits) (batches : List RecordBatch) : Prop where
  sizes : ∀ batch ∈ batches, batch.columns.sum < 2 ^ 64
  /-- Rows of the batches retained. -/
  rows : totalRows (retained limits batches) < 2 ^ 64
  /-- Bytes of the batches retained. -/
  bytes : totalBytes (retained limits batches) < 2 ^ 64

/-- Retaining one more batch does not lower the numbers. -/
theorem Countable.of_retainBatch (countable : Countable (retainBatch limits kept batch)) :
    Countable kept := by
  unfold retainBatch at countable
  split at countable
  · exact countable
  · obtain ⟨rows, bytes⟩ := countable
    rw [totalRows_append] at rows
    rw [totalBytes_append] at bytes
    exact ⟨by omega, by omega⟩

theorem fits_append (limits : ServiceLimits) (batches : List RecordBatch) (batch : RecordBatch) :
    Fits limits (batches ++ [batch]) ↔ Fits limits batches ∧ batch.columns.sum < 2 ^ 64 ∧
      Countable (retainBatch limits (retained limits batches) batch) := by
  have last : retained limits (batches ++ [batch]) =
      retainBatch limits (retained limits batches) batch := by
    simp [retained]
  constructor
  · rintro ⟨sizes, rows, bytes⟩
    rw [last] at rows bytes
    obtain ⟨rowsBefore, bytesBefore⟩ := Countable.of_retainBatch ⟨rows, bytes⟩
    exact ⟨⟨fun other given => sizes other (List.mem_append_left _ given), rowsBefore, bytesBefore⟩,
      sizes batch (by simp), rows, bytes⟩
  · rintro ⟨before, size, rows, bytes⟩
    refine ⟨fun other given => ?_, by rw [last]; exact rows, by rw [last]; exact bytes⟩
    rcases List.mem_append.mp given with earlier | same
    · exact before.sizes other earlier
    · rw [List.mem_singleton.mp same]
      exact size

/-- Every call of a sequence is accounted for. -/
def AllAccounted (limits : ServiceLimits) (calls : List StoreCall) : Prop :=
  ∀ before call after, calls = before ++ call :: after →
    Accounts limits call.batch (storeBatches limits before)
      (storeBatch limits call.io call.batch (storeBatches limits before))

theorem allAccounted_append (limits : ServiceLimits) (calls : List StoreCall) (last : StoreCall) :
    AllAccounted limits (calls ++ [last]) ↔ AllAccounted limits calls ∧
      Accounts limits last.batch (storeBatches limits calls)
        (storeBatch limits last.io last.batch (storeBatches limits calls)) := by
  constructor
  · intro accounted
    refine ⟨fun before call after same => ?_, accounted calls last [] rfl⟩
    exact accounted before call (after ++ [last]) (by rw [same]; simp)
  · rintro ⟨earlier, ended⟩ before call after same
    rcases List.eq_nil_or_concat after with rfl | ⟨rest, final, rfl⟩
    · obtain ⟨rfl, rfl⟩ := List.append_inj' same rfl |>.imp id (List.cons.inj · |>.1)
      exact ended
    · refine earlier before call rest ?_
      have same : calls ++ [last] = (before ++ call :: rest) ++ [final] := by
        rw [same]
        simp
      exact (List.append_inj' same rfl).1

/-- The numbers are exact after calls of which no number overflows. -/
theorem storeBatches_accounted (limits : ServiceLimits) (calls : List StoreCall)
    (works : ∀ call ∈ calls, call.io.Works) :
    (AllAccounted limits calls ↔ Fits limits (calls.map (·.batch))) ∧
    (Fits limits (calls.map (·.batch)) →
      Counted limits (retained limits (calls.map (·.batch))) (storeBatches limits calls)) := by
  -- By induction on the calls from the last one: the step lemma extends both sides by one call.
  induction calls using List.reverseRecOn with
  | nil =>
    have positive : 0 < 2 ^ 64 := by decide
    refine ⟨⟨fun _ => ⟨fun _ given => ?_, positive, positive⟩,
      fun _ before call after impossible => ?_⟩, fun _ => ⟨rfl, rfl, rfl, Nat.zero_le _,
        fun _ _ => Nat.zero_le _⟩⟩
    · cases given
    · cases before <;> cases impossible
  | append_singleton calls last step =>
    obtain ⟨same, counts⟩ := step fun call given => works call (List.mem_append_left _ given)
    have lastWorks : last.io.Works := works last (by simp)
    have batches : (calls ++ [last]).map (·.batch) = calls.map (·.batch) ++ [last.batch] := by simp
    have extended : storeBatches limits (calls ++ [last]) =
        (storeBatch limits last.io last.batch (storeBatches limits calls)).2 := by
      simp [storeBatches]
    have kept : retained limits (calls.map (·.batch) ++ [last.batch]) =
        retainBatch limits (retained limits (calls.map (·.batch))) last.batch := by
      simp [retained]
    rw [allAccounted_append, batches, fits_append, same, extended, kept]
    refine ⟨and_congr_right fun fits => ?_, fun ⟨fits, size, countable⟩ => ?_⟩
    · exact ((counts fits).step ⟨fits.rows, fits.bytes⟩ lastWorks).1
    · exact ((counts fits).step ⟨fits.rows, fits.bytes⟩ lastWorks).2 size countable

/-- Over every sequence of batches that is given to the gateway without a failure of files, every
call is accounted for, wherever rejected batches stand, just where no number overflows: the sizes of
the columns of each batch add up in a machine word, and so do the rows and the bytes of the batches
retained. -/
theorem accounting_exact_iff (limits : ServiceLimits) (calls : List StoreCall)
    (works : ∀ call ∈ calls, call.io.Works) :
    AllAccounted limits calls ↔ Fits limits (calls.map (·.batch)) :=
  (storeBatches_accounted limits calls works).1

end

namespace Sample

/-- The sample's files work. -/
theorem io_works : io.Works := ⟨rfl, rfl, fun _ => rfl⟩

/-- A batch with one column of some size and one row. -/
def sized (bytes : Nat) : RecordBatch := ⟨Schema.empty, [bytes], [[]]⟩

end Sample

/-- Of three batches under a limit of ten bytes, five of them in memory, the second is rejected and
the third moves the result to a file; all three calls are accounted for. -/
theorem accounting_exact_three :
    let limits : ServiceLimits :=
      { memoryResultBytesPerQuery := 5, maxResultBytesPerQuery := 10 }
    let calls : List StoreCall :=
      [⟨Sample.sized 4, Sample.io⟩, ⟨Sample.sized 7, Sample.io⟩, ⟨Sample.sized 6, Sample.io⟩]
    retained limits (calls.map (·.batch)) = [Sample.sized 4, Sample.sized 6] ∧
      AllAccounted limits calls := by
  intro limits calls
  refine ⟨by decide, (accounting_exact_iff limits calls ?_).mpr ⟨by decide, by decide, by decide⟩⟩
  intro call given
  simp only [calls, List.mem_cons, List.not_mem_nil, or_false] at given
  rcases given with rfl | rfl | rfl <;> exact Sample.io_works

/-- Two batches without columns, of 2⁶³ rows each, are both retained and counted as no rows. -/
theorem accounting_wraps_rows :
    let tall := Sample.columnless (List.replicate (2 ^ 63) [])
    let calls : List StoreCall := [⟨tall, Sample.io⟩, ⟨tall, Sample.io⟩]
    (storeBatches {} calls).storage.held = [tall, tall] ∧ totalRows [tall, tall] = 2 ^ 64 ∧
      (storeBatches {} calls).rows = 0 ∧ ¬AllAccounted {} calls := by
  intro tall calls
  have height : tall.numRows = 2 ^ 63 := List.length_replicate
  have held : (storeBatches {} calls).storage.held = [tall, tall] := rfl
  have total : totalRows [tall, tall] = 2 ^ 64 := by
    rw [totalRows_cons, totalRows_cons, height]
    rfl
  have rows : (storeBatches {} calls).rows = 0 := by
    change wrappingAdd (wrappingAdd 0 tall.numRows) tall.numRows = 0
    rw [height]
    rfl
  refine ⟨held, total, rows, fun accounted => ?_⟩
  have exact_ := (accounted [⟨tall, Sample.io⟩] ⟨tall, Sample.io⟩ [] rfl).rows
  have counted : (storeBatches {} calls).rows = totalRows (storeBatches {} calls).storage.held :=
    exact_
  rw [rows, held, total] at counted
  cases counted

end ConfluxQuery
