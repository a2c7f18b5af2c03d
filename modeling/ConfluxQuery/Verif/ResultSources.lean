import ConfluxQuery.Verif.PlainReads
import ConfluxQuery.Verif.Retention

/-!
# One result from two sources

A completed query is read from its owner's memory or from its owner's spill file. Pages are cut out
of the one and loaded from the other by separate loops, and a partition is read by a reader that
skips and counts batches. Over a file that is read back, all of them give the batches of the result.
-/

namespace ConfluxQuery

/-- Arrow IPC files round-trip: a file that is intact and finished is read back with its batches. -/
def FileIo.Faithful (io : FileIo) : Prop :=
  ∀ file, file.intact = true → file.finished = true → io.read file = .ok (file.batches.map .ok)

/-- A page of a result of some rows in some batches. -/
def resultPageOf (rows : Nat) (batches : List RecordBatch) (offset limit : Nat) : ResultPage :=
  let bounds := pageBounds rows offset limit
  pageOf rows bounds.2 (sliceBatches batches bounds.1 bounds.2)

/-- The batches of a partition of a result. -/
def partitionOf (batches : List RecordBatch) (partition partitions : Nat) : List RecordBatch :=
  let bounds := Gateway.partitionBounds batches.length partition partitions
  (batches.drop bounds.1).take (bounds.2 - bounds.1)

namespace ResultBatchReader

/-- The batches a reader over readable entries gives. -/
def window (batches : List RecordBatch) (skip : Nat) (remaining : Option Nat) : List RecordBatch :=
  match remaining with
  | none => batches.drop skip
  | some count => (batches.drop skip).take count

theorem next_window (batches : List RecordBatch) (skip : Nat) (remaining : Option Nat) :
    next (batches.map .ok) skip remaining = .ok (match window batches skip remaining with
      | [] => none
      | batch :: _ => some (batch, (batches.drop (skip + 1)).map .ok)) := by
  induction batches generalizing skip with
  | nil =>
    cases skip with
    | zero => cases remaining <;> simp [next, window]
    | succ skip => cases remaining <;> simp [next, window]
  | cons batch rest step =>
    cases skip with
    | zero =>
      cases remaining with
      | none => simp [next, window]
      | some count => cases count <;> simp [next, window]
    | succ skip =>
      have rest := step skip
      cases remaining <;> simpa [next, window] using rest

theorem window_cons {batches rest : List RecordBatch} {batch : RecordBatch} {skip : Nat}
    {remaining : Option Nat} (first : window batches skip remaining = batch :: rest) :
    window (batches.drop (skip + 1)) 0 (remaining.map (· - 1)) = rest ∧ skip < batches.length := by
  have inside : skip < batches.length := by
    by_contra beyond
    have none := List.drop_eq_nil_of_le (Nat.le_of_not_lt beyond)
    cases remaining <;> simp [window, none] at first
  refine ⟨?_, inside⟩
  have dropped := List.drop_eq_getElem_cons inside
  cases remaining with
  | none =>
    rw [window, dropped, List.cons.injEq] at first
    simpa [window] using first.2
  | some count =>
    cases count with
    | zero => simp [window] at first
    | succ count =>
      rw [window, dropped, List.take_succ_cons, List.cons.injEq] at first
      simpa [window] using first.2

theorem readUpTo_window (source : ReaderSource) (batches : List RecordBatch) (skip : Nat)
    (remaining : Option Nat) (fuel : Nat) (enough : batches.length < fuel) :
    readUpTo fuel ⟨source, batches.map .ok, skip, remaining⟩ =
      .ok (window batches skip remaining) := by
  induction fuel generalizing batches skip remaining with
  | zero => cases enough
  | succ fuel step =>
    simp only [readUpTo, nextBatch, next_window]
    cases first : window batches skip remaining with
    | nil => rfl
    | cons batch rest =>
      obtain ⟨left, inside⟩ := window_cons first
      have read := step (batches.drop (skip + 1)) 0 (remaining.map (· - 1))
        (by rw [List.length_drop]; omega)
      simp only [read, left]

/-- A reader over readable entries is read to its end. -/
theorem readAll_window (source : ReaderSource) (batches : List RecordBatch) (skip : Nat)
    (remaining : Option Nat) :
    readAll ⟨source, batches.map .ok, skip, remaining⟩ = .ok (window batches skip remaining) :=
  readUpTo_window source batches skip remaining _ (by simp)

end ResultBatchReader

/-- Rows loaded from readable entries are those cut out of the batches. -/
theorem loadFrom_ok (start stop cursor : Nat) (batches : List RecordBatch) :
    loadFrom start stop cursor (batches.map .ok) = .ok (sliceFrom start stop cursor batches) := by
  induction batches generalizing cursor with
  | nil => rfl
  | cons batch rest step =>
    simp only [List.map_cons, loadFrom, sliceFrom, step]
    split <;> rfl

/-- A storage that holds some batches for good gives them to a reader, from memory or from a file
that is read back. -/
theorem ResultStorage.Seals.cases {storage : ResultStorage} {batches : List RecordBatch}
    (seals : storage.Seals batches) {io : FileIo} (faithful : io.Faithful) :
    storage = .memory batches ∨
      ∃ file, storage = .spill file false ∧ io.read file = .ok (batches.map .ok) := by
  cases storage with
  | memory kept => exact .inl (congrArg ResultStorage.memory seals)
  | spill file writing =>
    obtain ⟨rfl, intact, finished, rfl⟩ := seals
    exact .inr ⟨file, rfl, faithful file intact finished⟩

end ConfluxQuery
