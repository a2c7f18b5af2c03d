import ConfluxQuery.Service.Records

/-!
# Reading retained results

Result readers and pages over retained batches. A reader gives one batch at a time from memory, from
a spill file or from a shared object; a page cuts a range of rows out of the batches, whatever their
boundaries are.
-/

namespace ConfluxQuery

/-- Where a reader takes its batches from. A file comes with the schema it declares. -/
inductive ReaderSource
  | memory
  | spill (schema : Schema)
  | shared (schema : Schema)
  deriving DecidableEq, Repr

/-- A reader of retained batches: what its source will still give, the batches to pass over, and
the batches to give after those. -/
structure ResultBatchReader where
  source : ReaderSource
  entries : FileReader
  skip : Nat
  /-- Batches still to give; no bound when absent. -/
  remaining : Option Nat

namespace ResultBatchReader

/-- Read the next batch, after passing over those to skip. -/
def next (entries : FileReader) (skip : Nat) (remaining : Option Nat) :
    Except ServiceError (Option (RecordBatch × FileReader)) :=
  match skip, entries with
  | skip + 1, .ok _ :: rest => next rest skip remaining
  | _ + 1, .error message :: _ => .error (storageServiceError message)
  | _ + 1, [] => .ok none
  | 0, entries =>
    if remaining = some 0 then .ok none
    else match entries with
      | [] => .ok none
      | .ok batch :: rest => .ok (some (batch, rest))
      | .error message :: _ => .error (storageServiceError message)

/-- Read the next batch and move the reader on. -/
def nextBatch (reader : ResultBatchReader) :
    Except ServiceError (Option (RecordBatch × ResultBatchReader)) :=
  match next reader.entries reader.skip reader.remaining with
  | .error error => .error error
  | .ok none => .ok none
  | .ok (some (batch, rest)) =>
    .ok (some (batch, ⟨reader.source, rest, 0, reader.remaining.map (· - 1)⟩))

/-- Read at most `fuel` batches. -/
def readUpTo : Nat → ResultBatchReader → Except ServiceError (List RecordBatch)
  | 0, _ => .ok []
  | fuel + 1, reader =>
    match reader.nextBatch with
    | .error error => .error error
    | .ok none => .ok []
    | .ok (some (batch, reader)) =>
      match readUpTo fuel reader with
      | .error error => .error error
      | .ok rest => .ok (batch :: rest)

/-- Read a reader to its end; every batch uses up an entry of the source. -/
def readAll (reader : ResultBatchReader) : Except ServiceError (List RecordBatch) :=
  readUpTo (reader.entries.length + 1) reader

end ResultBatchReader

/-- One page of a result. -/
structure ResultPage where
  /-- Rows of the page, in batches. -/
  batches : List RecordBatch
  totalRows : Nat
  nextOffset : Option Nat
  deriving DecidableEq, Repr

/-- The part of a batch at `cursor` that lies between two rows of the result. -/
def overlap (start stop cursor batchEnd : Nat) (batch : RecordBatch) : List RecordBatch :=
  let overlapStart := max start cursor
  let overlapEnd := min stop batchEnd
  if overlapStart < overlapEnd then
    [batch.slice (overlapStart - cursor) (overlapEnd - overlapStart)]
  else []

/-- Cut the rows between `start` and `stop` out of batches, the first of which is at `cursor`. -/
def sliceFrom (start stop : Nat) : Nat → List RecordBatch → List RecordBatch
  | _, [] => []
  | cursor, batch :: rest =>
    let batchEnd := wrappingAdd cursor batch.numRows
    let output := overlap start stop cursor batchEnd batch
    if batchEnd ≥ stop then output else output ++ sliceFrom start stop batchEnd rest

/-- Cut the rows between `start` and `stop` out of batches. -/
def sliceBatches (batches : List RecordBatch) (start stop : Nat) : List RecordBatch :=
  sliceFrom start stop 0 batches

/-- Cut the rows between `start` and `stop` out of the batches a reader gives. -/
def loadFrom (start stop : Nat) : Nat → FileReader → Except ServiceError (List RecordBatch)
  | _, [] => .ok []
  | _, .error message :: _ => .error (storageServiceError message)
  | cursor, .ok batch :: rest =>
    let batchEnd := wrappingAdd cursor batch.numRows
    let output := overlap start stop cursor batchEnd batch
    if batchEnd ≥ stop then .ok output
    else match loadFrom start stop batchEnd rest with
      | .error error => .error error
      | .ok more => .ok (output ++ more)

/-- The rows a page covers. -/
def pageBounds (rows offset limit : Nat) : Nat × Nat :=
  let start := min offset rows
  (start, min (saturatingAdd start (max limit 1)) rows)

/-- A page from its batches. -/
def pageOf (rows stop : Nat) (batches : List RecordBatch) : ResultPage :=
  ⟨batches, rows, if stop < rows then some stop else none⟩

end ConfluxQuery
