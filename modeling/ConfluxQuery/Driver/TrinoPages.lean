import ConfluxQuery.Driver.Sink
import ConfluxQuery.Driver.Trino

/-!
# Pages of the Trino adapter as batches

`page_to_batch` of `qcli-driver-trino`: every row of a page is written as one line of JSON, an
object with a member for each column, and the lines are read back as one batch. How a column is
typed and how a cell is normalised is given by the column's conversions; the JSON writer and reader
are outside the model.
-/

namespace ConfluxQuery.Trino

/-- Conversions of a column and its cells. -/
structure CellCodec (γ ν : Type) where
  name : γ → String
  /-- The column with its Arrow type. -/
  columnField : γ → Except DriverError Field
  /-- A cell in the form its Arrow type is read from. -/
  normalizeValue : γ → ν → Except DriverError ν
  /-- An object as one line of JSON. -/
  write : Registry String ν → String

namespace CellCodec

variable {γ ν : Type} (cells : CellCodec γ ν)

/-- Put the cells of a row into an object, column by column. -/
def rowObject : List γ → List ν → Registry String ν → Except DriverError (Registry String ν)
  | column :: columns, value :: row, object => do
    rowObject columns row (object.insert (cells.name column) (← cells.normalizeValue column value))
  | _, _, object => .ok object

/-- A row as one line. -/
def encodeRow (columns : List γ) (row : List ν) : Except DriverError String := do
  if row.length ≠ columns.length then
    .error ⟨"trino_protocol", "result row has the wrong column count"⟩
  else return cells.write (← cells.rowObject columns row ∅)

/-- Rows as lines. -/
def encodeRows (columns : List γ) : List (List ν) → Except DriverError (List String)
  | [] => .ok []
  | row :: rows => do return (← cells.encodeRow columns row) :: (← encodeRows columns rows)

/-- Bytes of lines, each with a line feed at its end. -/
def encodedLength (lines : List String) : Nat :=
  (lines.map fun line => line.utf8ByteSize + 1).sum

/-- Rows under known columns as a batch. -/
def pageToBatch (reader : LineReader) (columns : List γ) (rows : List (List ν)) :
    Except DriverError RecordBatch := do
  let fields ← columns.mapM cells.columnField
  let lines ← cells.encodeRows columns rows
  match reader.read ⟨fields⟩ (max (encodedLength lines) 1) lines with
  | .error error => .error ⟨"arrow_conversion", error⟩
  | .ok none => .error ⟨"arrow_conversion", "empty Trino result page"⟩
  | .ok (some batch) => .ok batch

end CellCodec

end ConfluxQuery.Trino
