import ConfluxQuery.Lib.Json
import ConfluxQuery.Lib.Quoting
import ConfluxQuery.Output.Decimals
import Mathlib

/-!
# Streaming output

`StreamOutput` of `qcli-output`: batches are written one after the other, as delimited text or as
JSON. The Arrow writers and the JSON library are parameters. Writing to the sink succeeds; the table
and the vertical format, which are for people, are given as texts.
-/

namespace ConfluxQuery.Output

/-- The formats of a result. -/
inductive OutputFormat
  | table
  | vertical
  | csv
  | tsv
  | json
  | jsonLines
deriving DecidableEq

/-- A value of a column; numbers that are not decimals are the numerals Arrow writes for them. -/
inductive Cell
  | null
  | boolean (value : Bool)
  | text (value : String)
  | number (numeral : String)
  | decimal (value scale : Int)
  | list (items : List Cell)
  | struct (members : List (String × Cell))

/-- A column: its name, and its scale when it is a `Decimal128` column. -/
structure Column where
  name : String
  scale : Option Int
deriving DecidableEq

/-- A decimal column has decimals of its scale, another column has none; each may be null. -/
def Column.Holds (column : Column) : Cell → Prop
  | .null => True
  | .decimal _ scale => column.scale = some scale
  | _ => column.scale = none

/-- A batch of rows, each with a value for every column. -/
structure Batch (columns : List Column) where
  rows : List (List Cell)
  /-- Every row has the values its columns hold. -/
  holds : ∀ row ∈ rows, List.Forall₂ Column.Holds columns row

/-- The Arrow CSV writer: the text of a value, and which fields it puts in quotes. -/
structure CsvWriter where
  /-- Text of a value that is not null. -/
  render : Cell → List Char
  /-- A string is its own text. -/
  render_text : ∀ value, render (.text value) = value.toList
  /-- Whether a field is quoted, by the delimiter, the number of fields and the text. -/
  quotes : Char → Nat → List Char → Bool
  /-- Fields with a delimiter, a quote or a line break are quoted. -/
  quotes_special : ∀ delimiter count text,
    (∃ character ∈ text, character ∈ [delimiter, '"', '\r', '\n']) →
      quotes delimiter count text = true

namespace CsvWriter

variable (csv : CsvWriter)

/-- A field, in quotes with its own quotes doubled where it has to be. -/
def field (delimiter : Char) (count : Nat) (text : List Char) : List Char :=
  if csv.quotes delimiter count text then Quoting.wrapped '"' text else text

/-- The fields of a record and its line break. -/
def fields (delimiter : Char) (count : Nat) : List (List Char) → List Char
  | [] => ['\n']
  | [last] => csv.field delimiter count last ++ ['\n']
  | text :: rest => csv.field delimiter count text ++ delimiter :: fields delimiter count rest

/-- A record of texts. -/
def record (delimiter : Char) (texts : List (List Char)) : List Char :=
  csv.fields delimiter texts.length texts

/-- The text of a value, with `NULL` for a missing one. -/
def cell : Cell → List Char
  | .null => "NULL".toList
  | value => csv.render value

/-- The texts of a batch, after a header when one is asked for. -/
def write {columns : List Column} (delimiter : Char) (header : Bool) (batch : Batch columns) :
    List Char :=
  (if header then csv.record delimiter (columns.map fun column => column.name.toList) else []) ++
    batch.rows.flatMap fun row => csv.record delimiter (row.map csv.cell)

end CsvWriter

/-- The Arrow JSON writer and the JSON library, as far as rows go through them. -/
structure JsonCodec where
  /-- The numeral Arrow writes for a decimal. -/
  numeral : Int → Int → String
  /-- The text of the double that the library reads from a numeral. -/
  float : String → String
  print : JsonValue → List Char

/-- The integers the library keeps: those without a sign and those below zero, in 64 bits. -/
def keptInteger? : List Char → Option Int
  | '-' :: digits =>
    ((Numeral.digits? digits).filter fun number => 0 < number ∧ number ≤ 2 ^ 63).map
      fun number : Nat => -(number : Int)
  | digits => ((Numeral.digits? digits).filter (· < 2 ^ 64)).map Int.ofNat

namespace JsonCodec

variable (codec : JsonCodec)

/-- The number that the library reads from a numeral. -/
def again (numeral : String) : JsonValue :=
  match keptInteger? numeral.toList with
  | some value => .integer value
  | none => .float (codec.float numeral)

mutual

/-- A value that Arrow has written and the library has read. -/
def reread : Cell → JsonValue
  | .null => .null
  | .boolean value => .bool value
  | .text value => .string value
  | .number numeral => codec.again numeral
  | .decimal value scale => codec.again (codec.numeral value scale)
  | .list items => .array (rereadItems items)
  | .struct members => .object (JsonValue.setMembers [] (rereadMembers members))

/-- The items of a list, read again. -/
def rereadItems : List Cell → List JsonValue
  | [] => []
  | item :: rest => reread item :: rereadItems rest

/-- The members of a struct, read again. -/
def rereadMembers : List (String × Cell) → List (String × JsonValue)
  | [] => []
  | (name, value) :: rest => (name, reread value) :: rereadMembers rest

end

/-- The members of a row that Arrow has written and the library has read: a repeated name replaces
the member that was there. -/
def encoded (columns : List Column) (row : List Cell) : List (String × JsonValue) :=
  JsonValue.setMembers [] ((columns.zip row).map fun entry => (entry.1.name, codec.reread entry.2))

end JsonCodec

/-- A decimal of a row is made a string. -/
def stringifyDecimal (members : List (String × JsonValue)) (entry : Column × Cell) :
    List (String × JsonValue) :=
  match entry.1.scale, entry.2 with
  | some scale, .decimal value _ =>
    JsonValue.setMember entry.1.name (.string (exactDecimal value scale)) members
  | _, _ => members

/-- The decimals of a row are made strings, column by column. -/
def stringifyDecimals (columns : List Column) (row : List Cell)
    (members : List (String × JsonValue)) : List (String × JsonValue) :=
  (columns.zip row).foldl stringifyDecimal members

/-- A row as it is written. -/
def JsonCodec.row (codec : JsonCodec) (columns : List Column) (row : List Cell) : JsonValue :=
  .object (stringifyDecimals columns row (codec.encoded columns row))

/-- The output so far and what it remembers. -/
structure StreamOutput where
  writer : List Char
  format : OutputFormat
  wroteBatch : Bool
  /-- A JSON row was written. -/
  wroteJsonRow : Bool
  rows : Nat

namespace StreamOutput

/-- Start an output. -/
def new (format : OutputFormat) : StreamOutput :=
  ⟨if format = .json then ['['] else [], format, false, false, 0⟩

/-- Write a text. -/
def writeAll (output : StreamOutput) (text : List Char) : StreamOutput :=
  { output with writer := output.writer ++ text }

variable {columns : List Column} (csv : CsvWriter) (codec : JsonCodec)
  (human : StreamOutput → List (List Cell) → List Char)

/-- Write a batch as delimited text. -/
def writeDelimited (output : StreamOutput) (batch : Batch columns) : StreamOutput :=
  let delimiter := if output.format = .csv then ',' else '\t'
  output.writeAll (csv.write delimiter (!output.wroteBatch) batch)

/-- Write one row as JSON. -/
def writeRow (output : StreamOutput) (row : JsonValue) : StreamOutput :=
  let output := if output.format = .json ∧ output.wroteJsonRow then output.writeAll [',']
    else output
  let output := output.writeAll (codec.print row)
  let output := if output.format = .jsonLines then output.writeAll ['\n'] else output
  { output with wroteJsonRow := true }

/-- Write a batch as JSON. -/
def writeJson (output : StreamOutput) (batch : Batch columns) : StreamOutput :=
  (batch.rows.map (codec.row columns)).foldl (writeRow codec) output

/-- Write a batch. -/
def writeBatch (output : StreamOutput) (batch : Batch columns) : StreamOutput :=
  let written := match output.format with
    | .table | .vertical => output.writeAll (human output batch.rows)
    | .csv | .tsv => output.writeDelimited csv batch
    | .json | .jsonLines => output.writeJson codec batch
  { written with wroteBatch := true, rows := written.rows + batch.rows.length }

/-- Close the output: its text and the number of rows. -/
def finish (output : StreamOutput) : List Char × Nat :=
  (output.writer ++ (if output.format = .json then "]\n".toList else []), output.rows)

/-- The text of a whole result. -/
def text (format : OutputFormat) (batches : List (Batch columns)) : List Char :=
  (batches.foldl (writeBatch csv codec human) (new format)).finish.1

end StreamOutput

/-- The rows of batches, in order. -/
def allRows {columns : List Column} (batches : List (Batch columns)) : List (List Cell) :=
  batches.flatMap Batch.rows

end ConfluxQuery.Output
