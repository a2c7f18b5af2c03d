import ConfluxQuery.Driver.TrinoPages
import ConfluxQuery.Driver.TrinoTypes
import ConfluxQuery.Lib.Listing

/-!
# The cells of a Trino page

A row of a page is written as a JSON object, a member for each column under the column's name, and
is read back by name. Columns of one name share a member, which holds the value of the last of them,
and the reader puts it into the first of them and a null into the others. So a cell comes back when
it is what its column is left with.
-/

namespace ConfluxQuery

/-- A cell of a batch. -/
def RecordBatch.cell? (batch : RecordBatch) (row column : Nat) : Option String :=
  batch.rows[row]?.bind fun cells => cells[column]?

/-- The reader decodes each member into the first column of its name, and a null into the others. -/
def LineReader.ReadsMembers (reader : LineReader) (write : Registry String JsonValue → String)
    (cell : Field → Option JsonValue → String) : Prop :=
  ∀ (schema : Schema) (size : Nat) (objects : List (Registry String JsonValue))
    (batch : RecordBatch), objects.length ≤ size →
    reader.read schema size (objects.map write) = .ok (some batch) →
      ∀ i j object field, objects[i]? = some object → schema.fields[j]? = some field →
        batch.cell? i j = some (cell field
          (if field.name ∈ (schema.fields.take j).map Field.name then none
            else object.lookup field.name))

namespace Trino

theorem CellCodec.length_le_encodedLength (lines : List String) :
    lines.length ≤ CellCodec.encodedLength lines := by
  induction lines with
  | nil => exact Nat.zero_le _
  | cons line lines step =>
    simp only [CellCodec.encodedLength, List.map_cons, List.sum_cons, List.length_cons] at step ⊢
    omega

/-- The column has a scalar type. -/
def Column.Scalar (column : Column) : Prop :=
  ∀ signature, column.typeSignature = some signature →
    signature.rawType ≠ "array" ∧ signature.rawType ≠ "map" ∧ signature.rawType ≠ "row"

theorem normalizeSignature_plain (serde : Serde) {signature : TypeSignature}
    (array : signature.rawType ≠ "array") (row : signature.rawType ≠ "row") (value : JsonValue) :
    normalizeSignature serde signature value = .ok value := by
  unfold normalizeSignature
  split
  · rfl
  · split
    · next same => exact absurd same array
    · next same => exact absurd same row
    · rfl
  · split
    · next same => exact absurd same array
    · next same => exact absurd same row
    · rfl

theorem normalizeValue_scalar (serde : Serde) {column : Column} (scalar : column.Scalar)
    (value : JsonValue) : normalizeValue serde column value = .ok value := by
  unfold normalizeValue
  split
  · next signature typed =>
    obtain ⟨array, -, row⟩ := scalar signature typed
    exact normalizeSignature_plain serde array row value
  · rfl

/-- In a row, the value of the last column of a name. -/
def lastValue (name : String) : List (Column × JsonValue) → Option JsonValue
  | [] => none
  | (column, value) :: rest =>
    (lastValue name rest).or (if column.name = name then some value else none)

/-- A column of the row has a name that a column of the row has. -/
theorem lastValue_isSome {column : Column} {value : JsonValue} {cells : List (Column × JsonValue)}
    (member : (column, value) ∈ cells) : ∃ last, lastValue column.name cells = some last := by
  induction cells with
  | nil => cases member
  | cons first rest step =>
    obtain ⟨other, held⟩ := first
    rw [lastValue]
    rcases List.mem_cons.mp member with same | later
    · cases same
      cases lastValue column.name rest with
      | none => exact ⟨value, by simp⟩
      | some last => exact ⟨last, rfl⟩
    · obtain ⟨last, found⟩ := step later
      exact ⟨last, by rw [found]; rfl⟩

/-- The object of a row holds, under each name, the value of the last column of that name. -/
theorem rowObject_lookup (serde : Serde) {columns : List Column} {row : List JsonValue}
    {object written : Registry String JsonValue} (scalar : ∀ column ∈ columns, column.Scalar)
    (encoded : (cells serde).rowObject columns row object = .ok written) (name : String) :
    written.lookup name = (lastValue name (columns.zip row)).or (object.lookup name) := by
  induction columns generalizing row object with
  | nil =>
    cases encoded
    rfl
  | cons column columns step =>
    cases row with
    | nil =>
      cases encoded
      rfl
    | cons value row =>
      obtain ⟨normal, normalized, remaining⟩ := Except.bind_eq_ok.mp encoded
      have kept : normal = value := Except.ok.inj (normalized.symm.trans
        (normalizeValue_scalar serde (scalar column List.mem_cons_self) value))
      subst kept
      rw [step (fun other member => scalar other (List.mem_cons_of_mem _ member)) remaining,
        Registry.lookup_insert_ite, List.zip_cons_cons, lastValue, Option.or_assoc]
      congr 1
      by_cases same : column.name = name
      · rw [if_pos same]
        exact if_pos same.symm
      · rw [if_neg same]
        exact if_neg (Ne.symm same)

/-- A page is written as the objects of its rows, each as wide as there are columns. -/
theorem encodeRows_objects (serde : Serde) {columns : List Column} {rows : List (List JsonValue)}
    {lines : List String} (scalar : ∀ column ∈ columns, column.Scalar)
    (encoded : (cells serde).encodeRows columns rows = .ok lines) :
    ∃ objects : List (Registry String JsonValue), lines = objects.map serde.write ∧
      List.Forall₂ (fun row object => row.length = columns.length ∧
        ∀ name, object.lookup name = lastValue name (columns.zip row)) rows objects := by
  induction rows generalizing lines with
  | nil =>
    cases encoded
    exact ⟨[], rfl, .nil⟩
  | cons row rows step =>
    obtain ⟨line, first, encoded⟩ := Except.bind_eq_ok.mp encoded
    obtain ⟨others, more, encoded⟩ := Except.bind_eq_ok.mp encoded
    cases encoded
    obtain ⟨objects, rfl, matching⟩ := step more
    unfold CellCodec.encodeRow at first
    split at first
    · cases first
    · next wide =>
      obtain ⟨object, written, first⟩ := Except.bind_eq_ok.mp first
      cases first
      refine ⟨object :: objects, rfl, .cons ⟨not_not.mp wide, fun name => ?_⟩ matching⟩
      exact (rowObject_lookup serde scalar written name).trans Option.or_none

theorem columnField_name {serde : Serde} {column : Column} {field : Field}
    (typed : (cells serde).columnField column = .ok field) : field.name = column.name := by
  change (columnField serde column).map _ = .ok field at typed
  unfold columnField at typed
  cases made : columnType serde column with
  | error =>
    rw [made] at typed
    cases typed
  | ok dataType =>
    rw [made] at typed
    cases typed
    rfl

end Trino

section

open Trino

/-- What stands at a position of a list has its partner at the same position. -/
theorem forall₂_getElem? {α β : Type} {related : α → β → Prop} {left : List α} {right : List β}
    (matching : List.Forall₂ related left right) {position : Nat} {one : α}
    (there : left[position]? = some one) :
    ∃ other, right[position]? = some other ∧ related one other := by
  induction matching generalizing position with
  | nil => cases there
  | cons first _ step =>
    cases position with
    | zero =>
      cases there
      exact ⟨_, rfl, first⟩
    | succ position => exact step there

/-- Fields have the names of their columns. -/
theorem fields_names {serde : Serde} {columns : List Column} {fields : List Field}
    (typed : List.Forall₂ (fun column field => (cells serde).columnField column = .ok field)
      columns fields) : fields.map Field.name = columns.map Column.name := by
  induction typed with
  | nil => rfl
  | cons one _ step => rw [List.map_cons, List.map_cons, step, columnField_name one]

/-- A batch made of a page has a row for every row of the page. The cell of a column is a null when
a column before it has its name, and else that of the last column of its name. -/
theorem pageToBatch_cells {serde : Serde} {reader : LineReader}
    {cell : Field → Option JsonValue → String}
    (reads : reader.ReadsMembers serde.write cell) {columns : List Column}
    {rows : List (List JsonValue)} {batch : RecordBatch}
    (scalar : ∀ column ∈ columns, column.Scalar)
    (made : (cells serde).pageToBatch reader columns rows = .ok batch) :
    batch.numRows = rows.length ∧
      ∀ i j row column field, rows[i]? = some row → columns[j]? = some column →
        (cells serde).columnField column = .ok field →
          batch.cell? i j = some (cell field
            (if column.name ∈ (columns.take j).map Column.name then none
              else lastValue column.name (columns.zip row))) := by
  obtain ⟨fields, converted, made⟩ := Except.bind_eq_ok.mp made
  obtain ⟨lines, encoded, made⟩ := Except.bind_eq_ok.mp made
  obtain ⟨objects, rfl, matching⟩ := encodeRows_objects serde scalar encoded
  have typed := List.mapM_eq_ok_iff.mp converted
  have fits := (CellCodec.length_le_encodedLength (objects.map serde.write)).trans
    (Nat.le_max_left _ 1)
  split at made
  · cases made
  · cases made
  · next first read =>
    cases made
    refine ⟨?_, fun i j row column field atRow atColumn here => ?_⟩
    · rw [reader.rows_of_read _ _ _ _ fits read, List.length_map, matching.length_eq]
    · obtain ⟨object, atObject, -, held⟩ := forall₂_getElem? matching atRow
      obtain ⟨same, atField, typed'⟩ := forall₂_getElem? typed atColumn
      cases here.symm.trans typed'
      rw [List.length_map] at fits
      rw [reads _ _ _ _ fits read i j object field atObject atField, List.map_take,
        fields_names typed, ← List.map_take, columnField_name here, held]

/-- The cells of a Trino page are preserved, if and only if in every row a column behind one of its
name holds what reads like a null, and every other column what reads like the value of the last
column of its name. A batch always has as many rows as its page. -/
theorem cells_preserved_iff (serde : Serde) (reader : LineReader)
    (cell : Field → Option JsonValue → String) (reads : reader.ReadsMembers serde.write cell)
    (columns : List Column) (rows : List (List JsonValue)) (batch : RecordBatch)
    (scalar : ∀ column ∈ columns, column.Scalar)
    (made : (cells serde).pageToBatch reader columns rows = .ok batch) :
    batch.numRows = rows.length ∧
      ((∀ i j row column field value, rows[i]? = some row → columns[j]? = some column →
          (cells serde).columnField column = .ok field → row[j]? = some value →
            batch.cell? i j = some (cell field (some value))) ↔
        ∀ row ∈ rows, ∀ j column field value, columns[j]? = some column → row[j]? = some value →
          (cells serde).columnField column = .ok field →
            (column.name ∈ (columns.take j).map Column.name →
              cell field none = cell field (some value)) ∧
            (column.name ∉ (columns.take j).map Column.name →
              ∀ last, lastValue column.name (columns.zip row) = some last →
                cell field (some last) = cell field (some value))) := by
  obtain ⟨counted, found⟩ := pageToBatch_cells reads scalar made
  refine ⟨counted, ?_⟩
  constructor
  · intro preserved row member j column field value atColumn atValue here
    obtain ⟨i, atRow⟩ := List.mem_iff_getElem?.mp member
    have kept := preserved i j row column field value atRow atColumn here atValue
    rw [found i j row column field atRow atColumn here, Option.some_inj] at kept
    refine ⟨fun behind => ?_, fun first last final => ?_⟩
    · rwa [if_pos behind] at kept
    · rwa [if_neg first, final] at kept
  · intro alike i j row column field value atRow atColumn here atValue
    obtain ⟨null, kept⟩ :=
      alike row (List.mem_of_getElem? atRow) j column field value atColumn atValue here
    rw [found i j row column field atRow atColumn here, Option.some_inj]
    split
    · next behind => exact null behind
    · next first =>
      obtain ⟨last, final⟩ := lastValue_isSome (List.mem_of_getElem?
        (List.getElem?_zip_eq_some.mpr ⟨atColumn, atValue⟩))
      rw [final]
      exact kept first last final

end

namespace Sample

/-- The text a member holds. -/
def answerText : Option JsonValue → String
  | some (.string text) => text
  | _ => "NULL"

/-- A writer that keeps the member `answer` of an object. -/
def answerSerde : Trino.Serde where
  decodeError _ := "no signature"
  write object := answerText (object.lookup "answer")

/-- What a column reads: its member, when it is the column `answer`. -/
def answerCell (field : Field) (value : Option JsonValue) : String :=
  if field.name = "answer" then answerText value else "NULL"

/-- A row of the line: the first column `answer` holds it, and every other column a null. -/
def answerRow (line : String) (fields : List Field) : List String :=
  (List.range fields.length).map fun j =>
    if (fields.map Field.name)[j]? = some "answer" ∧ "answer" ∉ (fields.take j).map Field.name then
      line
    else "NULL"

/-- A reader of the first column `answer`. -/
def answerReader : LineReader where
  read schema size lines := .ok (some ⟨schema, [], (lines.take size).map fun line =>
    answerRow line schema.fields⟩)
  rows_of_read schema size lines batch fits made := by
    cases made
    simp [RecordBatch.numRows, fits]

/-- The reader decodes each member into the first column of its name. -/
theorem answerReader_readsMembers :
    answerReader.ReadsMembers answerSerde.write answerCell := by
  intro schema size objects batch fits read i j object field atObject atField
  cases read
  have inside : j < schema.fields.length := (List.getElem?_eq_some_iff.mp atField).1
  rw [RecordBatch.cell?, List.take_of_length_le (by simpa using fits), List.map_map,
    List.getElem?_map, atObject, Option.map_some, Option.bind_some, Function.comp_apply, answerRow,
    List.getElem?_map, List.getElem?_range inside, Option.map_some, List.getElem?_map, atField,
    Option.map_some, Option.some_inj, answerCell]
  by_cases named : field.name = "answer"
  · rw [if_pos named, named]
    by_cases behind : "answer" ∈ (schema.fields.take j).map Field.name
    · rw [if_neg fun both => both.2 behind, if_pos behind]
      rfl
    · rw [if_pos ⟨rfl, behind⟩, if_neg behind]
      rfl
  · rw [if_neg named, if_neg fun both => named (Option.some.inj both.1)]

/-- A column of texts. -/
def textColumn (name : String) : Trino.Column := ⟨name, "varchar", none⟩

theorem textColumns_scalar (names : List String) :
    ∀ column ∈ names.map textColumn, column.Scalar := by
  intro column member signature typed
  obtain ⟨name, -, rfl⟩ := List.mem_map.mp member
  cases typed

end Sample

/-- Columns of different names keep their cells. -/
theorem cells_preserved_answer : ∃ batch,
    (Trino.cells Sample.answerSerde).pageToBatch Sample.answerReader
      (["question", "answer"].map Sample.textColumn) [[.null, .string "42"]] =
        .ok batch ∧
    batch.numRows = 1 ∧ batch.cell? 0 1 = some "42" := by
  refine ⟨_, rfl, ?_⟩
  have preserved := cells_preserved_iff Sample.answerSerde Sample.answerReader Sample.answerCell
    Sample.answerReader_readsMembers (["question", "answer"].map Sample.textColumn)
    [[.null, .string "42"]] _ (Sample.textColumns_scalar _) rfl
  refine ⟨preserved.1, preserved.2.mpr ?_ 0 1 _ _ _ _ rfl rfl rfl rfl⟩
  intro row member j column field value atColumn atValue _
  cases List.mem_singleton.mp member
  match j with
  | 0 | 1 =>
    cases atColumn
    cases atValue
    refine ⟨fun behind => absurd behind (by decide), fun _ last final => ?_⟩
    cases final
    rfl
  | j + 2 => cases atColumn

/-- Of two columns of one name the first reads the cell of the second, which reads a null. -/
theorem repeated_name_loses_cell :
    Sample.answerReader.ReadsMembers Sample.answerSerde.write Sample.answerCell ∧
    ∃ batch, (Trino.cells Sample.answerSerde).pageToBatch Sample.answerReader
        (["answer", "answer"].map Sample.textColumn) [[.string "1", .string "2"]] = .ok batch ∧
      batch.rows = [["2", "NULL"]] ∧
      Sample.answerCell ⟨"answer", "Utf8", true⟩ (some (.string "1")) = "1" :=
  ⟨Sample.answerReader_readsMembers, _, rfl, rfl, rfl⟩

end ConfluxQuery
