import ConfluxQuery.Output.Stream

/-!
# Delimited output

What the bytes of a CSV or TSV result tell about its rows. Quoting keeps fields and records apart,
so the texts of all values can be read off; a missing value is written as the text `NULL`, so it is
the one thing that cannot be told from a string.
-/

namespace ConfluxQuery.Output

open Quoting

section Fields

variable {delimiter : Char}

/-- Texts without a character of a kind end where one follows. -/
theorem plain_injective {kind : Char → Bool} {text other rest more : List Char}
    (plain : ∀ character ∈ text, kind character = false)
    (others : ∀ character ∈ other, kind character = false)
    (ends : rest.head?.any kind = true) (closes : more.head?.any kind = true)
    (same : text ++ rest = other ++ more) : text = other ∧ rest = more := by
  have taken : ∀ before after : List Char, (∀ character ∈ before, kind character = false) →
      after.head?.any kind = true →
      (before ++ after).takeWhile (fun character => !kind character) = before := by
    intro before after free stops
    rw [List.takeWhile_append_of_pos fun character member => by simp [free character member]]
    cases after with
    | nil => simp
    | cons first tail =>
      rw [List.takeWhile_cons_of_neg (by simpa using stops), List.append_nil]
  have texts : text = other := by
    rw [← taken text rest plain ends, same, taken other more others closes]
  exact ⟨texts, List.append_cancel_left (texts ▸ same)⟩

/-- The delimiters of the two formats. -/
def IsDelimiter (delimiter : Char) : Prop := delimiter = ',' ∨ delimiter = '\t'

/-- A character that ends a field. -/
def stops (delimiter character : Char) : Bool := character == delimiter || character == '\n'

variable (csv : CsvWriter) {count : Nat}

/-- A field can be read off where a delimiter or a line break follows. -/
theorem field_injective (kind : IsDelimiter delimiter) {text other rest more : List Char}
    (ends : rest.head?.any (stops delimiter) = true)
    (closes : more.head?.any (stops delimiter) = true)
    (same : csv.field delimiter count text ++ rest = csv.field delimiter count other ++ more) :
    text = other ∧ rest = more := by
  have noQuote : ∀ after : List Char, after.head?.any (stops delimiter) = true →
      after.head? ≠ some '"' := by
    intro after stopped found
    rw [found] at stopped
    rcases kind with rfl | rfl <;> cases stopped
  have plain : ∀ content : List Char, csv.quotes delimiter count content = false →
      ∀ character ∈ content, character ∉ [delimiter, '"', '\r', '\n'] := by
    intro content unquoted character member special
    rw [csv.quotes_special delimiter count content ⟨character, member, special⟩] at unquoted
    cases unquoted
  -- A quoted field begins with a quote, and nothing else does.
  have apart : ∀ content after tail : List Char, csv.quotes delimiter count content = false →
      after.head?.any (stops delimiter) = true → content ++ after ≠ '"' :: tail := by
    intro content after tail unquoted stopped begins
    cases content with
    | nil => exact noQuote after stopped (by rw [show after = '"' :: tail from begins]; rfl)
    | cons first others =>
      have special := plain _ unquoted first List.mem_cons_self
      rw [(List.cons.inj begins).1] at special
      simp at special
  unfold CsvWriter.field at same
  cases quoted : csv.quotes delimiter count text with
  | true =>
    cases again : csv.quotes delimiter count other with
    | true =>
      rw [quoted, again, if_pos rfl, if_pos rfl] at same
      simp only [wrapped, List.cons_append, List.append_assoc, List.nil_append, List.cons.injEq,
        true_and] at same
      exact doubled_injective (noQuote rest ends) (noQuote more closes) same
    | false =>
      rw [quoted, again, if_pos rfl, if_neg (by simp)] at same
      exact absurd same.symm (apart _ _ _ again closes)
  | false =>
    cases again : csv.quotes delimiter count other with
    | true =>
      rw [quoted, again, if_pos rfl, if_neg (by simp)] at same
      exact absurd same (apart _ _ _ quoted ends)
    | false =>
      rw [quoted, again, if_neg (by simp), if_neg (by simp)] at same
      have free : ∀ content : List Char, csv.quotes delimiter count content = false →
          ∀ character ∈ content, stops delimiter character = false := by
        intro content unquoted character member
        have special := plain content unquoted character member
        simp only [List.mem_cons, List.not_mem_nil, or_false, not_or] at special
        simp [stops, special.1, special.2.2.2]
      exact plain_injective (free text quoted) (free other again) ends closes same

/-- The fields of a record can be read off when their number is known. -/
theorem fields_injective (kind : IsDelimiter delimiter) {texts others : List (List Char)}
    (alike : texts.length = others.length) {rest more : List Char}
    (same : csv.fields delimiter count texts ++ rest = csv.fields delimiter count others ++ more) :
    texts = others ∧ rest = more := by
  induction texts generalizing others with
  | nil =>
    obtain rfl := List.length_eq_zero_iff.mp alike.symm
    exact ⟨rfl, List.append_cancel_left same⟩
  | cons text remaining step =>
    cases others with
    | nil => cases alike
    | cons other following =>
      have lengths : remaining.length = following.length := Nat.succ.inj alike
      cases remaining with
      | nil =>
        obtain rfl := List.length_eq_zero_iff.mp lengths.symm
        rw [CsvWriter.fields, CsvWriter.fields, List.append_assoc, List.append_assoc] at same
        obtain ⟨rfl, tails⟩ := field_injective csv kind (by simp [stops]) (by simp [stops]) same
        exact ⟨rfl, (List.cons.inj tails).2⟩
      | cons second remaining =>
        cases following with
        | nil => cases lengths
        | cons third following =>
          have joined : ∀ (first second : List Char) (tail : List (List Char)),
              csv.fields delimiter count (first :: second :: tail) =
                csv.field delimiter count first ++
                delimiter :: csv.fields delimiter count (second :: tail) := fun _ _ _ => rfl
          rw [joined, joined, List.append_assoc, List.append_assoc] at same
          obtain ⟨rfl, tails⟩ := field_injective csv kind (by simp [stops]) (by simp [stops]) same
          obtain ⟨same, rests⟩ := step lengths (List.cons.inj tails).2
          exact ⟨by rw [same], rests⟩

/-- A record has a text. -/
theorem fields_ne_nil (texts : List (List Char)) : csv.fields delimiter count texts ≠ [] := by
  fun_cases CsvWriter.fields <;> simp

theorem records_injective (kind : IsDelimiter delimiter) {records others : List (List (List Char))}
    {width : Nat} (wide : ∀ record ∈ records, record.length = width)
    (alike : ∀ record ∈ others, record.length = width)
    (same : records.flatMap (csv.record delimiter) = others.flatMap (csv.record delimiter)) :
    records = others := by
  induction records generalizing others with
  | nil =>
    cases others with
    | nil => rfl
    | cons other following =>
      have empty := (List.append_eq_nil_iff.mp same.symm).1
      exact absurd empty (fields_ne_nil csv _)
  | cons record remaining step =>
    cases others with
    | nil =>
      have empty := (List.append_eq_nil_iff.mp same).1
      exact absurd empty (fields_ne_nil csv _)
    | cons other following =>
      have length : record.length = other.length :=
        (wide record List.mem_cons_self).trans (alike other List.mem_cons_self).symm
      rw [List.flatMap_cons, List.flatMap_cons, CsvWriter.record, CsvWriter.record,
        ← length] at same
      obtain ⟨rfl, rests⟩ := fields_injective csv kind length same
      rw [step (fun record member => wide record (List.mem_cons_of_mem _ member))
        (fun record member => alike record (List.mem_cons_of_mem _ member)) rests]

end Fields

section Rows

variable (csv : CsvWriter) (codec : JsonCodec)
  (human : StreamOutput → List (List Cell) → List Char) {columns : List Column}

/-- The delimiter of a format. -/
def delimiterOf (format : OutputFormat) : Char := if format = .csv then ',' else '\t'

/-- Both formats have a delimiter. -/
theorem isDelimiter_delimiterOf (format : OutputFormat) : IsDelimiter (delimiterOf format) := by
  unfold delimiterOf IsDelimiter
  split <;> simp

/-- The records of rows. -/
def records (format : OutputFormat) (rows : List (List Cell)) : List Char :=
  (rows.map fun row => row.map csv.cell).flatMap (csv.record (delimiterOf format))

/-- The record of the column names. -/
def header (format : OutputFormat) (columns : List Column) : List Char :=
  csv.record (delimiterOf format) (columns.map fun column => column.name.toList)

variable {format : OutputFormat}

/-- One batch adds its records, and a header when it is the first. -/
theorem writeBatch_delimited (delimited : format = .csv ∨ format = .tsv) {output : StreamOutput}
    (kept : output.format = format) (batch : Batch columns) :
    (output.writeBatch csv codec human batch).format = format ∧
      (output.writeBatch csv codec human batch).wroteBatch = true ∧
      (output.writeBatch csv codec human batch).writer = output.writer ++
        ((if output.wroteBatch then [] else header csv format columns) ++
          records csv format batch.rows) := by
  have written : output.writeBatch csv codec human batch = { output.writeDelimited csv batch with
      wroteBatch := true, rows := (output.writeDelimited csv batch).rows + batch.rows.length } := by
    rcases delimited with rfl | rfl <;> rw [StreamOutput.writeBatch, kept]
  rw [written]
  refine ⟨kept, rfl, ?_⟩
  simp only [StreamOutput.writeDelimited, StreamOutput.writeAll, CsvWriter.write, kept, header,
    records, delimiterOf, List.flatMap_map]
  cases output.wroteBatch <;> rfl

theorem writeBatches_delimited (delimited : format = .csv ∨ format = .tsv) {output : StreamOutput}
    (kept : output.format = format) (begun : output.wroteBatch = true)
    (batches : List (Batch columns)) :
    (batches.foldl (StreamOutput.writeBatch csv codec human) output).finish.1 =
      output.writer ++ records csv format (allRows batches) := by
  induction batches generalizing output with
  | nil =>
    have open' : ¬ output.format = .json := by
      rcases delimited with rfl | rfl <;> rw [kept] <;> nofun
    simp [StreamOutput.finish, open', allRows, records]
  | cons batch rest step =>
    obtain ⟨same, wrote, text⟩ := writeBatch_delimited csv codec human delimited kept batch
    rw [List.foldl_cons, step same wrote, text, begun]
    simp [allRows, records]

/-- A result is its header and the records of its rows, and empty without a batch. -/
theorem text_delimited (delimited : format = .csv ∨ format = .tsv)
    (batches : List (Batch columns)) :
    StreamOutput.text csv codec human format batches =
      (if batches.isEmpty then [] else header csv format columns) ++
        records csv format (allRows batches) := by
  have plain : ¬ format = .json := by rcases delimited with rfl | rfl <;> nofun
  have start : (StreamOutput.new format).writer = [] := if_neg plain
  cases batches with
  | nil => simp [StreamOutput.text, StreamOutput.finish, StreamOutput.new, plain, allRows, records]
  | cons batch rest =>
    have fresh : (StreamOutput.new format).format = format := rfl
    obtain ⟨same, wrote, text⟩ := writeBatch_delimited csv codec human delimited fresh batch
    rw [StreamOutput.text, List.foldl_cons,
      writeBatches_delimited csv codec human delimited same wrote, text, start]
    simp [StreamOutput.new, allRows, records]

/-- A nullable string. -/
def Cell.IsString : Cell → Prop
  | .null | .text _ => True
  | _ => False

/-- Values that are written alike: the same, or one missing and the other the text `NULL`. -/
def Cell.Confused (cell other : Cell) : Prop :=
  cell = other ∨ cell = .null ∧ other = .text "NULL" ∨ cell = .text "NULL" ∧ other = .null

/-- Nullable strings have the same text exactly when they are confused. -/
theorem cell_eq_iff {cell other : Cell} (string : cell.IsString) (again : other.IsString) :
    csv.cell cell = csv.cell other ↔ cell.Confused other := by
  cases cell with
  | boolean | number | decimal | list | struct => cases string
  | null =>
    cases other with
    | boolean | number | decimal | list | struct => cases again
    | null => simp [Cell.Confused]
    | text value =>
      simp only [CsvWriter.cell, csv.render_text, String.toList_inj, Cell.Confused]
      simp [eq_comm]
  | text value =>
    cases other with
    | boolean | number | decimal | list | struct => cases again
    | null =>
      simp only [CsvWriter.cell, csv.render_text, String.toList_inj, Cell.Confused]
      simp
    | text content =>
      simp only [CsvWriter.cell, csv.render_text, String.toList_inj, Cell.Confused]
      simp

/-- Rows of nullable strings have the same texts exactly when their values are confused. -/
theorem map_cell_eq_iff {row other : List Cell} (strings : ∀ cell ∈ row, cell.IsString)
    (again : ∀ cell ∈ other, cell.IsString) :
    row.map csv.cell = other.map csv.cell ↔ List.Forall₂ Cell.Confused row other := by
  induction row generalizing other with
  | nil => cases other <;> simp
  | cons cell rest step =>
    cases other with
    | nil => simp
    | cons second following =>
      rw [List.map_cons, List.map_cons, List.cons.injEq, List.forall₂_cons,
        cell_eq_iff csv (strings cell List.mem_cons_self) (again second List.mem_cons_self),
        step (fun cell member => strings cell (List.mem_cons_of_mem _ member))
          (fun cell member => again cell (List.mem_cons_of_mem _ member))]

theorem map_rows_eq_iff {rows others : List (List Cell)}
    (strings : ∀ row ∈ rows, ∀ cell ∈ row, cell.IsString)
    (again : ∀ row ∈ others, ∀ cell ∈ row, cell.IsString) :
    (rows.map fun row => row.map csv.cell) = (others.map fun row => row.map csv.cell) ↔
      List.Forall₂ (List.Forall₂ Cell.Confused) rows others := by
  induction rows generalizing others with
  | nil => cases others <;> simp
  | cons row rest step =>
    cases others with
    | nil => simp
    | cons second following =>
      rw [List.map_cons, List.map_cons, List.cons.injEq, List.forall₂_cons,
        map_cell_eq_iff csv (strings row List.mem_cons_self) (again second List.mem_cons_self),
        step (fun row member => strings row (List.mem_cons_of_mem _ member))
          (fun row member => again row (List.mem_cons_of_mem _ member))]

theorem width_of_mem {batches : List (Batch columns)} {row : List Cell}
    (member : row ∈ allRows batches) : row.length = columns.length := by
  obtain ⟨batch, -, inside⟩ := List.mem_flatMap.mp member
  exact (batch.holds row inside).length_eq.symm

/-- Two results of nullable strings with the same bytes have the same rows, exactly unless they
differ and do so only where one value is missing and the other is the text `NULL`. -/
theorem delimited_output_injective_iff (delimited : format = .csv ∨ format = .tsv)
    (batches others : List (Batch columns))
    (strings : ∀ row ∈ allRows batches, ∀ cell ∈ row, cell.IsString)
    (again : ∀ row ∈ allRows others, ∀ cell ∈ row, cell.IsString) :
    (StreamOutput.text csv codec human format batches =
        StreamOutput.text csv codec human format others → allRows batches = allRows others) ↔
      ¬ (allRows batches ≠ allRows others ∧
        List.Forall₂ (List.Forall₂ Cell.Confused) (allRows batches) (allRows others)) := by
  have wide : ∀ batches : List (Batch columns),
      ∀ record ∈ (allRows batches).map fun row => row.map csv.cell,
        record.length = columns.length := by
    intro batches record member
    obtain ⟨row, inside, rfl⟩ := List.mem_map.mp member
    rw [List.length_map, width_of_mem inside]
  rw [text_delimited csv codec human delimited, text_delimited csv codec human delimited]
  constructor
  · rintro injective ⟨differ, confused⟩
    -- Rows that differ are there on both sides, so both have a header.
    have present : ∀ batches : List (Batch columns), allRows batches ≠ [] →
        batches.isEmpty = false := by
      intro batches some
      cases batches with
      | nil => exact absurd rfl some
      | cons => rfl
    have left : allRows batches ≠ [] := by
      intro none
      rw [none] at confused differ
      exact differ (List.forall₂_nil_left_iff.mp confused).symm
    have right : allRows others ≠ [] := by
      intro none
      rw [none] at confused differ
      exact differ (List.forall₂_nil_right_iff.mp confused)
    refine differ (injective ?_)
    rw [present batches left, present others right, records, records,
      (map_rows_eq_iff csv strings again).mpr confused]
  · intro clear same
    have texts : records csv format (allRows batches) = records csv format (allRows others) := by
      cases batches with
      | nil =>
        cases others with
        | nil => rfl
        | cons =>
          have empty := (List.append_eq_nil_iff.mp same.symm).1
          exact absurd empty (fields_ne_nil csv _)
      | cons =>
        cases others with
        | nil =>
          have empty := (List.append_eq_nil_iff.mp same).1
          exact absurd empty (fields_ne_nil csv _)
        | cons => exact List.append_cancel_left same
    have confused := (map_rows_eq_iff csv strings again).mp
      (records_injective csv (isDelimiter_delimiterOf format) (wide batches) (wide others) texts)
    by_contra differ
    exact clear ⟨differ, confused⟩

/-- A CSV writer that quotes where it has to. -/
def sampleCsv : CsvWriter where
  render
    | .text value => value.toList
    | _ => []
  render_text _ := rfl
  quotes delimiter _ text :=
    text.any fun character => [delimiter, '"', '\r', '\n'].contains character
  quotes_special delimiter _ text special := by simpa using special

/-- A JSON library that is not used. -/
def sampleJson : JsonCodec := ⟨fun _ _ => "", fun numeral => numeral, fun _ => []⟩

/-- A result of one string column. -/
def sampleRows (cells : List Cell) (strings : ∀ cell ∈ cells, cell.IsString) :
    Batch [⟨"a", none⟩] where
  rows := cells.map fun cell => [cell]
  holds row member := by
    obtain ⟨cell, inside, rfl⟩ := List.mem_map.mp member
    refine .cons ?_ .nil
    have string := strings cell inside
    cases cell <;> trivial

/-- A delimiter and a quote in strings do not confuse rows. -/
theorem delimited_output_injective_quotes :
    StreamOutput.text sampleCsv sampleJson (fun _ _ => []) .csv
        [sampleRows [.text "a,b", .null] (by simp [Cell.IsString])] ≠
      StreamOutput.text sampleCsv sampleJson (fun _ _ => []) .csv
        [sampleRows [.text "a\"b", .null] (by simp [Cell.IsString])] := by
  intro same
  have rows := (delimited_output_injective_iff sampleCsv sampleJson (fun _ _ => []) (.inl rfl) _ _
    (by simp [allRows, sampleRows, Cell.IsString])
    (by simp [allRows, sampleRows, Cell.IsString])).mpr
      (by simp [allRows, sampleRows, Cell.Confused]) same
  simp [allRows, sampleRows] at rows

/-- A missing value and the string `NULL` are written with the same bytes. -/
theorem delimited_output_null :
    StreamOutput.text sampleCsv sampleJson (fun _ _ => []) .csv
        [sampleRows [.null] (by simp [Cell.IsString])] =
      StreamOutput.text sampleCsv sampleJson (fun _ _ => []) .csv
        [sampleRows [.text "NULL"] (by simp [Cell.IsString])] ∧
    allRows [sampleRows [.null] (by simp [Cell.IsString])] ≠
      allRows [sampleRows [.text "NULL"] (by simp [Cell.IsString])] :=
  ⟨by decide, by simp [allRows, sampleRows]⟩

end Rows

end ConfluxQuery.Output
