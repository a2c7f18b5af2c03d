import ConfluxQuery.Core.Arrow
import ConfluxQuery.Driver.Trino
import ConfluxQuery.Lib.Numerals
import ConfluxQuery.Lib.Text

/-!
# Arrow types of native type names

How `qcli-flight-sql` turns the text of an engine's type into the Arrow type that it advertises for
a column. Arrays and maps are taken apart at their brackets and at the comma outside of inner
brackets; everything else is told by the name before its first bracket. The depth of brackets is
counted without a bound.
-/

namespace ConfluxQuery.NativeTypes

/-- Brackets of type arguments, and the comma between them. -/
def brackets : Text.Brackets Char where
  opens letter := letter == '(' || letter == '<'
  closes letter := letter == ')' || letter == '>'
  separates letter := letter == ','
  opens_of_closes letter closes := by
    simp only [Bool.or_eq_true, beq_iff_eq] at closes
    rcases closes with rfl | rfl <;> rfl
  plain_of_separates letter separates := by
    cases beq_iff_eq.mp separates
    exact ⟨rfl, rfl⟩

/-- A text in a pair of brackets of one kind. -/
def bracketed (text : List Char) : Bool :=
  (text.head? == some '(' && text.getLast? == some ')') ||
    (text.head? == some '<' && text.getLast? == some '>')

theorem length_inner_lt {text : List Char} (inBrackets : bracketed text = true) :
    text.tail.dropLast.length < text.length := by
  cases text with
  | nil => cases inBrackets
  | cons first rest =>
    rw [List.tail_cons, List.length_dropLast, List.length_cons]
    omega

/-- The arguments of a type of a name, when the name is followed by nothing but brackets. -/
def typeArguments (value name : List Char) :
    Option {inner : List Char // inner.length < value.length} :=
  match found : name.isPrefixOf? value with
  | none => none
  | some rest =>
    if inBrackets : bracketed (Text.strip rest) = true then
      some ⟨(Text.strip rest).tail.dropLast, by
        have shorter := length_inner_lt inBrackets
        have trimmed : (Text.strip rest).length ≤ rest.length := Text.length_trim_le rest
        have whole := congrArg List.length (List.isPrefixOf?_eq_some_iff_append_eq.mp found)
        rw [List.length_append] at whole
        omega⟩
    else none

/-- The parts of a text between the commas outside of brackets. -/
def splitTopLevel (value : List Char) : List (List Char) :=
  (brackets.split 0 [] value).map Text.strip

/-- A part is no longer than the text. -/
theorem length_le_of_mem_splitTopLevel {value part : List Char}
    (member : part ∈ splitTopLevel value) : part.length ≤ value.length := by
  obtain ⟨whole, held, rfl⟩ := List.mem_map.mp member
  have trimmed : (Text.strip whole).length ≤ whole.length := Text.length_trim_le whole
  have bound := Text.Brackets.length_le_of_mem_split held
  rw [List.length_nil] at bound
  omega

/-- The key and the value of a map with two arguments. -/
def mapArguments (value : List Char) :
    Option {parts : List Char × List Char //
      parts.1.length < value.length ∧ parts.2.length < value.length} :=
  match typeArguments value "map".toList with
  | none => none
  | some inner =>
    match parts : splitTopLevel inner.1 with
    | [first, second] => some ⟨(first, second),
        (length_le_of_mem_splitTopLevel (parts ▸ by simp)).trans_lt inner.2,
        (length_le_of_mem_splitTopLevel (parts ▸ by simp)).trans_lt inner.2⟩
    | _ => none

/-- The precision and the scale of a decimal type. -/
def decimalShape (value : List Char) : Option (Nat × Int) :=
  match value.dropWhile (· ≠ '(') with
  | [] => none
  | _ :: after => do
    let values := ((after.reverse.dropWhile (· == ')')).reverse.splitOn ',').map Text.strip
    let precision ← Numeral.parseUnsigned (2 ^ 8) (← values.head?)
    let scale ← Numeral.parseSigned (2 ^ 7) (values[1]?.getD "0".toList)
    return (precision, scale)

/-- The name before the first bracket. -/
def baseName (normalized : List Char) : List Char :=
  Text.strip (normalized.takeWhile fun letter => !brackets.opens letter)

/-- The Arrow type of a name, with the shape that a decimal has. -/
def namedType (base : String) (shape : Option (Nat × Int)) : DataType :=
  match base with
  | "boolean" | "bool" => .boolean
  | "tinyint" | "byteint" => .int8
  | "smallint" => .int16
  | "integer" | "int" => .int32
  | "bigint" | "long" => .int64
  | "real" | "float" => .float32
  | "double" | "double precision" => .float64
  | "binary" | "varbinary" => .binary
  | "date" => .date32
  | "timestamp" | "timestamp_ntz" | "timestamp_ltz" | "timestamp_tz" => .timestamp
  | "decimal" | "numeric" | "number" =>
    let (precision, scale) := shape.getD (38, 9)
    .decimal128 precision scale
  | _ => .utf8

/-- The Arrow type of a type that is neither an array nor a map with arguments. -/
def baseType (normalized : List Char) : DataType :=
  namedType (String.ofList (baseName normalized)) (decimalShape normalized)

/-- A native type without blank space around it and in lower case. -/
def normalize (native : List Char) : List Char := (Text.strip native).map Char.toLower

/-- Normalising makes a text no longer. -/
theorem length_normalize_le (native : List Char) : (normalize native).length ≤ native.length := by
  rw [normalize, List.length_map]
  exact Text.length_trim_le native

/-- The Arrow type of a native type. -/
def arrowType (native : List Char) : DataType :=
  let normalized := normalize native
  match typeArguments normalized "array".toList with
  | some inner => .list ⟨"item", arrowType inner.1, true⟩
  | none =>
    if normalized = "array".toList then .list ⟨"item", .utf8, true⟩
    else match mapArguments normalized with
      | some parts =>
        .mapOf ⟨"key", arrowType parts.1.1, false⟩ ⟨"value", arrowType parts.1.2, true⟩
      | none =>
        if normalized = "object".toList ∨ normalized = "map".toList then
          .mapOf ⟨"key", .utf8, false⟩ ⟨"value", .utf8, true⟩
        else baseType normalized
termination_by native.length
decreasing_by
  · exact inner.2.trans_le (length_normalize_le native)
  · exact parts.2.1.trans_le (length_normalize_le native)
  · exact parts.2.2.trans_le (length_normalize_le native)

end ConfluxQuery.NativeTypes
