import ConfluxQuery.Core.Arrow
import ConfluxQuery.Driver.TrinoPages
import ConfluxQuery.Lib.Json
import ConfluxQuery.Lib.Numerals
import ConfluxQuery.Lib.Text

/-!
# Types and values of the Trino protocol

How `qcli-driver-trino` types a column and normalises its cells. A column comes with the text of its
type and, from newer servers, with a signature, whose arguments are JSON values that hold further
signatures. Rows arrive as JSON arrays and are turned into objects with a member for each field.
-/

namespace ConfluxQuery.Trino

/-- An argument of a type signature. -/
structure TypeArgument where
  /-- Kind, such as `TYPE`, `NAMED_TYPE` or `LONG`. -/
  kind : String
  value : JsonValue

/-- A type as the protocol describes it. -/
structure TypeSignature where
  /-- Name of the type without its arguments. -/
  rawType : String
  arguments : List TypeArgument

/-- A column of a result. -/
structure Column where
  name : String
  displayType : String
  typeSignature : Option TypeSignature

/-- Decode an argument, from its members by name or from a list of its fields. -/
def TypeArgument.decode : JsonValue → Option TypeArgument
  | .object members => do
    let kind ← (← members.lookup "kind").asString?
    return ⟨kind, ← members.lookup "value"⟩
  | .array [kind, value] => do return ⟨← kind.asString?, value⟩
  | _ => none

/-- Decode the arguments of a signature. -/
def decodeArguments : JsonValue → Option (List TypeArgument)
  | .array items => items.mapM TypeArgument.decode
  | _ => none

/-- Decode a signature, from its members by name or from a list of its fields. The arguments may be
missing. -/
def TypeSignature.decode : JsonValue → Option TypeSignature
  | .object members => do
    let rawType ← (← members.lookup "rawType").asString?
    return ⟨rawType, ← ((members.lookup "arguments").map decodeArguments).getD (some [])⟩
  | .array [rawType] => do return ⟨← rawType.asString?, []⟩
  | .array [rawType, arguments] => do return ⟨← rawType.asString?, ← decodeArguments arguments⟩
  | _ => none

/-- Size of the values that arguments hold. -/
def argumentsSize (arguments : List TypeArgument) : Nat :=
  (arguments.map fun argument => argument.value.size).sum

theorem TypeArgument.size_decode_le {value : JsonValue} {argument : TypeArgument}
    (decoded : decode value = some argument) : argument.value.size ≤ value.size := by
  unfold decode at decoded
  split at decoded
  · obtain ⟨kind, _, decoded⟩ := Option.bind_eq_some_iff.mp decoded
    obtain ⟨text, _, decoded⟩ := Option.bind_eq_some_iff.mp decoded
    obtain ⟨held, found, decoded⟩ := Option.bind_eq_some_iff.mp decoded
    cases decoded
    rw [JsonValue.size]
    exact Nat.le_succ_of_le (JsonValue.size_le_of_lookup found)
  · obtain ⟨text, _, decoded⟩ := Option.bind_eq_some_iff.mp decoded
    cases decoded
    simp only [JsonValue.size, JsonValue.itemsSize]
    omega
  · cases decoded

/-- Arguments are smaller than what they were decoded from. -/
theorem argumentsSize_lt_of_decode {value : JsonValue} {arguments : List TypeArgument}
    (decoded : decodeArguments value = some arguments) : argumentsSize arguments < value.size := by
  unfold decodeArguments at decoded
  split at decoded
  · next items =>
    rw [JsonValue.size, Nat.lt_succ_iff]
    induction items generalizing arguments with
    | nil =>
      cases decoded
      exact Nat.le_refl _
    | cons item rest step =>
      rw [List.mapM_cons] at decoded
      obtain ⟨argument, first, decoded⟩ := Option.bind_eq_some_iff.mp decoded
      obtain ⟨later, others, decoded⟩ := Option.bind_eq_some_iff.mp decoded
      cases decoded
      have one := TypeArgument.size_decode_le first
      have more := step others
      simp only [argumentsSize, List.map_cons, List.sum_cons, JsonValue.itemsSize] at more ⊢
      omega
  · cases decoded

theorem TypeSignature.size_decode_lt {value : JsonValue} {signature : TypeSignature}
    (decoded : decode value = some signature) : argumentsSize signature.arguments < value.size := by
  unfold decode at decoded
  split at decoded
  · next members =>
    obtain ⟨raw, _, decoded⟩ := Option.bind_eq_some_iff.mp decoded
    obtain ⟨text, _, decoded⟩ := Option.bind_eq_some_iff.mp decoded
    obtain ⟨arguments, found, decoded⟩ := Option.bind_eq_some_iff.mp decoded
    cases decoded
    rw [JsonValue.size]
    cases held : members.lookup "arguments" with
    | none =>
      rw [held] at found
      cases found
      exact Nat.succ_pos _
    | some value =>
      rw [held] at found
      have smaller := argumentsSize_lt_of_decode found
      have within := JsonValue.size_le_of_lookup held
      dsimp only
      omega
  · obtain ⟨text, _, decoded⟩ := Option.bind_eq_some_iff.mp decoded
    cases decoded
    exact Nat.succ_pos _
  · obtain ⟨text, _, decoded⟩ := Option.bind_eq_some_iff.mp decoded
    obtain ⟨arguments, found, decoded⟩ := Option.bind_eq_some_iff.mp decoded
    cases decoded
    have smaller := argumentsSize_lt_of_decode found
    simp only [JsonValue.size, JsonValue.itemsSize]
    omega
  · cases decoded

/-- What the JSON library does beyond the shape of values. -/
structure Serde where
  /-- What it says about a value that is no signature. -/
  decodeError : JsonValue → String
  write : Registry String JsonValue → String

/-- Types by their names alone. -/
def scalarType (raw : String) : Except DriverError DataType :=
  match raw with
  | "boolean" => .ok .boolean
  | "tinyint" => .ok .int8
  | "smallint" => .ok .int16
  | "integer" => .ok .int32
  | "bigint" => .ok .int64
  | "real" => .ok .float32
  | "double" => .ok .float64
  | "varbinary" => .ok .binary
  | "varchar" | "char" | "json" | "date" | "time" | "time with time zone" | "timestamp"
  | "timestamp with time zone" | "interval year to month" | "interval day to second" | "ipaddress"
  | "uuid" => .ok .utf8
  | _ => .error ⟨"trino_type", "unsupported Trino type '" ++ raw ++ "'"⟩

/-- The type of decimals of a precision and a scale. -/
def decimalType (precision scale : List Char) : Except DriverError DataType := do
  match Numeral.parseUnsigned (2 ^ 8) precision with
  | none => .error ⟨"trino_type", "invalid decimal precision"⟩
  | some precision =>
    match Numeral.parseSigned (2 ^ 7) scale with
    | none => .error ⟨"trino_type", "invalid decimal scale"⟩
    | some scale => .ok (.decimal128 precision scale)

/-- A numeric argument of a signature. -/
def longArgument (signature : TypeSignature) (index : Nat) : Except DriverError Nat :=
  match signature.arguments[index]?.bind fun argument => argument.value.asUnsigned? 64 with
  | some number => .ok number
  | none => .error ⟨"trino_type",
      signature.rawType ++ " is missing numeric type argument " ++ toString index⟩

section

variable (serde : Serde)

/-- The signature that a value holds. -/
def fromValue (value : JsonValue) :
    Except DriverError {nested : TypeSignature // argumentsSize nested.arguments < value.size} :=
  match decoded : TypeSignature.decode value with
  | some nested => .ok ⟨nested, TypeSignature.size_decode_lt decoded⟩
  | none => .error ⟨"trino_type", serde.decodeError value⟩

/-- An argument is no larger than the arguments together. -/
theorem size_le_argumentsSize {arguments : List TypeArgument} {argument : TypeArgument}
    (member : argument ∈ arguments) : argument.value.size ≤ argumentsSize arguments := by
  obtain ⟨before, after, rfl⟩ := List.append_of_mem member
  simp only [argumentsSize, List.map_append, List.map_cons, List.sum_append, List.sum_cons]
  omega

/-- An argument of a signature that is a signature. -/
def typeArgument (signature : TypeSignature) (index : Nat) :
    Except DriverError {nested : TypeSignature //
      argumentsSize nested.arguments < argumentsSize signature.arguments} :=
  match found : signature.arguments[index]? with
  | none => .error ⟨"trino_type", "missing type argument"⟩
  | some argument => do
    let nested ← fromValue serde argument.value
    return ⟨nested.1, nested.2.trans_le (size_le_argumentsSize (List.mem_of_getElem? found))⟩

/-- The signature of a field of a row. -/
def fieldSignature (argument : TypeArgument) :
    Except DriverError {nested : TypeSignature //
      argumentsSize nested.arguments < argument.value.size} := do
  let nested ← fromValue serde (argument.value.member "typeSignature")
  return ⟨nested.1, nested.2.trans_le (JsonValue.size_member_le _ _)⟩

/-- The name of a field of a row: its own, or else one made of its position. -/
def fieldName (argument : TypeArgument) (index : Nat) : String :=
  (((argument.value.member "fieldName").member "name").asString?).getD ("field_" ++ toString index)

mutual

/-- The Arrow type of a signature. -/
def signatureType (signature : TypeSignature) : Except DriverError DataType :=
  match signature.rawType with
  | "decimal" => do
    let precision ← longArgument signature 0
    let scale ← longArgument signature 1
    decimalType (Numeral.print precision) (Numeral.print scale)
  | "array" => do
    let item ← typeArgument serde signature 0
    return .list ⟨"item", ← signatureType item.1, true⟩
  | "map" => do
    let key ← typeArgument serde signature 0
    let key ← signatureType key.1
    let value ← typeArgument serde signature 1
    let value ← signatureType value.1
    return .mapOf ⟨"keys", key, false⟩ ⟨"values", value, true⟩
  | "row" => do return .struct (← namedFields signature.arguments 0)
  | raw => scalarType raw
termination_by 3 * argumentsSize signature.arguments + 2
decreasing_by
  · have := item.2
    omega
  · have := key.2
    omega
  · have := value.2
    omega
  · omega

/-- The fields of a row, numbered from an index. -/
def namedFields (arguments : List TypeArgument) (index : Nat) :
    Except DriverError (List (ArrowField DataType)) :=
  match arguments with
  | [] => .ok []
  | argument :: rest => do
    let field ← namedField argument index
    return field :: (← namedFields rest (index + 1))
termination_by 3 * argumentsSize arguments + 1
decreasing_by
  · simp only [argumentsSize, List.map_cons, List.sum_cons]
    omega
  · have := argument.value.size_pos
    simp only [argumentsSize, List.map_cons, List.sum_cons]
    omega

/-- A field of a row. -/
def namedField (argument : TypeArgument) (index : Nat) :
    Except DriverError (ArrowField DataType) := do
  if argument.kind ≠ "NAMED_TYPE" then .error ⟨"trino_type", "row argument is not NAMED_TYPE"⟩
  let signature ← fieldSignature serde argument
  return ⟨fieldName argument index, ← signatureType signature.1, true⟩
termination_by 3 * argument.value.size
decreasing_by
  have := signature.2
  omega

end

mutual

/-- A value in the form its Arrow type is read from: rows become objects, and the values in arrays
and rows are normalised in turn. -/
def normalizeSignature (signature : TypeSignature)
    (value : JsonValue) : Except DriverError JsonValue :=
  match value with
  | .null => .ok .null
  | .array values =>
    match signature.rawType with
    | "array" => do
      let item ← typeArgument serde signature 0
      return .array (← normalizeItems item.1 values)
    | "row" => do return .object (← normalizeFields signature.arguments 0 values [])
    | _ => .ok value
  | value =>
    match signature.rawType with
    | "array" => do
      let _ ← typeArgument serde signature 0
      .error ⟨"trino_protocol", "array value is not an array"⟩
    | "row" => .error ⟨"trino_protocol", "row value is not an array"⟩
    | _ => .ok value

/-- Normalise the items of an array. -/
def normalizeItems (item : TypeSignature) : List JsonValue → Except DriverError (List JsonValue)
  | [] => .ok []
  | value :: values => do
    let normal ← normalizeSignature item value
    return normal :: (← normalizeItems item values)

/-- Normalise the fields of a row and write them into an object, as long as there are arguments and
values. -/
def normalizeFields (arguments : List TypeArgument) (index : Nat) (values : List JsonValue)
    (object : List (String × JsonValue)) : Except DriverError (List (String × JsonValue)) :=
  match values, arguments with
  | value :: values, argument :: arguments => do
    let field ← namedField serde argument index
    let nested ← fieldSignature serde argument
    let normal ← normalizeSignature nested.1 value
    normalizeFields arguments (index + 1) values (JsonValue.setMember field.name normal object)
  | _, _ => .ok object

end

/-- A cell in the form the type of its column is read from. -/
def normalizeValue (column : Column) (value : JsonValue) : Except DriverError JsonValue :=
  match column.typeSignature with
  | some signature => normalizeSignature serde signature value
  | none => .ok value

/-- The type that a text names. -/
def displayType (value : String) : Except DriverError DataType :=
  let lower := value.toList.map Char.toLower
  match ("decimal(".toList.isPrefixOf? lower).filter (·.getLast? = some ')') with
  | some arguments =>
    match arguments.dropLast.span (· ≠ ',') with
    | (precision, _ :: scale) => decimalType (Text.strip precision) (Text.strip scale)
    | (_, []) => .error ⟨"trino_type", value⟩
  | none => scalarType (String.ofList lower)

/-- The Arrow type of a column. -/
def columnType (column : Column) : Except DriverError DataType :=
  match column.typeSignature with
  | some signature => signatureType serde signature
  | none => displayType column.displayType

/-- A column with its Arrow type. -/
def columnField (column : Column) : Except DriverError (ArrowField DataType) := do
  return ⟨column.name, ← columnType serde column, true⟩

/-- The conversions of columns and their cells. -/
def cells : CellCodec Column JsonValue where
  name := Column.name
  columnField column := (columnField serde column).map ArrowField.described
  normalizeValue := normalizeValue serde
  write := serde.write

end

end ConfluxQuery.Trino
