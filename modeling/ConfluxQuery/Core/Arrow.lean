import ConfluxQuery.Core.Driver

/-!
# Arrow types

The Arrow types that columns are given, with the names and the nullability of what they contain.
-/

namespace ConfluxQuery

/-- A named part of an Arrow type, over the types there are. -/
structure ArrowField (τ : Type) where
  name : String
  dataType : τ
  nullable : Bool

/-- An Arrow type. -/
inductive DataType
  | boolean
  | int8
  | int16
  | int32
  | int64
  | float32
  | float64
  | binary
  | utf8
  | date32
  /-- Microseconds, without a time zone. -/
  | timestamp
  | decimal128 (precision : Nat) (scale : Int)
  | list (item : ArrowField DataType)
  | struct (fields : List (ArrowField DataType))
  | map (entries : ArrowField DataType) (sorted : Bool)

/-- The type of maps, over the fields of their entries. -/
def DataType.mapOf (key value : ArrowField DataType) : DataType :=
  .map ⟨"entries", .struct [key, value], false⟩ false

namespace DataType

/-- The type contains no other types. -/
def isFlat : DataType → Bool
  | list _ | struct _ | map _ _ => false
  | _ => true

mutual

/-- A type as a text. -/
def text : DataType → String
  | boolean => "Boolean"
  | int8 => "Int8"
  | int16 => "Int16"
  | int32 => "Int32"
  | int64 => "Int64"
  | float32 => "Float32"
  | float64 => "Float64"
  | binary => "Binary"
  | utf8 => "Utf8"
  | date32 => "Date32"
  | timestamp => "Timestamp(Microsecond, None)"
  | decimal128 precision scale =>
    "Decimal128(" ++ toString precision ++ ", " ++ toString scale ++ ")"
  | list item => "List(" ++ fieldText item ++ ")"
  | struct fields => "Struct(" ++ fieldTexts fields ++ ")"
  | map entries sorted => "Map(" ++ fieldText entries ++ ", " ++ toString sorted ++ ")"

/-- A field as a text. -/
def fieldText : ArrowField DataType → String
  | ⟨name, dataType, nullable⟩ =>
    "Field(" ++ name.quote ++ ", " ++ dataType.text ++ ", " ++ toString nullable ++ ")"

/-- Fields as a text. -/
def fieldTexts : List (ArrowField DataType) → String
  | [] => ""
  | field :: rest => fieldText field ++ ";" ++ fieldTexts rest

end

end DataType

/-- A field of a schema, with its type as a text. -/
def ArrowField.described (field : ArrowField DataType) : Field :=
  ⟨field.name, field.dataType.text, field.nullable⟩

end ConfluxQuery
