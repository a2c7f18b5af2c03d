import ConfluxQuery.Verif.TrinoCells

/-!
# The values of a Trino type

Types of the Trino protocol with the signatures and the values a server sends for them, and what the
adapter makes of these: the Arrow type of the signature and the normalised value. The two fit,
except that a map keeps its values as they were sent, rows under them included, and that a row whose
fields share a name loses all but the last of them.
-/

namespace ConfluxQuery.Trino

/-- Scalar types the adapter supports. -/
inductive ScalarName
  | boolean
  | tinyint
  | smallint
  | integer
  | bigint
  | real
  | double
  | varbinary
  | varchar
  | char
  | json
  | date
  | time
  | timeWithTimeZone
  | timestamp
  | timestampWithTimeZone
  | intervalYearToMonth
  | intervalDayToSecond
  | ipaddress
  | uuid
  deriving DecidableEq

/-- The name in a signature. -/
def ScalarName.raw : ScalarName → String
  | boolean => "boolean"
  | tinyint => "tinyint"
  | smallint => "smallint"
  | integer => "integer"
  | bigint => "bigint"
  | real => "real"
  | double => "double"
  | varbinary => "varbinary"
  | varchar => "varchar"
  | char => "char"
  | json => "json"
  | date => "date"
  | time => "time"
  | timeWithTimeZone => "time with time zone"
  | timestamp => "timestamp"
  | timestampWithTimeZone => "timestamp with time zone"
  | intervalYearToMonth => "interval year to month"
  | intervalDayToSecond => "interval day to second"
  | ipaddress => "ipaddress"
  | uuid => "uuid"

/-- The Arrow type of a scalar type. -/
def ScalarName.dataType : ScalarName → DataType
  | boolean => .boolean
  | tinyint => .int8
  | smallint => .int16
  | integer => .int32
  | bigint => .int64
  | real => .float32
  | double => .float64
  | varbinary => .binary
  | _ => .utf8

/-- A type of the protocol: scalars with their parameters, decimals, and arrays, maps and rows of
types. Fields of rows may have no name, and names may repeat. -/
inductive TrinoType
  | scalar (name : ScalarName) (parameters : List Nat)
  | decimal (precision : Fin (2 ^ 8)) (scale : Fin (2 ^ 7))
  | array (item : TrinoType)
  | map (key value : TrinoType)
  | row (fields : List (Option String × TrinoType))

/-- Induction over types; for a row, over the types of its fields. -/
@[elab_as_elim, induction_eliminator]
theorem TrinoType.induct {motive : TrinoType → Prop}
    (scalar : ∀ name parameters, motive (.scalar name parameters))
    (decimal : ∀ precision scale, motive (.decimal precision scale))
    (array : ∀ item, motive item → motive (.array item))
    (map : ∀ key value, motive key → motive value → motive (.map key value))
    (row : ∀ fields, (∀ field ∈ fields, motive field.2) → motive (.row fields)) :
    (type : TrinoType) → motive type
  | .scalar name parameters => scalar name parameters
  | .decimal precision scale => decimal precision scale
  | .array item => array item (induct scalar decimal array map row item)
  | .map key value => map key value (induct scalar decimal array map row key)
      (induct scalar decimal array map row value)
  | .row fields => row fields fun field _member => induct scalar decimal array map row field.2
termination_by type => sizeOf type
decreasing_by
  · rw [TrinoType.array.sizeOf_spec]
    omega
  · rw [TrinoType.map.sizeOf_spec]
    omega
  · rw [TrinoType.map.sizeOf_spec]
    omega
  · have smaller := List.sizeOf_lt_of_mem _member
    obtain ⟨name, type⟩ := field
    rw [Prod.mk.sizeOf_spec] at smaller
    rw [TrinoType.row.sizeOf_spec]
    dsimp only
    omega

/-- A signature as JSON. -/
def TypeSignature.json (signature : TypeSignature) : JsonValue :=
  .object [("rawType", .string signature.rawType), ("arguments", .array (signature.arguments.map
    fun argument => .object [("kind", .string argument.kind), ("value", argument.value)]))]

/-- The name of a field as JSON. -/
def fieldNameJson : Option String → JsonValue
  | some name => .object [("name", .string name)]
  | none => .null

/-- The argument that is sent for a field of a row. -/
def fieldArgument (name : Option String) (signature : TypeSignature) : TypeArgument :=
  ⟨"NAMED_TYPE", .object [("fieldName", fieldNameJson name), ("typeSignature", signature.json)]⟩

mutual

/-- The signature that a server sends for a type. -/
def TrinoType.signature : TrinoType → TypeSignature
  | .scalar name parameters =>
    ⟨name.raw, parameters.map fun parameter => ⟨"LONG", .integer parameter⟩⟩
  | .decimal precision scale =>
    ⟨"decimal", [⟨"LONG", .integer precision.val⟩, ⟨"LONG", .integer scale.val⟩]⟩
  | .array item => ⟨"array", [⟨"TYPE", item.signature.json⟩]⟩
  | .map key value => ⟨"map", [⟨"TYPE", key.signature.json⟩, ⟨"TYPE", value.signature.json⟩]⟩
  | .row fields => ⟨"row", fieldArguments fields⟩

/-- The arguments for the fields of a row. -/
def fieldArguments : List (Option String × TrinoType) → List TypeArgument
  | [] => []
  | (name, type) :: rest => fieldArgument name type.signature :: fieldArguments rest

end

mutual

/-- The Arrow type that is meant for a type. -/
def TrinoType.dataType : TrinoType → DataType
  | .scalar name _ => name.dataType
  | .decimal precision scale => .decimal128 precision.val scale.val
  | .array item => .list ⟨"item", item.dataType, true⟩
  | .map key value => .mapOf ⟨"keys", key.dataType, false⟩ ⟨"values", value.dataType, true⟩
  | .row fields => .struct (fieldTypes fields 0)

/-- The Arrow fields of the fields of a row, numbered from an index. -/
def fieldTypes : List (Option String × TrinoType) → Nat → List (ArrowField DataType)
  | [], _ => []
  | (name, type) :: rest, index =>
    ⟨name.getD ("field_" ++ toString index), type.dataType, true⟩ :: fieldTypes rest (index + 1)

end

theorem decode_json (signature : TypeSignature) :
    TypeSignature.decode signature.json = some signature := by
  have arguments : ∀ arguments : List TypeArgument,
      (arguments.map fun argument =>
        JsonValue.object [("kind", .string argument.kind), ("value", argument.value)]).mapM
          TypeArgument.decode = some arguments := by
    intro arguments
    induction arguments with
    | nil => rfl
    | cons argument rest step =>
      rw [List.map_cons, List.mapM_cons, step]
      rfl
  obtain ⟨raw, held⟩ := signature
  simp [TypeSignature.json, TypeSignature.decode, List.lookup, JsonValue.asString?, decodeArguments,
    arguments]

section

variable (serde : Serde)

/-- A signature is found in its JSON. -/
theorem fromValue_json (signature : TypeSignature) :
    ∃ smaller, fromValue serde signature.json = .ok ⟨signature, smaller⟩ := by
  refine ⟨TypeSignature.size_decode_lt (decode_json signature), ?_⟩
  unfold fromValue
  split
  · next nested decoded =>
    cases decoded.symm.trans (decode_json signature)
    rfl
  · next missing => cases missing.symm.trans (decode_json signature)

/-- A signature is found as the argument it was sent as. -/
theorem typeArgument_json {signature nested : TypeSignature} {index : Nat} {kind : String}
    (held : signature.arguments[index]? = some ⟨kind, nested.json⟩) :
    ∃ smaller, typeArgument serde signature index = .ok ⟨nested, smaller⟩ := by
  obtain ⟨smaller, decoded⟩ := fromValue_json serde nested
  refine ⟨smaller.trans_le (size_le_argumentsSize (List.mem_of_getElem? held)), ?_⟩
  unfold typeArgument
  split
  · next missing => cases missing.symm.trans held
  · next argument found =>
    cases found.symm.trans held
    dsimp only
    rw [decoded]
    rfl

/-- The signature of a field is found in the argument of the field. -/
theorem fieldSignature_json (name : Option String) (signature : TypeSignature) :
    ∃ smaller, fieldSignature serde (fieldArgument name signature) = .ok ⟨signature, smaller⟩ := by
  have held : (fieldArgument name signature).value.member "typeSignature" = signature.json := rfl
  have within := JsonValue.size_member_le "typeSignature" (fieldArgument name signature).value
  obtain ⟨smaller, decoded⟩ := fromValue_json serde signature
  refine ⟨smaller.trans_le (held ▸ within), ?_⟩
  change fromValue serde signature.json >>= _ = _
  rw [decoded]
  rfl

/-- The name of a field is its own, or else one made of its position. -/
theorem fieldName_json (name : Option String) (signature : TypeSignature) (index : Nat) :
    fieldName (fieldArgument name signature) index = name.getD ("field_" ++ toString index) := by
  cases name <;> rfl

theorem namedField_json {type : TrinoType}
    (typed : signatureType serde type.signature = .ok type.dataType) (name : Option String)
    (index : Nat) :
    namedField serde (fieldArgument name type.signature) index =
      .ok ⟨name.getD ("field_" ++ toString index), type.dataType, true⟩ := by
  obtain ⟨smaller, found⟩ := fieldSignature_json serde name type.signature
  rw [namedField, if_neg (by simp [fieldArgument]), found, fieldName_json]
  change signatureType serde type.signature >>= _ = _
  rw [typed]
  rfl

/-- The fields of a row are named and typed as they are meant to be. -/
theorem namedFields_json {fields : List (Option String × TrinoType)}
    (typed : ∀ field ∈ fields, signatureType serde field.2.signature = .ok field.2.dataType)
    (index : Nat) :
    namedFields serde (fieldArguments fields) index = .ok (fieldTypes fields index) := by
  induction fields generalizing index with
  | nil =>
    rw [fieldArguments, namedFields]
    rfl
  | cons field rest step =>
    obtain ⟨name, type⟩ := field
    rw [fieldArguments, namedFields,
      namedField_json serde (typed (name, type) List.mem_cons_self),
      step fun field member => typed field (List.mem_cons_of_mem _ member)]
    rfl

/-- A small number is found as the argument it was sent as. -/
theorem longArgument_json {signature : TypeSignature} {index number : Nat} {kind : String}
    (held : signature.arguments[index]? = some ⟨kind, .integer number⟩)
    (small : number < 2 ^ 64) : longArgument signature index = .ok number := by
  have read : JsonValue.asUnsigned? 64 (.integer number) = some number := if_pos small
  rw [longArgument, held, Option.bind_some, read]

/-- Decimals are typed by their precision and their scale. -/
theorem decimalType_print (precision : Fin (2 ^ 8)) (scale : Fin (2 ^ 7)) :
    decimalType (Numeral.print precision) (Numeral.print scale) =
      .ok (.decimal128 precision.val scale.val) := by
  have small : ((scale.val : Nat) : Int) < (2 ^ 7 : Nat) := Int.ofNat_lt.mpr scale.isLt
  have read : Numeral.parseSigned (2 ^ 7) (Numeral.print scale) = some (scale.val : Int) :=
    @Numeral.parseSigned_print (2 ^ 7) scale.val (by omega) small
  simp only [decimalType, Numeral.parseUnsigned_print precision.isLt, read]

/-- The adapter gives every type the Arrow type that is meant for it. -/
theorem signatureType_signature (type : TrinoType) :
    signatureType serde type.signature = .ok type.dataType := by
  induction type with
  | scalar name parameters =>
    unfold signatureType
    cases name <;> rfl
  | decimal precision scale =>
    have first : (TrinoType.decimal precision scale).signature.arguments[0]? =
      some ⟨"LONG", .integer precision.val⟩ := rfl
    have second : (TrinoType.decimal precision scale).signature.arguments[1]? =
      some ⟨"LONG", .integer scale.val⟩ := rfl
    unfold signatureType
    change longArgument (TrinoType.decimal precision scale).signature 0 >>= _ = _
    rw [longArgument_json first (precision.isLt.trans (by decide))]
    change longArgument (TrinoType.decimal precision scale).signature 1 >>= _ = _
    rw [longArgument_json second (scale.isLt.trans (by decide))]
    exact decimalType_print precision scale
  | array item step =>
    have held : (TrinoType.array item).signature.arguments[0]? =
      some ⟨"TYPE", item.signature.json⟩ := rfl
    obtain ⟨smaller, found⟩ := typeArgument_json serde held
    unfold signatureType
    change typeArgument serde (TrinoType.array item).signature 0 >>= _ = _
    rw [found]
    change signatureType serde item.signature >>= _ = _
    rw [step]
    rfl
  | map key value keyStep valueStep =>
    have first : (TrinoType.map key value).signature.arguments[0]? =
      some ⟨"TYPE", key.signature.json⟩ := rfl
    have second : (TrinoType.map key value).signature.arguments[1]? =
      some ⟨"TYPE", value.signature.json⟩ := rfl
    obtain ⟨_, foundKey⟩ := typeArgument_json serde first
    obtain ⟨_, foundValue⟩ := typeArgument_json serde second
    unfold signatureType
    change typeArgument serde (TrinoType.map key value).signature 0 >>= _ = _
    rw [foundKey]
    change signatureType serde key.signature >>= _ = _
    rw [keyStep]
    change typeArgument serde (TrinoType.map key value).signature 1 >>= _ = _
    rw [foundValue]
    change signatureType serde value.signature >>= _ = _
    rw [valueStep]
    rfl
  | row fields step =>
    unfold signatureType
    change namedFields serde (fieldArguments fields) 0 >>= _ = _
    rw [namedFields_json serde step]
    rfl

end

/-- The values that a server sends for a type: `null` for every type, plain values for scalars,
arrays for arrays and for rows, and objects for maps. -/
inductive Sends : TrinoType → JsonValue → Prop
  | null (type : TrinoType) : Sends type .null
  | scalar (name : ScalarName) (parameters : List Nat) (value : JsonValue)
      (plain : value.isScalar = true) : Sends (.scalar name parameters) value
  | decimal (precision : Fin (2 ^ 8)) (scale : Fin (2 ^ 7)) (value : JsonValue)
      (plain : value.isScalar = true) : Sends (.decimal precision scale) value
  | array (item : TrinoType) (values : List JsonValue) (each : ∀ value ∈ values, Sends item value) :
      Sends (.array item) (.array values)
  | map (key type : TrinoType) (members : List (String × JsonValue))
      (distinct : (JsonValue.names members).Nodup)
      (each : ∀ member ∈ members, Sends type member.2) :
      Sends (.map key type) (.object members)
  | row (fields : List (Option String × TrinoType)) (values : List JsonValue)
      (wide : values.length = fields.length)
      (each : ∀ (i : Nat) (field : Option String × TrinoType) (value : JsonValue),
        fields[i]? = some field → values[i]? = some value → Sends field.2 value) :
      Sends (.row fields) (.array values)

/-- A normalised value has the shape that an Arrow type prescribes for a value that was sent: `null`
stays `null`, flat types keep the value, a list has the items of the array, a struct has one member
for each of its fields, which carries the field's own value, and a map has the members that were
sent; the values in lists, structs and maps have the shapes of their types in turn. -/
inductive Fits : DataType → JsonValue → JsonValue → Prop
  | null (dataType : DataType) : Fits dataType .null .null
  | flat (dataType : DataType) (value : JsonValue) (flat : dataType.isFlat = true) :
      Fits dataType value value
  | list (item : ArrowField DataType) (values normals : List JsonValue)
      (same : normals.length = values.length)
      (each : ∀ (i : Nat) (value normal : JsonValue), values[i]? = some value →
        normals[i]? = some normal → Fits item.dataType value normal) :
      Fits (.list item) (.array values) (.array normals)
  | struct (fields : List (ArrowField DataType)) (values normals : List JsonValue)
      (members : List (String × JsonValue)) (sent : values.length = fields.length)
      (kept : normals.length = fields.length) (one : members.length = fields.length)
      (carried : ∀ (i : Nat) (field : ArrowField DataType) (normal : JsonValue),
        fields[i]? = some field → normals[i]? = some normal →
          members.lookup field.name = some normal)
      (each : ∀ (i : Nat) (field : ArrowField DataType) (value normal : JsonValue),
        fields[i]? = some field → values[i]? = some value → normals[i]? = some normal →
          Fits field.dataType value normal) :
      Fits (.struct fields) (.array values) (.object members)
  | map (key value : ArrowField DataType) (name : String) (nullable sorted : Bool)
      (members normals : List (String × JsonValue))
      (same : JsonValue.names normals = JsonValue.names members)
      (each : ∀ (i : Nat) (sent normal : String × JsonValue), members[i]? = some sent →
        normals[i]? = some normal → Fits value.dataType sent.2 normal.2) :
      Fits (.map ⟨name, .struct [key, value], nullable⟩ sorted) (.object members) (.object normals)

/-- A value that was sent for a type contains no row, other than `null`. -/
def TrinoType.Rowless : TrinoType → JsonValue → Prop
  | .array item, .array values => ∀ value ∈ values, item.Rowless value
  | .map _ type, .object members => ∀ member ∈ members, type.Rowless member.2
  | .row _, value => value = .null
  | _, _ => True

/-- The names of the fields of a row, numbered from an index. -/
def fieldNames (fields : List (Option String × TrinoType)) (index : Nat) : List String :=
  (fieldTypes fields index).map ArrowField.name

mutual

/-- In a value that was sent for a type, the rows have fields of different names, and no map has a
row under its values. -/
def TrinoType.Plain : TrinoType → JsonValue → Prop
  | .array item, .array values => ∀ value ∈ values, item.Plain value
  | .map _ type, .object members => ∀ member ∈ members, type.Rowless member.2
  | .row fields, .array values => (fieldNames fields 0).Nodup ∧ PlainFields fields values
  | _, _ => True

/-- The fields of a row are plain in turn. -/
def PlainFields : List (Option String × TrinoType) → List JsonValue → Prop
  | (_, type) :: fields, value :: values => type.Plain value ∧ PlainFields fields values
  | _, _ => True

end

theorem ScalarName.dataType_isFlat (name : ScalarName) : name.dataType.isFlat = true := by
  cases name <;> rfl

/-- A list fits an array item by item. -/
theorem fits_list_iff {item : ArrowField DataType} {values normals : List JsonValue}
    (same : normals.length = values.length) :
    Fits (.list item) (.array values) (.array normals) ↔
      ∀ (i : Nat) (value normal : JsonValue), values[i]? = some value → normals[i]? = some normal →
        Fits item.dataType value normal := by
  constructor
  · intro fits
    cases fits with
    | flat _ _ flat => cases flat
    | list _ _ _ _ each => exact each
  · exact .list item values normals same

theorem fits_map_iff {key value : ArrowField DataType} {members : List (String × JsonValue)} :
    Fits (.mapOf key value) (.object members) (.object members) ↔
      ∀ member ∈ members, Fits value.dataType member.2 member.2 := by
  constructor
  · intro fits member held
    obtain ⟨i, found⟩ := List.mem_iff_getElem?.mp held
    cases fits with
    | flat _ _ flat => cases flat
    | map _ _ _ _ _ _ _ _ each => exact each i member member found found
  · intro each
    refine .map key value _ _ _ members members rfl fun i sent normal first second => ?_
    cases first.symm.trans second
    exact each sent (List.mem_of_getElem? first)

/-- A value that is kept as it was sent fits its type exactly when it contains no row. -/
theorem fits_self_iff (type : TrinoType) {value : JsonValue} (sent : Sends type value) :
    Fits type.dataType value value ↔ type.Rowless value := by
  induction type generalizing value with
  | scalar name parameters =>
    exact iff_of_true (.flat _ _ name.dataType_isFlat) (by simp [TrinoType.Rowless])
  | decimal precision scale =>
    exact iff_of_true (.flat _ _ rfl) (by simp [TrinoType.Rowless])
  | array item step =>
    cases sent with
    | null => exact iff_of_true (.null _) (by simp [TrinoType.Rowless])
    | array _ values each =>
      rw [TrinoType.dataType, fits_list_iff rfl, TrinoType.Rowless]
      constructor
      · intro fits value held
        obtain ⟨i, found⟩ := List.mem_iff_getElem?.mp held
        exact (step (each value held)).mp (fits i value value found found)
      · intro rowless i value normal first second
        cases first.symm.trans second
        have held := List.mem_of_getElem? first
        exact (step (each value held)).mpr (rowless value held)
  | map key type _ step =>
    cases sent with
    | null => exact iff_of_true (.null _) (by simp [TrinoType.Rowless])
    | map _ _ members _ each =>
      rw [TrinoType.dataType, fits_map_iff, TrinoType.Rowless]
      exact forall₂_congr fun member held => step (each member held)
  | row fields _ =>
    cases sent with
    | null => exact iff_of_true (.null _) rfl
    | row _ values _ _ =>
      refine iff_of_false (fun fits => ?_) (by simp [TrinoType.Rowless])
      cases fits with
      | flat _ _ flat => cases flat

section

variable (serde : Serde)

variable {values normals : List JsonValue} {fields : List (Option String × TrinoType)}

/-- The items of an array are normalised when each of them is. -/
theorem normalizeItems_ok {signature : TypeSignature} {meant : JsonValue → JsonValue → Prop}

    (each : ∀ value ∈ values, ∃ normal, normalizeSignature serde signature value = .ok normal ∧
      meant value normal) :
    ∃ normals, normalizeItems serde signature values = .ok normals ∧
      List.Forall₂ meant values normals := by
  induction values with
  | nil =>
    rw [normalizeItems]
    exact ⟨[], rfl, .nil⟩
  | cons value values step =>
    obtain ⟨normal, first, right⟩ := each value List.mem_cons_self
    obtain ⟨normals, others, more⟩ :=
      step fun other member => each other (List.mem_cons_of_mem _ member)
    rw [normalizeItems, first, others]
    exact ⟨normal :: normals, rfl, .cons right more⟩

/-- The fields of a row are normalised when each of them is, and are written under their names. -/
theorem normalizeFields_ok (meant : TrinoType → JsonValue → JsonValue → Prop)
    (each : List.Forall₂ (fun field value => ∃ normal,
      normalizeSignature serde field.2.signature value = .ok normal ∧
      meant field.2 value normal) fields values)
    (index : Nat) (object : List (String × JsonValue)) :
    ∃ normals, normalizeFields serde (fieldArguments fields) index values object =
        .ok (JsonValue.setMembers object ((fieldNames fields index).zip normals)) ∧
      normals.length = fields.length ∧
      ∀ (i : Nat) (field : Option String × TrinoType) (value normal : JsonValue),
        fields[i]? = some field → values[i]? = some value → normals[i]? = some normal →
          meant field.2 value normal := by
  induction each generalizing index object with
  | nil =>
    rw [fieldArguments, normalizeFields]
    · exact ⟨[], rfl, rfl, nofun⟩
    · nofun
  | @cons field value fields values one _ step =>
    obtain ⟨name, type⟩ := field
    obtain ⟨normal, first, right⟩ := one
    obtain ⟨smaller, found⟩ := fieldSignature_json serde name type.signature
    obtain ⟨normals, others, length, more⟩ := step (index + 1)
      (JsonValue.setMember (name.getD ("field_" ++ toString index)) normal object)
    rw [fieldArguments, normalizeFields,
      namedField_json serde (signatureType_signature serde type), found]
    refine ⟨normal :: normals, ?_, by rw [List.length_cons, List.length_cons, length], ?_⟩
    · change normalizeSignature serde type.signature value >>= _ = _
      rw [first]
      exact others
    · intro i field held result atField atValue atNormal
      cases i with
      | zero =>
        cases atField
        cases atValue
        cases atNormal
        exact right
      | succ i => exact more i field held result atField atValue atNormal

/-- The Arrow fields of a row stand where the fields do. -/
theorem fieldTypes_getElem? {index i : Nat} {field : ArrowField DataType}
    (found : (fieldTypes fields index)[i]? = some field) :
    ∃ source, fields[i]? = some source ∧ field.dataType = source.2.dataType ∧
      (fieldNames fields index)[i]? = some field.name := by
  induction fields generalizing index i with
  | nil => cases found
  | cons source rest step =>
    obtain ⟨name, type⟩ := source
    cases i with
    | zero =>
      cases found
      exact ⟨_, rfl, rfl, rfl⟩
    | succ i => exact step found

theorem length_fieldTypes (fields : List (Option String × TrinoType)) (index : Nat) :
    (fieldTypes fields index).length = fields.length := by
  induction fields generalizing index with
  | nil => rfl
  | cons field rest step => rw [fieldTypes, List.length_cons, List.length_cons, step]

theorem plainFields_iff :
    PlainFields fields values ↔ ∀ (i : Nat) (field : Option String × TrinoType) (value : JsonValue),
      fields[i]? = some field → values[i]? = some value → field.2.Plain value := by
  induction fields generalizing values with
  | nil => simp [PlainFields]
  | cons field rest step =>
    obtain ⟨name, type⟩ := field
    cases values with
    | nil => simp [PlainFields]
    | cons value values =>
      rw [PlainFields, step]
      constructor
      · rintro ⟨first, others⟩ i field held atField atValue
        cases i with
        | zero =>
          cases atField
          cases atValue
          exact first
        | succ i => exact others i field held atField atValue
      · intro each
        exact ⟨each 0 _ _ rfl rfl, fun i field held atField atValue =>
          each (i + 1) field held atField atValue⟩

/-- A field is written under its name. -/
theorem names_written (length : normals.length = fields.length) :
    JsonValue.names ((fieldNames fields 0).zip normals) = fieldNames fields 0 :=
  List.map_fst_zip (by rw [fieldNames, List.length_map, length_fieldTypes, length])

/-- An object that was written field by field holds the value of a field under its name, when no two
fields share a name. -/
theorem written_lookup (length : normals.length = fields.length)
    (distinct : (fieldNames fields 0).Nodup) {i : Nat} {field : ArrowField DataType}
    {normal : JsonValue} (atField : (fieldTypes fields 0)[i]? = some field)
    (atNormal : normals[i]? = some normal) :
    (JsonValue.setMembers [] ((fieldNames fields 0).zip normals)).lookup field.name =
      some normal := by
  obtain ⟨source, _, _, atName⟩ := fieldTypes_getElem? atField
  rw [← names_written length] at distinct
  refine JsonValue.lookup_setMembers distinct ?_ []
  exact List.mem_of_getElem? (List.getElem?_zip_eq_some.mpr ⟨atName, atNormal⟩)

/-- The object of a row fits exactly when no two fields share a name and the value of each fits. -/
theorem fits_row_iff (wide : values.length = fields.length)
    (length : normals.length = fields.length)

    (each : ∀ (i : Nat) (field : Option String × TrinoType) (value normal : JsonValue), fields[i]? =
      some field → values[i]? = some value → normals[i]? = some normal →
      (Fits field.2.dataType value normal ↔ field.2.Plain value)) :
    Fits (.struct (fieldTypes fields 0)) (.array values)
        (.object (JsonValue.setMembers [] ((fieldNames fields 0).zip normals))) ↔
      (fieldNames fields 0).Nodup ∧ PlainFields fields values := by
  have entries : ((fieldNames fields 0).zip normals).length = fields.length := by
    rw [List.length_zip, fieldNames, List.length_map, length_fieldTypes, length, Nat.min_self]
  have written := JsonValue.length_written_iff ((fieldNames fields 0).zip normals)
  rw [entries, names_written length] at written
  rw [plainFields_iff]
  constructor
  · intro fits
    cases fits with
    | struct _ _ kept members _ keptLength one carried held =>
      rw [length_fieldTypes] at keptLength one
      have distinct := written.mp one
      refine ⟨distinct, fun i field value atField atValue => ?_⟩
      have bound := (List.getElem?_eq_some_iff.mp atField).1
      obtain ⟨normal, atNormal⟩ : ∃ normal, normals[i]? = some normal :=
        ⟨_, List.getElem?_eq_getElem (by omega)⟩
      obtain ⟨other, atOther⟩ : ∃ other, kept[i]? = some other :=
        ⟨_, List.getElem?_eq_getElem (by omega)⟩
      obtain ⟨arrow, atArrow⟩ : ∃ arrow, (fieldTypes fields 0)[i]? = some arrow :=
        ⟨_, List.getElem?_eq_getElem (by rw [length_fieldTypes]; exact bound)⟩
      obtain ⟨source, atSource, typed, -⟩ := fieldTypes_getElem? atArrow
      cases atSource.symm.trans atField
      cases (carried i arrow other atArrow atOther).symm.trans
        (written_lookup length distinct atArrow atNormal)
      rw [← each i field value normal atField atValue atNormal, ← typed]
      exact held i arrow value normal atArrow atValue atOther
  · rintro ⟨distinct, plain⟩
    refine .struct _ _ normals _ (by rw [length_fieldTypes, wide])
      (by rw [length_fieldTypes, length]) (by rw [length_fieldTypes]; exact written.mpr distinct)
      (fun i field normal => written_lookup length distinct) ?_
    intro i field value normal atField atValue atNormal
    obtain ⟨source, atSource, typed, -⟩ := fieldTypes_getElem? atField
    rw [typed, each i source value normal atSource atValue atNormal]
    exact plain i source value atSource atValue

/-- A missing value stays missing, and is plain for every type. -/
theorem normalize_null (type : TrinoType) : ∃ normal,
    normalizeSignature serde type.signature .null = .ok normal ∧
      (Fits type.dataType .null normal ↔ type.Plain .null) := by
  refine ⟨.null, by rw [normalizeSignature], iff_of_true (.null _) ?_⟩
  cases type <;> simp [TrinoType.Plain]

/-- A relation of lists relates what stands at the same positions. -/
theorem forall₂_iff_getElem? {α β : Type} {related : α → β → Prop} {left : List α}
    {right : List β} (same : right.length = left.length) :
    List.Forall₂ related left right ↔ ∀ (i : Nat) (first : α) (second : β),
      left[i]? = some first → right[i]? = some second → related first second := by
  rw [List.forall₂_iff_get]
  constructor
  · rintro ⟨-, each⟩ i first second atLeft atRight
    obtain ⟨within, rfl⟩ := List.getElem?_eq_some_iff.mp atLeft
    obtain ⟨bound, rfl⟩ := List.getElem?_eq_some_iff.mp atRight
    exact each i within bound
  · intro each
    exact ⟨same.symm, fun i within bound => each i _ _ (List.getElem?_eq_getElem within)
      (List.getElem?_eq_getElem bound)⟩

/-- Every value that is sent for a type is normalised, to one that fits the type exactly when the
value is plain. -/
theorem normalize_sent (type : TrinoType) {value : JsonValue} (sent : Sends type value) :
    ∃ normal, normalizeSignature serde type.signature value = .ok normal ∧
      (Fits type.dataType value normal ↔ type.Plain value) := by
  induction type generalizing value with
  | scalar name parameters =>
    refine ⟨value, normalizeSignature_plain serde ?_ ?_ value,
      iff_of_true (.flat _ _ name.dataType_isFlat) (by simp [TrinoType.Plain])⟩ <;>
    cases name <;> simp [TrinoType.signature, ScalarName.raw]
  | decimal precision scale =>
    exact ⟨value, normalizeSignature_plain serde (by simp [TrinoType.signature])
      (by simp [TrinoType.signature]) value,
      iff_of_true (.flat _ _ rfl) (by simp [TrinoType.Plain])⟩
  | array item step =>
    cases sent with
    | null => exact normalize_null serde _
    | array _ values each =>
      obtain ⟨normals, normalized, matching⟩ :=
        normalizeItems_ok serde fun value held => step (each value held)
      have held : (TrinoType.array item).signature.arguments[0]? =
        some ⟨"TYPE", item.signature.json⟩ := rfl
      obtain ⟨smaller, found⟩ := typeArgument_json serde held
      refine ⟨.array normals, ?_, ?_⟩
      · rw [normalizeSignature]
        change typeArgument serde (TrinoType.array item).signature 0 >>= _ = _
        rw [found]
        change normalizeItems serde item.signature values >>= _ = _
        rw [normalized]
        rfl
      · have same := matching.length_eq.symm
        have matching := (forall₂_iff_getElem? same).mp matching
        rw [TrinoType.dataType, fits_list_iff same, TrinoType.Plain]
        constructor
        · intro fits value held
          obtain ⟨i, atValue⟩ := List.mem_iff_getElem?.mp held
          have bound := (List.getElem?_eq_some_iff.mp atValue).1
          have atNormal := List.getElem?_eq_getElem (same ▸ bound)
          exact (matching i value _ atValue atNormal).mp (fits i value _ atValue atNormal)
        · intro plain i value normal atValue atNormal
          exact (matching i value normal atValue atNormal).mpr
            (plain value (List.mem_of_getElem? atValue))
  | map key type _ step =>
    cases sent with
    | null => exact normalize_null serde _
    | map _ _ members _ each =>
      refine ⟨.object members, normalizeSignature_plain serde (by simp [TrinoType.signature])
        (by simp [TrinoType.signature]) _, ?_⟩
      rw [TrinoType.dataType, fits_map_iff, TrinoType.Plain]
      exact forall₂_congr fun member held => fits_self_iff type (each member held)
  | row fields step =>
    cases sent with
    | null => exact normalize_null serde _
    | row _ values wide each =>
      have matching := (forall₂_iff_getElem? wide).mpr fun i field value atField atValue =>
        step field (List.mem_of_getElem? atField) (each i field value atField atValue)
      obtain ⟨normals, normalized, length, held⟩ := normalizeFields_ok serde
        (fun type value normal => Fits type.dataType value normal ↔ type.Plain value) matching 0 []
      refine ⟨_, ?_, fits_row_iff wide length held⟩
      rw [normalizeSignature]
      change normalizeFields serde (fieldArguments fields) 0 values [] >>= _ = _
      rw [normalized]
      rfl

end

/-- Values that a Trino server sends fit the Arrow type of their column, if and only if in them rows
have fields of different names and no map has a row under its values. They are normalised in any
case. -/
theorem normalized_value_fits_iff (serde : Serde) (type : TrinoType) (value : JsonValue)
    (sent : Sends type value) :
    ∃ dataType normal, signatureType serde type.signature = .ok dataType ∧
      normalizeSignature serde type.signature value = .ok normal ∧
        (Fits dataType value normal ↔ type.Plain value) := by
  obtain ⟨normal, normalized, fits⟩ := normalize_sent serde type sent
  exact ⟨_, normal, signatureType_signature serde type, normalized, fits⟩

namespace Sample

/-- The type of rows with one field. -/
def pointType : TrinoType := .row [(some "x", .scalar .bigint [])]

theorem sends_point (value : Int) : Sends pointType (.array [.integer value]) := by
  refine .row _ _ rfl fun i field held atField atValue => ?_
  cases i with
  | zero =>
    cases atField
    cases atValue
    exact .scalar _ _ _ rfl
  | succ i => cases atField

end Sample

/-- An array of rows is normalised to one that fits. -/
theorem normalized_points_fit : ∃ dataType normal,
    signatureType Sample.answerSerde (TrinoType.array Sample.pointType).signature = .ok dataType ∧
      normalizeSignature Sample.answerSerde (TrinoType.array Sample.pointType).signature
        (.array [.array [.integer 1], .null]) = .ok normal ∧
      Fits dataType (.array [.array [.integer 1], .null]) normal := by
  have sent : Sends (.array Sample.pointType) (.array [.array [.integer 1], .null]) := by
    refine .array _ _ fun value held => ?_
    rcases List.mem_cons.mp held with rfl | later
    · exact Sample.sends_point 1
    · cases List.mem_singleton.mp later
      exact .null _
  obtain ⟨dataType, normal, typed, normalized, fits⟩ :=
    normalized_value_fits_iff Sample.answerSerde _ _ sent
  refine ⟨dataType, normal, typed, normalized, fits.mpr ?_⟩
  simp [Sample.pointType, TrinoType.Plain, PlainFields, fieldNames, fieldTypes]

/-- A row under a value of a map is not normalised, and so is no object, as its Arrow type wants it;
of two fields of one name, the object of a row has one. -/
theorem nested_rows_unfit :
    (∃ dataType normal,
      let type := TrinoType.map (.scalar .varchar []) Sample.pointType
      let value := JsonValue.object [("origin", .array [.integer 0])]
      Sends type value ∧ signatureType Sample.answerSerde type.signature = .ok dataType ∧
        normalizeSignature Sample.answerSerde type.signature value = .ok normal ∧
        ¬Fits dataType value normal) ∧
    ∃ dataType normal,
      let type := TrinoType.row [(some "x", .scalar .bigint []), (some "x", .scalar .bigint [])]
      let value := JsonValue.array [.null, .null]
      Sends type value ∧ signatureType Sample.answerSerde type.signature = .ok dataType ∧
        normalizeSignature Sample.answerSerde type.signature value = .ok normal ∧
        ¬Fits dataType value normal := by
  constructor
  · have sent : Sends (.map (.scalar .varchar []) Sample.pointType)
        (.object [("origin", .array [.integer 0])]) := by
      refine .map _ _ _ (List.nodup_singleton _) fun member held => ?_
      cases List.mem_singleton.mp held
      exact Sample.sends_point 0
    obtain ⟨normal, normalized, fits⟩ := normalize_sent Sample.answerSerde _ sent
    refine ⟨_, normal, sent, signatureType_signature _ _, normalized, fun unfit => ?_⟩
    have plain := fits.mp unfit
    simp [Sample.pointType, TrinoType.Plain, TrinoType.Rowless] at plain
  · have sent : Sends (.row [(some "x", .scalar .bigint []), (some "x", .scalar .bigint [])])
        (.array [.null, .null]) := by
      refine .row _ _ rfl fun i field held _ atValue => ?_
      have null : held = .null := by
        have member := List.mem_of_getElem? atValue
        simpa using member
      subst null
      exact .null _
    obtain ⟨normal, normalized, fits⟩ := normalize_sent Sample.answerSerde _ sent
    refine ⟨_, normal, sent, signatureType_signature _ _, normalized, fun unfit => ?_⟩
    have plain := fits.mp unfit
    simp [TrinoType.Plain, fieldNames, fieldTypes] at plain

end ConfluxQuery.Trino
