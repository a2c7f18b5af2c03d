import ConfluxQuery.Verif.NativeTypes
import ConfluxQuery.Verif.TrinoValues

/-!
# Advertised and delivered column types

The Flight frontend advertises the columns of a Trino table with the Arrow types it parses from the
texts of their types; the results of queries have the Arrow types that the Trino adapter reads from
signatures. The two agree on arrays, to any depth, of the scalars on which they agree, and differ on
dates, timestamps, maps and rows.
-/

namespace ConfluxQuery

open NativeTypes

namespace Trino

/-- Parameters of a scalar type as a text. -/
def parametersText : List Nat → List Char
  | [] => []
  | first :: rest =>
    '(' :: (rest.foldl (fun text parameter => text ++ ',' :: Numeral.print parameter)
      (Numeral.print first) ++ [')'])

/-- The text of a scalar type; parameters of times stand before the time zone. -/
def ScalarName.text (name : ScalarName) (parameters : List Nat) : List Char :=
  match name with
  | timeWithTimeZone => "time".toList ++ (parametersText parameters ++ " with time zone".toList)
  | timestampWithTimeZone =>
    "timestamp".toList ++ (parametersText parameters ++ " with time zone".toList)
  | name => name.raw.toList ++ parametersText parameters

mutual

/-- The text that a server shows for a type. -/
def TrinoType.text : TrinoType → List Char
  | .scalar name parameters => name.text parameters
  | .decimal precision scale => "decimal".toList ++ '(' ::
      (Numeral.print precision ++ ',' :: Numeral.print scale ++ [')'])
  | .array item => "array".toList ++ '(' :: (item.text ++ [')'])
  | .map key value => "map".toList ++ '(' :: (key.text ++ ", ".toList ++ value.text ++ [')'])
  | .row fields => "row".toList ++ '(' :: (fieldsText fields ++ [')'])

/-- The texts of the fields of a row. -/
def fieldsText : List (Option String × TrinoType) → List Char
  | [] => []
  | [(name, type)] => name.elim [] (·.toList ++ [' ']) ++ type.text
  | (name, type) :: rest =>
    name.elim [] (·.toList ++ [' ']) ++ type.text ++ ", ".toList ++ fieldsText rest

end

/-- The types on which the two conversions agree. -/
def TrinoType.Agrees : TrinoType → Prop
  | .scalar .date _ | .scalar .timestamp _ | .map _ _ | .row _ => False
  | .scalar .timestampWithTimeZone parameters => parameters = []
  | .scalar _ _ | .decimal _ _ => True
  | .array item => item.Agrees

end Trino

/-- The name before a bracket is found, whatever stands behind the bracket. -/
theorem baseName_of_bracket {word : List Char} (firm : Firm word) (present : word ≠ [])
    (plain : ∀ letter ∈ word, brackets.opens letter = false) (lowered : lower word = word)
    (rest : List Char) : baseName (normalize (word ++ '(' :: rest)) = word := by
  have solid : Text.isWhitespace '(' = false := by decide
  obtain ⟨kept, trimmed⟩ := Text.trim_append_cons present firm.1 solid rest
  have normal : normalize (word ++ '(' :: rest) = word ++ ([] ++ '(' :: lower kept) := by
    have same : Text.strip (word ++ '(' :: rest) = word ++ '(' :: kept := trimmed
    rw [NativeTypes.normalize, same, List.map_append, List.map_cons]
    exact congrArg (· ++ '(' :: lower kept) lowered
  rw [normal]
  exact baseName_application firm plain (fun _ member => by cases member) rfl

namespace Trino

/-- The name that the parser finds in the text of a scalar type, with or without parameters. -/
def ScalarName.found (name : ScalarName) (bare : Bool) : String :=
  match name, bare with
  | .timeWithTimeZone, false => "time"
  | .timestampWithTimeZone, false => "timestamp"
  | name, _ => name.raw

theorem baseName_text (name : ScalarName) (parameters : List Nat) :
    baseName (normalize (name.text parameters)) = (name.found parameters.isEmpty).toList := by
  cases parameters with
  | nil => cases name <;> decide
  | cons first rest =>
    cases name <;>
    exact baseName_of_bracket (by decide) (by decide) (by decide) (by decide) _

/-- Scalar types are not named like arrays, maps and objects. -/
theorem ScalarName.found_apart (name : ScalarName) (bare : Bool) :
    (name.found bare).toList ∉ ["array".toList, "map".toList, "object".toList] := by
  cases name <;> cases bare <;> decide

/-- The two conversions agree on the names of scalar types other than dates and timestamps, unless a
time zone keeps the parser from finding the latter. -/
theorem namedType_found_iff (name : ScalarName) (bare : Bool) (shape : Option (Nat × Int)) :
    namedType (name.found bare) shape = name.dataType ↔
      name ≠ .date ∧ name ≠ .timestamp ∧ (name = .timestampWithTimeZone → bare = true) := by
  cases name
  case date | timestamp => cases bare <;> exact iff_of_false nofun (by simp)
  case timestampWithTimeZone =>
    cases bare
    · exact iff_of_false nofun (by simp)
    · exact iff_of_true rfl (by simp)
  all_goals cases bare <;> exact iff_of_true rfl (by simp)

/-- The two conversions agree on scalar types other than dates, timestamps and timestamps with a
time zone and parameters. -/
theorem scalar_agrees_iff (name : ScalarName) (parameters : List Nat) :
    arrowType (name.text parameters) = name.dataType ↔
      (TrinoType.scalar name parameters).Agrees := by
  have named := baseName_text name parameters
  rw [arrowType_base (named ▸ name.found_apart _), baseType, named, String.ofList_toList,
    namedType_found_iff, List.isEmpty_iff]
  cases name <;> simp [TrinoType.Agrees]

/-- Whatever stands in the brackets of a map, the names of its parts are not those of delivered
maps. -/
theorem arrowType_map_ne {text : List Char} (named : baseName (normalize text) = "map".toList)
    (key value : DataType) :
    arrowType text ≠ .mapOf ⟨"keys", key, false⟩ ⟨"values", value, true⟩ := by
  have absent : typeArguments (normalize text) "array".toList = none :=
    typeArguments_eq_none (by decide) (by decide) (by rw [named]; decide)
  have unlike : normalize text ≠ "array".toList := fun same => by
    rw [same] at named
    cases named
  rw [arrowType, absent]
  dsimp only
  rw [if_neg unlike]
  split
  · intro same
    simp [DataType.mapOf] at same
  · split
    · intro same
      simp [DataType.mapOf] at same
    · rw [baseType, named]
      intro same
      cases same

/-- No blank space is blank space. -/
theorem space_nil : NativeTypes.Space [] := nofun

/-- The text of an array is parsed from the text of its items. -/
theorem arrowType_array_text (item : TrinoType) :
    arrowType (TrinoType.array item).text = .list ⟨"item", arrowType item.text, true⟩ := by
  have applied := normalize_application (show Firm "array".toList by decide) (by decide) space_nil
    (show Spells "array" "array".toList by rfl) space_nil .round space_nil item.text
  rw [List.append_nil] at applied
  exact (arrowType_array .round space_nil applied).trans
    (by rw [arrowType_congr (normalize_lower item.text)])

/-- The text of a decimal is parsed by its precision and its scale. -/
theorem arrowType_decimal_text (precision : Fin (2 ^ 8)) (scale : Fin (2 ^ 7)) :
    arrowType (TrinoType.decimal precision scale).text =
      .decimal128 precision.val scale.val := by
  have small : (scale.val : Int) < 2 ^ 7 := Int.ofNat_lt.mpr scale.isLt
  have first := Padded.unsigned space_nil precision.val space_nil
  have second := Padded.signed space_nil (scale.val : Int) space_nil
  rw [List.append_nil] at first second
  have parsed := arrowType_decimal (show "decimal" ∈ decimalNames by decide) precision.isLt
    (by omega) small space_nil
    (show Spells "decimal" "decimal".toList by rfl) space_nil first second
    space_nil
  rw [List.append_nil] at parsed
  exact parsed

/-- The two conversions agree on a type exactly when it is an array, to any depth, of a scalar or a
decimal on which they agree. -/
theorem arrowType_text_iff (type : TrinoType) :
    arrowType type.text = type.dataType ↔ type.Agrees := by
  induction type with
  | scalar name parameters => exact scalar_agrees_iff name parameters
  | decimal precision scale =>
    exact iff_of_true (arrowType_decimal_text precision scale) trivial
  | array item step =>
    rw [arrowType_array_text, TrinoType.dataType, TrinoType.Agrees, ← step]
    simp
  | map key value _ _ =>
    refine iff_of_false (arrowType_map_ne ?_ _ _) id
    exact baseName_of_bracket (by decide) (by decide) (by decide) (by decide) _
  | row fields _ =>
    have named : baseName (normalize (TrinoType.row fields).text) = "row".toList :=
      baseName_of_bracket (by decide) (by decide) (by decide) (by decide) _
    refine iff_of_false (fun same => ?_) id
    rw [arrowType_base (by rw [named]; decide), baseType, named] at same
    cases same

end Trino

/-- Advertised column types match result types: for every type that a Trino server has, the Flight
frontend and the adapter give the same Arrow type if and only if the type is an array, to any depth,
of a decimal or a scalar other than a date, a timestamp, or a timestamp with a time zone and a
precision. -/
theorem advertised_type_iff (serde : Trino.Serde) (type : Trino.TrinoType) :
    Trino.signatureType serde type.signature = .ok (arrowType type.text) ↔ type.Agrees := by
  rw [Trino.signatureType_signature, ← Trino.arrowType_text_iff, Except.ok.injEq, eq_comm]

/-- A date is advertised as a date and delivered as a text. -/
theorem advertised_date_differs :
    let type := Trino.TrinoType.scalar .date []
    type.text = "date".toList ∧ arrowType type.text = .date32 ∧
      Trino.signatureType Sample.answerSerde type.signature = .ok .utf8 := by
  have known : ("date", DataType.date32) ∈ baseNames := by simp [baseNames]
  exact ⟨rfl, arrowType_name known rfl, Trino.signatureType_signature _ _⟩

end ConfluxQuery
