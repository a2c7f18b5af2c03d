import ConfluxQuery.Config.Parse
import ConfluxQuery.Lib.Listing
import ConfluxQuery.Lib.Numerals

/-!
# Resolving a configuration

What `Config::load` makes of the sections of a file: references to the process environment are
expanded, properties are checked, and every target takes the properties of the section `default`
under its own. `Config::discover_targets` reads the names and engines of the targets by a pass of
its own, without the environment. The text of the file and its mode are given.
-/

namespace ConfluxQuery.Config

/-- What the process environment holds under a name. -/
inductive Variable
  | unset
  /-- A value that is not Unicode, which `env::var` refuses. -/
  | notUnicode
  | text (value : String)
deriving DecidableEq

/-- A process environment. -/
abbrev Environment : Type := String → Variable

/-- What stands before and after the first `${`. -/
def findReference : List Char → Option (List Char × List Char)
  | [] => none
  | first :: rest =>
    if first = '$' ∧ rest.head? = some '{' then some ([], rest.tail)
    else (findReference rest).map fun parts => (first :: parts.1, parts.2)

/-- Characters of the names of variables. -/
def isVariableCharacter (character : Char) : Bool := character == '_' || character.isAlphanum

theorem findReference_shorter {rest before after : List Char}
    (found : findReference rest = some (before, after)) : after.length < rest.length := by
  induction rest generalizing before with
  | nil => cases found
  | cons first rest step =>
    rw [findReference] at found
    split at found
    · cases found
      rw [List.length_tail, List.length_cons]
      omega
    · obtain ⟨parts, inside, same⟩ := Option.map_eq_some_iff.mp found
      cases same
      exact Nat.lt_succ_of_lt (step inside)

-- The equations of the two matches are named for the termination proof only.
set_option linter.unusedVariables false in
/-- The loop of `expand_environment`. -/
def expandFrom (environment : Environment) (path : String) (line : Nat) (rest : List Char) :
    Except ConfigError (List Char) :=
  match found : findReference rest with
  | none => .ok rest
  | some (before, after) =>
    match split : Text.splitOnce '}' after with
    | none => .error ⟨path, some line, "unterminated environment substitution"⟩
    | some (name, later) =>
      if name.isEmpty || !name.all isVariableCharacter then
        .error ⟨path, some line,
          "invalid environment variable name '" ++ String.ofList name ++ "'"⟩
      else
        match environment (String.ofList name) with
        | .text resolved =>
          (expandFrom environment path line later).map (before ++ resolved.toList ++ ·)
        | _ => .error ⟨path, some line,
            "required environment variable '" ++ String.ofList name ++ "' is not set"⟩
termination_by rest.length
decreasing_by exact Nat.lt_trans (Text.splitOnce_shorter split) (findReference_shorter found)

/-- A value with its references replaced by the values of the variables. -/
def expandEnvironment (environment : Environment) (path : String) (line : Nat) (value : String) :
    Except ConfigError String :=
  (expandFrom environment path line value.toList).map String.ofList

/-- A value of a property, and whether it is sensitive. -/
structure ConfigValue where
  value : String
  secret : Bool
deriving DecidableEq

/-- A target with its properties, those of the section `default` included. -/
structure ResolvedTarget where
  name : String
  engine : String
  properties : Registry String ConfigValue

/-- A target as discovery shows it. -/
structure TargetSummary where
  name : String
  engine : String
deriving DecidableEq

/-- A configuration that was loaded, the source's `Config`. -/
structure Configuration where
  path : String
  /-- Properties of the section `default`. -/
  defaults : Registry String ConfigValue
  targets : Registry String ResolvedTarget

/-- A configuration file: its path, its text, and its mode or why it cannot be inspected. -/
structure ConfigFile where
  path : String
  source : String
  mode : Except String Nat

/-- A text in lower case, outside of ASCII as it is. -/
def toAsciiLowercase (text : String) : String := .ofList (text.toList.map Char.toLower)

/-- The source's `is_secret`. -/
def isSecret (name : String) : Bool :=
  let lower := (toAsciiLowercase name).toList
  lower == "url".toList || ["password", "token", "secret", "private_key"].any fun part =>
    decide (part.toList <:+: lower)

/-- The inner loop of `edit_distance`: cells after the cells `left` of the row and `diagonal` of the
row above. -/
def distanceCells (letter : UInt8) : Nat → Nat → List UInt8 → List Nat → List Nat
  | left, diagonal, other :: right, above :: previous =>
    let cell := min (min (left + 1) (above + 1)) (diagonal + if letter = other then 0 else 1)
    cell :: distanceCells letter cell above right previous
  | _, _, _, _ => []

/-- One byte of `edit_distance`; the row begins one above the row before. -/
def distanceRow (right : List UInt8) (previous : List Nat) (letter : UInt8) : List Nat :=
  match previous with
  | [] => []
  | diagonal :: above =>
    (diagonal + 1) :: distanceCells letter (diagonal + 1) diagonal right above

/-- The source's `edit_distance`, over bytes. -/
def editDistance (left right : String) : Nat :=
  let right := right.toUTF8.data.toList
  ((left.toUTF8.data.toList.foldl (distanceRow right)
    (List.range (right.length + 1))).getLast?).getD 0

/-- The property a misspelt one may stand for; the first in order of those at the least distance. -/
def closest (name : String) (allowed : List String) : Option String :=
  (allowed.argmin (editDistance name)).filter fun candidate =>
    decide (editDistance name candidate ≤ 3)

/-- The properties of every engine. -/
def commonProperties : List String :=
  ["engine", "output_format", "decimal_places", "decimal_rounding", "strip_trailing_decimal_zeros",
    "string_truncate", "binary_format", "null_value", "table_style", "color", "expanded", "headers",
    "row_numbers", "max_column_width", "timestamp_format", "timezone", "timing", "query_timeout",
    "connect_timeout", "fetch_size", "page_size", "max_display_rows", "progress", "retry",
    "history", "history_limit", "syntax_highlight", "completion", "pager", "editor", "prompt",
    "confirm_target_switch", "tls_verify", "show_query_id", "log_level"]

/-- The properties of an engine besides those. -/
def engineProperties : Option String → List String
  | some "trino" =>
    ["url", "user", "password", "token", "catalog", "schema", "source", "client_tags"]
  | some "databricks" => ["auth_type", "host", "http_path", "token", "catalog", "schema", "user"]
  | some "snowflake" =>
    ["auth_type", "account", "user", "password", "private_key", "warehouse", "database", "schema",
      "role"]
  | _ => []

/-- The properties a section may have, in order. -/
def allowedProperties (engine : Option String) : List String :=
  (commonProperties ++ engineProperties engine).insertionSort (· ≤ ·)

/-- Properties that are true or false. -/
def booleanProperties : List String :=
  ["strip_trailing_decimal_zeros", "headers", "row_numbers", "timing", "history",
    "syntax_highlight", "completion", "confirm_target_switch", "tls_verify", "show_query_id"]

/-- Properties that are numbers. -/
def unsignedProperties : List String :=
  ["decimal_places", "string_truncate", "max_column_width", "fetch_size", "page_size",
    "max_display_rows", "history_limit"]

/-- Properties that are durations. -/
def durationProperties : List String := ["query_timeout", "connect_timeout"]

/-- The text before a suffix. -/
def stripSuffix (suffix text : List Char) : Option (List Char) :=
  if suffix <:+ text then some (text.take (text.length - suffix.length)) else none

/-- The source's `valid_duration`. -/
def validDuration (value : String) : Bool :=
  ["ms", "s", "m", "h"].any fun suffix =>
    (stripSuffix suffix.toList value.toList).any fun number =>
      !number.isEmpty && number.all Char.isDigit

/-- The source's `validate_typed_value`. -/
def validateTypedValue (path : String) (line : Nat) (name value : String) :
    Except ConfigError Unit :=
  if name ∈ booleanProperties ∧ value ≠ "true" ∧ value ≠ "false" then
    .error ⟨path, some line, "property '" ++ name ++ "' requires true or false"⟩
  else if name ∈ unsignedProperties ∧ Numeral.parseUnsigned (2 ^ 64) value.toList = none then
    .error ⟨path, some line, "property '" ++ name ++ "' requires a non-negative integer"⟩
  else if name ∈ durationProperties ∧ validDuration value = false then
    .error ⟨path, some line,
      "property '" ++ name ++ "' requires a duration such as 250ms, 15s, 5m, or 2h"⟩
  else .ok ()

/-- The source's `validate_engine`. -/
def validateEngine (path : String) (line : Nat) (engine : String) : Except ConfigError Unit :=
  if engine ∈ ["trino", "databricks", "snowflake", "demo"] then .ok ()
  else .error ⟨path, some line, "unsupported engine '" ++ engine ++ "'"⟩

/-- One property of `validate_properties`. -/
def validateProperty (environment : Environment) (path title : String) (engine : Option String)
    (property : String × ParsedValue) : Except ConfigError (String × ConfigValue) := do
  let name := property.1
  let allowed := allowedProperties engine
  if name ∉ allowed ∧ ¬ "session.".toList <+: name.toList then
    let suggestion := match closest name allowed with
      | some candidate => "; did you mean '" ++ candidate ++ "'?"
      | none => ""
    .error ⟨path, some property.2.line,
      "unknown property '" ++ name ++ "' in [" ++ title ++ "]" ++ suggestion⟩
  else
    let value ← expandEnvironment environment path property.2.line property.2.value
    validateTypedValue path property.2.line name value
    pure (name, ⟨value, isSecret name⟩)

/-- The checked properties of a section, in the order of their names. -/
def validateProperties (environment : Environment) (path title : String)
    (properties : Registry String ParsedValue) (engine : Option String) :
    Except ConfigError (Registry String ConfigValue) := do
  let values ← properties.inOrder.mapM (validateProperty environment path title engine)
  pure (Registry.ofList values)

/-- The engine a section defines, before it is read. -/
def engineValue (path name : String) (properties : Registry String ParsedValue) :
    Except ConfigError ParsedValue :=
  if properties.keys.isEmpty then
    .error ⟨path, none, "target section [" ++ name ++ "] cannot be empty"⟩
  else
    match properties.lookup "engine" with
    | none => .error ⟨path, none, "target [" ++ name ++ "] must define 'engine'"⟩
    | some value => .ok value

/-- One section of `resolve`. -/
def resolveTarget (environment : Environment) (path : String)
    (defaults : Registry String ConfigValue) (entry : String × Registry String ParsedValue) :
    Except ConfigError ResolvedTarget := do
  let value ← engineValue path entry.1 entry.2
  let expanded ← expandEnvironment environment path value.line value.value
  let engine := toAsciiLowercase expanded
  validateEngine path value.line engine
  let values ← validateProperties environment path entry.1 entry.2 (some engine)
  pure ⟨entry.1, engine, defaults.extend values⟩

/-- The configuration of the sections of a file. -/
def resolve (environment : Environment) (path : String)
    (parsed : Registry String (Registry String ParsedValue)) :
    Except ConfigError Configuration := do
  let defaults ← validateProperties environment path "default"
    ((parsed.lookup "default").getD ∅) none
  let targets ← (Registry.inOrder (parsed.erase "default")).mapM
    (resolveTarget environment path defaults)
  if targets.isEmpty then .error ⟨path, none, "configuration defines no targets"⟩
  else pure ⟨path, defaults, Registry.ofList (targets.map fun target => (target.name, target))⟩

/-- A file with sensitive properties must be closed to others. -/
def validatePermissions (file : ConfigFile)
    (parsed : Registry String (Registry String ParsedValue)) : Except ConfigError Unit :=
  if parsed.entries.any fun entry => entry.2.keys.any isSecret then
    match file.mode with
    | .error message => .error ⟨file.path, none, "cannot inspect permissions: " ++ message⟩
    | .ok mode =>
      if mode &&& 63 ≠ 0 then
        .error ⟨file.path, none, "configuration contains credentials but permissions are " ++
          String.ofList (Nat.toDigits 8 (mode &&& 511)) ++ "; run: chmod 600 " ++ file.path⟩
      else .ok ()
  else .ok ()

/-- Load a configuration file. -/
def load (environment : Environment) (file : ConfigFile) : Except ConfigError Configuration := do
  let parsed ← parse file.path file.source
  validatePermissions file parsed
  resolve environment file.path parsed

/-- One section of `discover_targets`. -/
def discoverTarget (path : String) (entry : String × Registry String ParsedValue) :
    Except ConfigError TargetSummary := do
  let value ← engineValue path entry.1 entry.2
  let engine := toAsciiLowercase value.value
  validateEngine path value.line engine
  pure ⟨entry.1, engine⟩

/-- The names and engines of the targets of a file. -/
def discoverTargets (file : ConfigFile) : Except ConfigError (List TargetSummary) := do
  let parsed ← parse file.path file.source
  validatePermissions file parsed
  let targets ← (Registry.inOrder (parsed.erase "default")).mapM (discoverTarget file.path)
  if targets.isEmpty then .error ⟨file.path, none, "configuration defines no targets"⟩
  else pure targets

/-- The targets of a configuration, in the order of their names. -/
def Configuration.targetList (config : Configuration) : List ResolvedTarget :=
  (Registry.inOrder config.targets).map Prod.snd

/-- A loaded target as discovery shows it. -/
def ResolvedTarget.summary (target : ResolvedTarget) : TargetSummary :=
  ⟨target.name, target.engine⟩

end ConfluxQuery.Config
