import ConfluxQuery.Driver.TrinoMetadata

/-!
# Namespaces of browsing and querying

Where the metadata commands of the REPL look for the objects of a session, and what a query of the
same session makes current. `\use-catalog` and `\use-schema` set the properties `catalog` and
`schema`; the Snowflake adapter connects to the property `database`.
-/

namespace ConfluxQuery.Repl

/-- The engines with a catalog and a schema. -/
inductive Engine
  | trino
  | databricks
  | snowflake
deriving DecidableEq

/-- The lookup the REPL builds from the properties of its session. -/
def metadataRequest (target engine : String) (properties : Registry String String)
    (pattern : Option String) : MetadataRequest :=
  ⟨"local-cli", target, engine, properties, properties.lookup "catalog",
    properties.lookup "schema", pattern⟩

/-- `\use-catalog` sets a catalog that exists. -/
def useCatalog (available : List String) (catalog : String) (properties : Registry String String) :
    Registry String String :=
  if catalog ∈ available then properties.insert "catalog" catalog else properties

/-- `\use-schema` sets a schema that exists. -/
def useSchema (available : List String) (schema : String) (properties : Registry String String) :
    Registry String String :=
  if schema ∈ available then properties.insert "schema" schema else properties

/-- A name, or an error that it is missing. -/
def required (message : String) : Option String → Except DriverError String
  | some name => .ok name
  | none => .error ⟨"missing_context", message⟩

namespace Engine

/-- The property that stands in for the catalog of a lookup. -/
def catalogProperty : Engine → String
  | .trino | .databricks => "catalog"
  | .snowflake => "database"

/-- The catalog and the schema whose objects `list_objects` lists. -/
def listed (engine : Engine) (request : MetadataRequest) : Except DriverError
    (String × String) := do
  let message := match engine with
    | .trino => fun name => "table discovery requires a " ++ name
    | .databricks | .snowflake => fun name => "metadata discovery requires a " ++ name
  let catalog ← required (message engine.catalogProperty)
    (request.catalog.or (request.properties.lookup engine.catalogProperty))
  let schema ← required (message "schema") (request.schema.or (request.properties.lookup "schema"))
  pure (catalog, schema)

/-- The names that `describe_object` puts before an unqualified name. -/
def qualifiers (engine : Engine) (request : MetadataRequest) : List String :=
  match engine with
  | .trino | .snowflake =>
    [request.catalog.or (request.properties.lookup engine.catalogProperty),
      request.schema.or (request.properties.lookup "schema")].reduceOption
  | .databricks => [request.catalog, request.schema].reduceOption

/-- The catalog and the schema that a connection for a query makes current. -/
def current (engine : Engine) (properties : Registry String String) :
    Option String × Option String :=
  (properties.lookup engine.catalogProperty, properties.lookup "schema")

end Engine

/-- Where an engine looks for a name with names before it: one is a schema, two are a catalog and a
schema. -/
def resolve (current : Option String × Option String) : List String → Option String × Option String
  | [] => current
  | [schema] => (current.1, some schema)
  | catalog :: schema :: _ => (some catalog, some schema)

/-- Browsing and querying use the same catalog and schema. -/
def Agree (engine : Engine) (target name : String) (pattern : Option String)
    (properties : Registry String String) : Prop :=
  (∀ catalog schema, engine.listed (metadataRequest target name properties pattern) =
      .ok (catalog, schema) → (some catalog, some schema) = engine.current properties) ∧
    resolve (engine.current properties)
      (engine.qualifiers (metadataRequest target name properties pattern)) =
        engine.current properties

/-- Browsing and querying agree exactly when a session with a catalog to browse has a schema, and,
in Snowflake, when no catalog was chosen or it is the database of the session. -/
theorem namespaces_agree_iff (engine : Engine) (target name : String) (pattern : Option String)
    (properties : Registry String String) :
    Agree engine target name pattern properties ↔
      (properties.lookup "schema" = none →
        (properties.lookup "catalog").or (properties.lookup engine.catalogProperty) = none) ∧
      (engine = .snowflake → properties.lookup "catalog" = none ∨
        properties.lookup "catalog" = properties.lookup "database") := by
  cases engine with
  | trino | databricks =>
    simp only [Agree, Engine.listed, Engine.qualifiers, Engine.current, Engine.catalogProperty,
      metadataRequest, Option.or_self]
    cases properties.lookup "catalog" <;> cases properties.lookup "schema" <;>
      simp [required, resolve, List.reduceOption, bind, Except.bind, pure, Except.pure]
  | snowflake =>
    simp only [Agree, Engine.listed, Engine.qualifiers, Engine.current, Engine.catalogProperty,
      metadataRequest, Option.or_self]
    cases properties.lookup "catalog" <;> cases properties.lookup "database" <;>
      cases properties.lookup "schema" <;>
        simp [required, resolve, List.reduceOption, bind, Except.bind, pure, Except.pure]

/-- The properties of a Snowflake session after `\use-schema` and `\use-catalog`. -/
def chosen : Registry String String :=
  useCatalog ["A", "B"] "B" (useSchema ["S"] "S" (Registry.ofList [("database", "A")]))

/-- After `\use-catalog` Snowflake browses one database and queries another. -/
theorem snowflake_browses_another_database :
    Engine.snowflake.listed (metadataRequest "wh" "snowflake" chosen none) = .ok ("B", "S") ∧
      Engine.snowflake.current chosen = (some "A", some "S") :=
  ⟨by rfl, by rfl⟩

end ConfluxQuery.Repl
