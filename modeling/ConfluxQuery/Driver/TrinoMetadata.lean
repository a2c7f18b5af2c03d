import ConfluxQuery.Core.Driver
import ConfluxQuery.Lib.Quoting
import ConfluxQuery.Lib.Registry

/-!
# Metadata statements of the Trino adapter

The texts that `list_schemas`, `list_objects` and `describe_object` of `qcli-driver-trino` send, and
the names they are made from.
-/

namespace ConfluxQuery.Trino

open Quoting

/-- A quoted identifier. -/
def identifier (value : List Char) : List Char := wrapped '"' value

/-- The inside of a quoted literal. -/
def literal (value : List Char) : List Char := doubled '\'' value

/-- A pattern of `LIKE` with the escape character `$`. -/
def globToLike (pattern : List Char) : List Char :=
  pattern.flatMap fun character =>
    if character = '*' then ['%']
    else if character = '?' then ['_']
    else if character = '%' ∨ character = '_' ∨ character = '$' then ['$', character]
    else [character]

/-- The catalog of a request, or of the session. -/
def requestCatalog (request : MetadataRequest) : Option String :=
  request.catalog.or (request.properties.lookup "catalog")

/-- The schema of a request, or of the session. -/
def requestSchema (request : MetadataRequest) : Option String :=
  request.schema.or (request.properties.lookup "schema")

/-- The statement of `list_schemas`. -/
def listSchemasSql (request : MetadataRequest) : List Char :=
  match request.catalog with
  | none => "SHOW SCHEMAS".toList
  | some catalog => "SHOW SCHEMAS FROM ".toList ++ identifier catalog.toList

/-- The pattern of names that are asked for. -/
def likePattern (pattern : Option String) : List Char :=
  match pattern with
  | none => ['%']
  | some pattern => globToLike pattern.toList

/-- The statement that lists the objects of a schema. -/
def objectsSql (catalog schema : String) (pattern : Option String) : List Char :=
  "SELECT table_catalog, table_schema, table_name, table_type FROM ".toList ++
    (identifier catalog.toList ++ (".information_schema.tables WHERE table_schema = '".toList ++
      (literal schema.toList ++ ("' AND table_name LIKE '".toList ++
        (literal (likePattern pattern) ++ "' ESCAPE '$' ORDER BY table_name".toList)))))

/-- The statement of `list_objects`. -/
def listObjectsSql (request : MetadataRequest) : Except DriverError (List Char) := do
  let catalog ← match requestCatalog request with
    | some catalog => .ok catalog
    | none => .error ⟨"missing_context", "table discovery requires a catalog"⟩
  let schema ← match requestSchema request with
    | some schema => .ok schema
    | none => .error ⟨"missing_context", "table discovery requires a schema"⟩
  pure (objectsSql catalog schema request.pattern)

/-- The parts of the name of an object: those it has, or those of the request before it. -/
def objectParts (request : MetadataRequest) (object : List Char) : List (List Char) :=
  if object.contains '.' then object.splitOn '.'
  else [(requestCatalog request).map String.toList, (requestSchema request).map String.toList,
    some object].reduceOption

/-- The name of an object in a statement. -/
def qualifyObject (request : MetadataRequest) (object : List Char) : List Char :=
  List.intercalate ['.'] ((objectParts request object).map identifier)

/-- The statement of `describe_object`. -/
def describeObjectSql (request : MetadataRequest) (object : List Char) : List Char :=
  "DESCRIBE ".toList ++ qualifyObject request object

end ConfluxQuery.Trino
