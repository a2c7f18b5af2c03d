import ConfluxQuery.Driver.Databricks

/-!
# The Snowflake adapter

The session properties that the adapter of `qcli-driver-snowflake` takes from a statement it has
executed.
-/

namespace ConfluxQuery.Snowflake

/-- A quoted identifier. -/
def identifier (value : List Char) : List Char := Quoting.wrapped '"' value

/-- The filter of `list_objects`. -/
def globMatches : Option String → String → Bool := suffixGlobMatches

/-- The session properties a `USE` statement sets. -/
def sessionUpdate (sql : String) : Option (Registry String String) :=
  let statement := ((Text.strip sql.toList).reverse.dropWhile (· == ';')).reverse
  match Databricks.splitWhitespace statement with
  | [useWord, kind, value] =>
    if Databricks.isWord useWord "use" then
      match ["database", "schema", "warehouse", "role"].find? (Databricks.isWord kind) with
      | some property => some (Registry.ofList
          [(property, String.ofList (Text.trim (· == '"') value))])
      | none => none
    else none
  | _ => none

end ConfluxQuery.Snowflake
