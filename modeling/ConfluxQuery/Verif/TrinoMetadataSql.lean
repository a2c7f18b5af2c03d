import ConfluxQuery.Verif.Globs

/-!
# What the metadata statements say

The statements are read by a lexer that knows words, identifiers in double quotes and literals in
single quotes. Whatever the names and patterns are, a statement has the tokens of its fixed text
with the names as its identifiers and literals, and the pattern matches what the user's pattern asks
for.
-/

namespace Quoting

/-- The tokens of the rest of a text. -/
def lexAfter (mode : Mode) (text : List Char) : Option (List Token) :=
  (finish (run mode text).2).map fun last => (run mode text).1 ++ last

theorem lex_eq_lexAfter (text : List Char) : lex text = lexAfter .between text := rfl

/-- A text is read part by part. -/
theorem lexAfter_append (mode : Mode) (first second : List Char) :
    lexAfter mode (first ++ second) =
      (lexAfter (run mode first).2 second).map fun tokens => (run mode first).1 ++ tokens := by
  rw [lexAfter, lexAfter, run_append, Option.map_map]
  refine congrArg (fun change => Option.map change _) (funext fun last => ?_)
  rw [Function.comp_apply, List.append_assoc]

/-- A part whose tokens are known goes before the tokens of the rest. -/
theorem lexAfter_part {mode next : Mode} {part rest : List Char} {tokens more : List Token}
    (passed : run mode part = (tokens, next)) (follows : lexAfter next rest = some more) :
    lexAfter mode (part ++ rest) = some (tokens ++ more) := by
  rw [lexAfter_append, passed, follows]
  rfl

/-- Identifiers joined by dots are read as the names with dots between them. -/
theorem lexAfter_dotted {names : List (List Char)} (present : names ≠ []) :
    lexAfter .between (List.intercalate ['.'] (names.map (wrapped '"'))) =
      some ((names.map Token.identifier).intersperse (.symbol '.')) := by
  induction names with
  | nil => exact absurd rfl present
  | cons name rest step =>
    cases rest with
    | nil =>
      have alone : List.intercalate ['.'] ([name].map (wrapped '"')) = wrapped '"' name := by
        simp [List.intercalate]
      rw [alone, lexAfter, run_wrapped (.inl rfl)]
      rfl
    | cons second others =>
      have joined : List.intercalate ['.'] ((name :: second :: others).map (wrapped '"')) =
          wrapped '"' name ++ (['.'] ++
            List.intercalate ['.'] ((second :: others).map (wrapped '"'))) := by
        simp [List.intercalate]
      rw [joined]
      have dot : run (.closing '"' name) ['.'] = ([.identifier name, .symbol '.'], .between) := rfl
      exact lexAfter_part (run_wrapped (.inl rfl) name) (lexAfter_part dot (step (by simp)))

end Quoting

namespace ConfluxQuery.Trino

open Quoting

/-- A bare word of a statement. -/
def bare (text : String) : Token := .word text.toList

/-- The tokens of `list_schemas`. -/
def schemasTokens : Option String → List Token
  | none => [bare "SHOW", bare "SCHEMAS"]
  | some catalog => [bare "SHOW", bare "SCHEMAS", bare "FROM", .identifier catalog.toList]

/-- The tokens of `list_objects`. -/
def objectsTokens (catalog schema : String) (pattern : List Char) : List Token :=
  [bare "SELECT", bare "table_catalog", .symbol ',', bare "table_schema", .symbol ',',
    bare "table_name", .symbol ',', bare "table_type", bare "FROM", .identifier catalog.toList,
    .symbol '.', bare "information_schema", .symbol '.', bare "tables", bare "WHERE",
    bare "table_schema", .symbol '=', .literal schema.toList, bare "AND", bare "table_name",
    bare "LIKE", .literal pattern, bare "ESCAPE", .literal ['$'], bare "ORDER", bare "BY",
    bare "table_name"]

set_option maxRecDepth 2000 in
theorem run_select :
    run .between "SELECT table_catalog, table_schema, table_name, table_type FROM ".toList =
      ([bare "SELECT", bare "table_catalog", .symbol ',', bare "table_schema", .symbol ',',
        bare "table_name", .symbol ',', bare "table_type", bare "FROM"], .between) := by rfl

set_option maxRecDepth 2000 in
/-- The fixed part of `list_objects` after the catalog. -/
theorem run_tables (catalog : List Char) :
    run (.closing '"' catalog) ".information_schema.tables WHERE table_schema = '".toList =
      ([.identifier catalog, .symbol '.', bare "information_schema", .symbol '.', bare "tables",
        bare "WHERE", bare "table_schema", .symbol '='], .quoted '\'' []) := by rfl

/-- The fixed part of `list_objects` after the schema. -/
theorem run_like (schema : List Char) : run (.quoted '\'' schema) "' AND table_name LIKE '".toList =
    ([.literal schema, bare "AND", bare "table_name", bare "LIKE"], .quoted '\'' []) := by rfl

/-- The fixed part of `list_objects` after the pattern. -/
theorem lex_escape (pattern : List Char) :
    lexAfter (.quoted '\'' pattern) "' ESCAPE '$' ORDER BY table_name".toList =
      some [.literal pattern, bare "ESCAPE", .literal ['$'], bare "ORDER", bare "BY",
        bare "table_name"] := by rfl

/-- The statement that lists schemas has its fixed tokens and the catalog. -/
theorem lex_listSchemasSql (request : MetadataRequest) :
    lex (listSchemasSql request) = some (schemasTokens request.catalog) := by
  rw [lex_eq_lexAfter]
  unfold listSchemasSql schemasTokens
  cases request.catalog with
  | none => rfl
  | some catalog =>
    have fixed : run .between "SHOW SCHEMAS FROM ".toList =
      ([bare "SHOW", bare "SCHEMAS", bare "FROM"], .between) := rfl
    have named : lexAfter .between (identifier catalog.toList) =
        some [.identifier catalog.toList] := by
      rw [lexAfter, identifier, run_wrapped (.inl rfl)]
      rfl
    exact lexAfter_part fixed named

/-- The statement that lists objects has its fixed tokens, the names and the pattern. -/
theorem lex_objectsSql (catalog schema : String) (pattern : Option String) :
    lex (objectsSql catalog schema pattern) =
      some (objectsTokens catalog schema (likePattern pattern)) := by
  have named := lexAfter_part (run_doubled [] (likePattern pattern))
    (lex_escape (likePattern pattern))
  have compared := lexAfter_part (run_like schema.toList) named
  have inSchema := lexAfter_part (run_doubled [] schema.toList) compared
  have fromTables := lexAfter_part (run_tables catalog.toList) inSchema
  have inCatalog := lexAfter_part (run_wrapped (.inl rfl) catalog.toList) fromTables
  rw [lex_eq_lexAfter]
  exact lexAfter_part run_select inCatalog

/-- The statement that describes an object has the parts of its name. -/
theorem lex_describeObjectSql (request : MetadataRequest) {object : List Char}
    {parts : List (List Char)} (same : objectParts request object = parts) (present : parts ≠ []) :
    lex (describeObjectSql request object) = some (bare "DESCRIBE" ::
      (parts.map Token.identifier).intersperse (.symbol '.')) := by
  have fixed : run .between "DESCRIBE ".toList = ([bare "DESCRIBE"], .between) := rfl
  have named : lexAfter .between (qualifyObject request object) =
      some ((parts.map Token.identifier).intersperse (.symbol '.')) := by
    rw [qualifyObject, same]
    exact lexAfter_dotted present
  exact lexAfter_part fixed named

/-- Names of a request: the one it has, or the one of the session's properties. -/
def named (request : MetadataRequest) (own : Option String) (property : String) : Option String :=
  match own with
  | some name => some name
  | none => request.properties.lookup property

/-- Whatever the names and the pattern are, the metadata statements are read as their fixed tokens
with exactly the names as identifiers and literals. Objects are listed in the catalog and the schema
of the request or of its properties, and not without them; the pattern of `LIKE` asks for what the
user's pattern asks for. A dotted object name is described by its parts, another one by the catalog
and the schema, where there are any, and itself. -/
theorem trino_metadata_sql_lexes (request : MetadataRequest) :
    lex (listSchemasSql request) = some (schemasTokens request.catalog) ∧
    (∀ catalog schema, named request request.catalog "catalog" = some catalog →
      named request request.schema "schema" = some schema →
      ∃ sql like, listObjectsSql request = .ok sql ∧
        lex sql = some (objectsTokens catalog schema like) ∧
        likeSymbols '$' like =
          some ((request.pattern.map fun pattern => pattern.toList.map globSymbol).getD [.run])) ∧
    (named request request.catalog "catalog" = none ∨ named request request.schema "schema" = none →
      (listObjectsSql request).isOk = false) ∧
    (∀ parts : List (List Char), 2 ≤ parts.length → (∀ part ∈ parts, '.' ∉ part) →
      lex (describeObjectSql request (['.'].intercalate parts)) = some (bare "DESCRIBE" ::
        (parts.map Token.identifier).intersperse (.symbol '.'))) ∧
    ∀ object : List Char, '.' ∉ object →
      lex (describeObjectSql request object) = some (bare "DESCRIBE" ::
        (((named request request.catalog "catalog").toList.map String.toList ++
          (named request request.schema "schema").toList.map String.toList ++
          [object]).map Token.identifier).intersperse (.symbol '.')) := by
  have catalogs : named request request.catalog "catalog" = requestCatalog request := by
    unfold named requestCatalog
    cases request.catalog <;> rfl
  have schemas : named request request.schema "schema" = requestSchema request := by
    unfold named requestSchema
    cases request.schema <;> rfl
  rw [catalogs, schemas]
  refine ⟨lex_listSchemasSql request, fun catalog schema inCatalog inSchema => ?_, fun missing =>
    ?_,
    fun parts several plain => ?_, fun object plain => ?_⟩
  · refine ⟨objectsSql catalog schema request.pattern, likePattern request.pattern, ?_,
      lex_objectsSql catalog schema request.pattern, ?_⟩
    · simp [listObjectsSql, inCatalog, inSchema]
      rfl
    · cases request.pattern with
      | none => rfl
      | some pattern => exact likeSymbols_globToLike pattern.toList
  · rcases missing with none | none
    · simp [listObjectsSql, none]
      rfl
    · cases inCatalog : requestCatalog request <;> simp [listObjectsSql, none, inCatalog] <;> rfl
  · have some : parts ≠ [] := List.ne_nil_of_length_pos (by omega)
    have split : (['.'].intercalate parts).splitOn '.' = parts :=
      List.splitOn_intercalate '.' plain some
    have dotted : (['.'].intercalate parts).contains '.' = true := by
      rw [List.contains_iff_mem]
      by_contra absent
      have single := List.splitOn_eq_singleton absent
      rw [split] at single
      rw [single] at several
      simp at several
    refine lex_describeObjectSql request ?_ some
    rw [objectParts, if_pos dotted, split]
  · refine lex_describeObjectSql request ?_ (by simp)
    rw [objectParts, if_neg (by simpa using plain)]
    cases requestCatalog request <;> cases requestSchema request <;> rfl

end ConfluxQuery.Trino
