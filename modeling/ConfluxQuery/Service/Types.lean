import ConfluxQuery.Core.Driver

/-!
# Limits and errors of the gateway service

The limits a gateway runs under and the structured errors it answers with, with the code and text
each of them carries.
-/

namespace ConfluxQuery

/-- Largest value of the source's `usize`. -/
def usizeMax : Nat := 2 ^ 64 - 1

/-- Addition that stops at the largest value. -/
def saturatingAdd (left right : Nat) : Nat := min (left + right) usizeMax

/-- Multiplication that stops at the largest value. -/
def saturatingMul (left right : Nat) : Nat := min (left * right) usizeMax

/-- Addition that wraps, as release builds compute `+=`. -/
def wrappingAdd (left right : Nat) : Nat := (left + right) % 2 ^ 64

/-- Limits of a gateway; durations are in milliseconds. -/
structure ServiceLimits where
  maxQueries : Nat := 128
  /-- Result bytes of one query kept in memory. -/
  memoryResultBytesPerQuery : Nat := 1024 * 1024
  /-- Result bytes of one query kept at all. -/
  maxResultBytesPerQuery : Nat := 64 * 1024 * 1024
  /-- How long a finished query is kept. -/
  resultTtl : Nat := 15 * 60 * 1000
  maxSqlBytes : Nat := 1024 * 1024
  /-- How long an idle session is kept. -/
  sessionTtl : Nat := 30 * 60 * 1000
  /-- How long a shutdown waits for queries. -/
  shutdownGrace : Nat := 10 * 1000
  /-- Prepared statements kept at once. -/
  maxPreparedStatements : Nat := 128
  /-- How long an idle prepared statement is kept. -/
  preparedStatementTtl : Nat := 15 * 60 * 1000

/-- What kind of failure a service error is. -/
inductive ServiceErrorKind
  | invalidArgument | notFound | forbidden | conflict | resourceExhausted | failedPrecondition
  | upstream | internal
  deriving DecidableEq, Repr

/-- A structured error of the gateway. -/
structure ServiceError where
  /-- Kind, which the frontends map to their status codes. -/
  kind : ServiceErrorKind
  code : String
  message : String
  deriving DecidableEq, Repr

/-- The error a failed query keeps. -/
structure QueryError where
  code : String
  message : String
  deriving DecidableEq, Repr

/-- No such session, or one of another principal. -/
def sessionNotFound : ServiceError := ⟨.notFound, "session_not_found", "session not found"⟩

/-- No such query, or one of another principal. -/
def queryNotFound : ServiceError := ⟨.notFound, "query_not_found", "query not found"⟩

/-- No such prepared statement, or one of another principal. -/
def preparedNotFound : ServiceError :=
  ⟨.notFound, "prepared_not_found", "prepared statement not found"⟩

/-- The gateway takes no more work. -/
def shuttingDown : ServiceError :=
  ⟨.failedPrecondition, "shutting_down", "server is shutting down"⟩

/-- Results of a query that has not ended. -/
def queryRunning (message : String) : ServiceError :=
  ⟨.failedPrecondition, "query_running", message⟩

/-- The text most result readers use for a query that has not ended. -/
def resultsPending : String := "results are available after query completion"

/-- A failure of a spill file or of an encoded result. -/
def storageServiceError (message : String) : ServiceError :=
  ⟨.internal, "result_storage", message⟩

/-- A failure of a spill file, as the query keeps it. -/
def storageError (message : String) : QueryError := ⟨"result_storage", message⟩

/-- A core error as the gateway answers it. -/
def coreError (error : CoreError) : ServiceError :=
  let kind : ServiceErrorKind := match error with
    | .sessionNotFound _ => .notFound
    | .versionConflict _ _ => .conflict
    | .adapterNotFound _ => .invalidArgument
    | .driver _ | .task _ => .upstream
  ⟨kind, "core", error.display⟩

end ConfluxQuery
