import ConfluxQuery.Service.Types

/-!
# Errors of the HTTP frontend

The status code under which the HTTP frontend answers an error of the gateway service.
-/

namespace ConfluxQuery

/-- An error as an HTTP response. -/
structure ApiError where
  status : Nat
  code : String
  message : String
  deriving DecidableEq, Repr

/-- The response to a service error. -/
def serviceError (error : ServiceError) : ApiError :=
  let status := match error.kind with
    | .invalidArgument => if error.code = "invalid_sql_size" then 413 else 400
    | .notFound => 404
    | .forbidden => 403
    | .conflict => 409
    | .resourceExhausted => 429
    | .failedPrecondition =>
      if error.code = "shutting_down" then 503
      else if error.code = "query_running" then 409
      else 422
    | .upstream => 502
    | .internal => 500
  ⟨status, error.code, error.message⟩

end ConfluxQuery
