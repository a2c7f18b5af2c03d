import ConfluxQuery.Http.Pages

/-!
# Pages as Arrow streams

A request for results that accepts `application/vnd.apache.arrow.stream` is answered with the page's
batches as an Arrow IPC stream, under the schema of the first of them. A page without batches has an
empty body. The writer and the reader of streams are parameters.
-/

namespace ConfluxQuery

/-- A format of streams of batches: the rows of batches that are written under their schema are read
back under it, and a body without a byte is no stream. -/
structure ArrowStream where
  Body : Type
  /-- The body without a byte. -/
  empty : Body
  /-- Write batches under a schema. -/
  write : Schema → List RecordBatch → Except String Body
  read : Body → Option (Schema × List RecordBatch)
  /-- The round trip of the format, for batches of the stream's schema. -/
  roundTrip : ∀ schema batches, (∀ batch ∈ batches, batch.schema = schema) → ∃ body decoded,
    write schema batches = .ok body ∧ read body = some (schema, decoded) ∧
      decoded.flatMap RecordBatch.rows = batches.flatMap RecordBatch.rows
  /-- A stream begins with its schema. -/
  read_empty : read empty = none

/-- The source's `render_arrow`. -/
def renderArrow (stream : ArrowStream) (batches : List RecordBatch) : Except String stream.Body :=
  match batches with
  | [] => .ok stream.empty
  | first :: _ => stream.write first.schema batches

/-- Answer a request for results that accepts an Arrow stream. -/
def HttpService.getArrowResults (service : HttpService) (base64 : Base64 (List UInt8) (List Char))
    (stream : ArrowStream) (principal : AuthenticatedPrincipal) (queryId : String)
    (query : ResultsQuery) : Call (Except ApiError (ResultsResponse stream.Body)) :=
  service.getResults base64 (renderArrow stream) principal queryId query

end ConfluxQuery
