import ConfluxQuery.Http.Api
import ConfluxQuery.Lib.Codecs
import ConfluxQuery.Lib.Text
import ConfluxQuery.Service.Reads

/-!
# Pages of the HTTP frontend

The HTTP frontend cuts a result into pages and hands out a token for the next one: the offset and a
check value made of the offset and a secret of the service, in URL-safe Base64. Each service draws
its secret when it is built. The body of a response is a rendering of the page's batches, which the
request chooses by a content type and which may fail; the renderer is a parameter, and
`Http.ArrowPages` has the one of Arrow streams.
-/

namespace ConfluxQuery

/-- Limits of the HTTP frontend on pages. -/
structure HttpLimits where
  /-- Rows of a page when the request names no limit. -/
  defaultPageRows : Nat := 1000
  /-- Rows of a page at most. -/
  maxPageRows : Nat := 10000
  /-- A page may have a row; the source panics otherwise. -/
  positive : 1 ≤ maxPageRows := by decide

/-- The HTTP frontend of a gateway. -/
structure HttpService where
  gateway : Gateway
  limits : HttpLimits
  /-- The secret drawn when the frontend was built. -/
  pageSecret : BitVec 64

/-- A page token that does not decode. -/
def invalidPageToken : ApiError := ⟨400, "invalid_page_token", "page token is invalid"⟩

/-- The check value of an offset. -/
def pageSignature (offset secret : BitVec 64) : BitVec 64 := offset.rotateLeft 17 ^^^ secret

/-- The text of a page token, before it is encoded. -/
def pageTokenText (offset secret : BitVec 64) : String :=
  .ofList (Hexadecimal.print offset ++ ':' :: Hexadecimal.print (pageSignature offset secret))

section

variable (base64 : Base64 (List UInt8) (List Char))

/-- The token of an offset. -/
def encodePageToken (offset secret : BitVec 64) : String :=
  .ofList (base64.encode (pageTokenText offset secret).toUTF8.data.toList)

/-- The offset of a token, if it is a token of the secret. -/
def readPageToken (token : String) (secret : BitVec 64) : Option (BitVec 64) := do
  let bytes ← base64.decode token.toList
  let value ← String.fromUTF8? ⟨bytes.toArray⟩
  let parts ← Text.splitOnce ':' value.toList
  let offset ← Hexadecimal.read parts.1
  let signature ← Hexadecimal.read parts.2
  if signature = pageSignature offset secret then some offset else none

/-- The offset of a token. Every way a token can be wrong has the same error. -/
def decodePageToken (token : String) (secret : BitVec 64) : Except ApiError Nat :=
  match readPageToken base64 token secret with
  | some offset => .ok offset.toNat
  | none => .error invalidPageToken

/-- The query of a request for results. -/
structure ResultsQuery where
  pageToken : Option String
  /-- Rows of the page at most. -/
  limit : Option Nat

/-- A response to a request for results: its body, and the header `x-qcli-next-page-token`. -/
structure ResultsResponse (β : Type) where
  body : β
  nextPageToken : Option String

/-- An error of a renderer. -/
def outputError (message : String) : ApiError := ⟨500, "result_encoding", message⟩

namespace HttpService

variable (service : HttpService)

/-- The offset a request asks for. -/
def pageOffset (query : ResultsQuery) : Except ApiError Nat :=
  match query.pageToken with
  | none => .ok 0
  | some token => decodePageToken base64 token service.pageSecret

/-- The rows a page has at most. -/
def pageLimit (query : ResultsQuery) : Nat :=
  max 1 (min (query.limit.getD service.limits.defaultPageRows) service.limits.maxPageRows)

/-- The token of the page after a page. -/
def nextToken (page : ResultPage) : Option String :=
  page.nextOffset.map fun offset => encodePageToken base64 (.ofNat 64 offset) service.pageSecret

/-- Answer a request for results with a rendering of the page. -/
def getResults {β : Type} (render : List RecordBatch → Except String β)
    (principal : AuthenticatedPrincipal) (queryId : String) (query : ResultsQuery) :
    Call (Except ApiError (ResultsResponse β)) :=
  match service.pageOffset base64 query with
  | .error error => return .error error
  | .ok offset => do
    match ← (service.gateway.resultPageClustered principal queryId offset
      (service.pageLimit query)).attempt with
    | .error error => return .error (serviceError error)
    | .ok page =>
      match render page.batches with
      | .error message => return .error (outputError message)
      | .ok body => return .ok ⟨body, service.nextToken base64 page⟩

end HttpService

end

end ConfluxQuery
