import ConfluxQuery.Driver.Sink
import ConfluxQuery.Lib.Text

/-!
# The Trino adapter

`TrinoAdapter::execute` of `qcli-driver-trino`: one statement is posted, its result pages are
fetched by their addresses, and both go through one retry helper inside a race with cancellation.
Each request to the coordinator, each pause and each message to the consumer is one operation; what
the coordinator answers, and when the cancellation wins a race, is up to the environment. The
client library's errors keep their texts as data, and the conversion of columns and rows to a batch
is a parameter. A coordinator may go on announcing pages for ever, so the page loop takes the number
of pages it may still fetch.
-/

namespace ConfluxQuery.Trino

/-- Errors of the client library, with their texts. -/
inductive ClientError
  | basicAuthWithHttp (text : String)
  | forbidden (text : String)
  | httpError (timeout : Bool) (text : String)
  | httpNotOk (status : Nat) (text : String)
  | query (errorName errorType message : String)
  | decode (text : String)
  | protocol (text : String)
  | inconsistentData (text : String)
  | tls (text : String)
  | other (text : String)
  deriving DecidableEq, Repr

/-- A client error as the adapter reports it. -/
def mapClientError : ClientError → DriverError
  | .basicAuthWithHttp text => ⟨"insecure_authentication", text⟩
  | .forbidden text => ⟨"authentication", text⟩
  | .httpError true _ => ⟨"timeout", "Trino request timed out"⟩
  | .httpError false text => ⟨"connection", text⟩
  | .httpNotOk status text =>
    if status = 401 ∨ status = 403 then ⟨"authentication", text⟩ else ⟨"trino_http", text⟩
  | .query errorName errorType message => ⟨errorName, errorType ++ ": " ++ message⟩
  | .decode text | .protocol text | .inconsistentData text => ⟨"trino_protocol", text⟩
  | .tls text => ⟨"tls", text⟩
  | .other text => ⟨"trino_client", text⟩

/-- Rows of a page. -/
inductive ResultData (ρ : Type)
  | direct (rows : List ρ)
  | spooled

/-- An error the coordinator reports in a page. -/
structure PageError where
  errorName : String
  errorType : String
  message : String
  deriving DecidableEq, Repr

/-- One page of a result. -/
structure QueryResult (κ ρ : Type) where
  /-- Query identifier of the coordinator. -/
  id : String
  nextUri : Option String
  /-- Statistics, as progress reports them. -/
  stats : QueryProgress
  error : Option PageError
  columns : Option κ
  data : Option (ResultData ρ)

/-- Conversion of a page's columns and rows. -/
structure PageCodec (κ γ ρ : Type) where
  /-- Columns as the adapter reads them. -/
  convertColumns : κ → Except DriverError γ
  /-- Rows under known columns as a batch. -/
  pageToBatch : γ → List ρ → Except DriverError RecordBatch

/-- The end of a race with cancellation. -/
inductive Raced (α : Type)
  | done (value : α)
  | cancelled
  deriving DecidableEq, Repr

/-- Requests of the client, and its pauses. A request that loses its race may have reached the
coordinator. -/
inductive Op
  | post (sql : String)
  | getNext (uri : String)
  | pause
  | cancel (queryId : String)

/-- Replies to the client's requests. -/
@[reducible] def Op.Reply (κ ρ : Type) : Op → Type
  | post _ | getNext _ => Raced (Except ClientError (QueryResult κ ρ))
  | pause => Raced Unit
  | cancel _ => Except String Unit

/-- The interface of the client. -/
@[reducible] def clientOps (κ ρ : Type) : Signature := ⟨Op, Op.Reply κ ρ⟩

/-- The interface of the adapter. -/
@[reducible] def ops (κ ρ : Type) : Signature := sinkOps (clientOps κ ρ)

/-- A program of the adapter. -/
abbrev Call (κ ρ α : Type) : Type := Prog (ops κ ρ) DriverError α

section

variable {κ γ ρ : Type}

/-- A request of the client, or a pause. -/
def ask (act : Op) : Call κ ρ (act.Reply κ ρ) := Sink.ask (clientOps κ ρ) act

/-- Statuses the retry helper takes for transient. -/
def transientStatus (status : Nat) : Bool :=
  status == 429 || status == 502 || status == 503 || status == 504

/-- One request: the address of a page, or the statement itself. -/
def request (value : String) (next : Bool) :
    Call κ ρ (Raced (Except ClientError (QueryResult κ ρ))) :=
  if next then ask (.getNext value) else ask (.post value)

/-- A reply the helper tries again after. -/
def transient : Except ClientError (QueryResult κ ρ) → Bool
  | .error (.httpNotOk status _) => transientStatus status
  | _ => false

/-- Ask for a page, again after a pause while the answer is transient and retries are left. The
cancellation may win at the request and at the pause. -/
def pageWithRetry (value : String) (next : Bool) : Nat → Call κ ρ (Raced (QueryResult κ ρ))
  | 0 => do
    match ← request value next with
    | .cancelled => return .cancelled
    | .done result => .done <$> Prog.lift (result.mapError mapClientError)
  | retries + 1 => do
    match ← request value next with
    | .cancelled => return .cancelled
    | .done result =>
      if transient result then
        match ← ask .pause with
        | .cancelled => return .cancelled
        | .done () => pageWithRetry value next retries
      else .done <$> Prog.lift (result.mapError mapClientError)

/-- The cancellation has won: confirm it with the coordinator. -/
def confirmCancellation (queryId : Option String) : Call κ ρ (QueryResult κ ρ) := do
  Sink.emit (.state .cancelling)
  let id ← Prog.okOr ⟨"cancel_unconfirmed",
    "query was cancelled before Trino returned its query ID"⟩ queryId
  match ← ask (.cancel id) with
  | .error error =>
    Prog.fail ⟨"cancel_unconfirmed", "Trino cancellation request failed: " ++ error⟩
  | .ok () => Prog.fail ⟨"cancelled", "query cancellation was confirmed by Trino"⟩

/-- Ask for a page with three retries, or confirm the cancellation with the coordinator. -/
def getOrCancel (value : String) (queryId : Option String) : Call κ ρ (QueryResult κ ρ) := do
  match ← pageWithRetry value queryId.isSome 3 with
  | .done page => return page
  | .cancelled => confirmCancellation queryId

/-- Rows that came with the page. -/
def directRows : ResultData ρ → Except DriverError (List ρ)
  | .direct rows => .ok rows
  | .spooled => .error ⟨"trino_spooling",
      "Trino returned spooled results; qcli currently requires the direct protocol"⟩

/-- An identifier without its double quotes, when it has them at both ends. -/
def unquoteIdentifier (value : List Char) : List Char :=
  match value with
  | '"' :: rest => if rest.getLast? = some '"' then rest.dropLast else value
  | _ => value

/-- The session properties that the context of a `USE` statement sets, by its parts. -/
def contextUpdate (context : List Char) : Option (Registry String String) :=
  if context.isEmpty ∨ context.any Text.isWhitespace then none
  else match (context.splitOn '.').map fun part => String.ofList (unquoteIdentifier part) with
    | [schema] => some (Registry.ofList [("schema", schema)])
    | [catalog, schema] => some (Registry.ofList [("catalog", catalog), ("schema", schema)])
    | _ => none

/-- The session properties a `USE` statement sets. -/
def useSessionUpdate (sql : String) : Option (Registry String String) :=
  let statement := Text.strip ((Text.strip sql.toList).reverse.dropWhile (· == ';')).reverse
  match statement with
  | u :: s :: e :: remainder =>
    if [u, s, e].map Char.toLower = ['u', 's', 'e'] ∧ remainder.head?.any Text.isWhitespace then
      contextUpdate (Text.strip remainder)
    else none
  | _ => none

/-- What the page loop has collected so far. -/
structure Progress (γ : Type) where
  /-- Query identifier of the coordinator, once it is known. -/
  queryId : Option String
  /-- Columns, once they are known. -/
  columns : Option γ
  totalRows : Nat
  /-- The consumer knows that results arrive. -/
  producingResults : Bool

/-- Before the first page. -/
def Progress.initial : Progress γ := ⟨none, none, 0, false⟩

/-- Send the rows of a page. -/
def sendRows (codec : PageCodec κ γ ρ) (progress : Progress γ) (data : ResultData ρ) :
    Call κ ρ (Progress γ) := do
  let rows ← Prog.lift (directRows data)
  if rows.isEmpty then return progress
  else
    let columns ← Prog.okOr ⟨"trino_protocol", "result data arrived without columns"⟩
      progress.columns
    let batch ← Prog.lift (codec.pageToBatch columns rows)
    let progress := { progress with totalRows := progress.totalRows + batch.numRows }
    if 0 < batch.numRows then
      Sink.emitWhen (!progress.producingResults) (.state .producingResults)
      Sink.send batch ⟨"consumer_closed", "result consumer closed"⟩
      return { progress with producingResults := true }
    else return progress

/-- The columns of a page, when it has them, replace those of earlier pages. -/
def takeColumns (codec : PageCodec κ γ ρ) (known : Option γ) (columns : Option κ) :
    Except DriverError (Option γ) :=
  match columns with
  | none => .ok known
  | some columns => (codec.convertColumns columns).map some

/-- Take one page in: its identifier, its progress, its error, its columns and its rows. -/
def takePage (codec : PageCodec κ γ ρ) (progress : Progress γ) (page : QueryResult κ ρ) :
    Call κ ρ (Progress γ) := do
  Sink.emitWhen progress.queryId.isNone (.engineQueryId page.id)
  Sink.emitWhen page.nextUri.isNone (.progress page.stats)
  match page.error with
  | some error => Prog.fail ⟨error.errorName, error.errorType ++ ": " ++ error.message⟩
  | none =>
    let columns ← Prog.lift (takeColumns codec progress.columns page.columns)
    let progress := { progress with queryId := some (progress.queryId.getD page.id), columns }
    match page.data with
    | none => return progress
    | some data => sendRows codec progress data

/-- Fetch the pages after the first one. The answer says whether the result was read to its end. -/
def nextPages (codec : PageCodec κ γ ρ) (sql : String) : Nat → Progress γ → Option String →
    Call κ ρ Bool
  | _, progress, none => Sink.finish (useSessionUpdate sql) progress.totalRows
  | 0, _, some _ => return false
  | pages + 1, progress, some uri => do
    let page ← getOrCancel uri progress.queryId
    let progress ← takePage codec progress page
    nextPages codec sql pages progress page.nextUri

/-- Execute a statement once the client is built, reading the first page and at most `pages` more.
-/
def execute (codec : PageCodec κ γ ρ) (client : Except DriverError Unit) (sql : String)
    (pages : Nat) : Call κ ρ Bool := do
  Prog.lift client
  Sink.emit (.state .running)
  let page ← getOrCancel sql none
  let progress ← takePage codec .initial page
  nextPages codec sql pages progress page.nextUri

end

end ConfluxQuery.Trino
