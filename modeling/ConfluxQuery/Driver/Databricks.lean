import ConfluxQuery.Driver.Sink
import ConfluxQuery.Lib.Quoting

/-!
# The Databricks adapter

`DatabricksAdapter::execute` of `qcli-driver-databricks`: one statement is submitted, its status is
polled until it has ended, and the chunks of its result are fetched along their links. Each request
to the service, each pause and each message to the consumer is one operation. What the service
answers is up to the environment; a reply is the outcome of the request helper, with the error that
helper makes of a failed request. The service may go on polling or linking for ever, so the loops
take the number of polls and of chunks they may still ask for.
-/

namespace ConfluxQuery.Databricks

/-- One column of a result. -/
structure Column where
  name : String
  /-- Type, in the engine's words. -/
  typeText : String

/-- One chunk of a result. -/
structure ResultData (ν : Type) where
  dataArray : List (List (Option ν))
  nextChunkInternalLink : Option String

/-- Error of a statement. -/
structure StatementError where
  errorCode : Option String
  message : Option String

/-- Status of a statement. -/
structure StatementStatus where
  state : String
  error : Option StatementError

/-- Columns of a result. -/
structure ResultSchema where
  columns : List Column

/-- What is known about a result. -/
structure Manifest where
  schema : Option ResultSchema

/-- An answer about a statement. -/
structure StatementResponse (ν : Type) where
  statementId : Option String
  status : Option StatementStatus
  /-- What is known about the result. -/
  manifest : Option Manifest
  /-- First chunk of the result. -/
  result : Option (ResultData ν)

namespace StatementResponse

variable {ν : Type} (response : StatementResponse ν)

/-- The statement's state. -/
def state : Except DriverError String :=
  match response.status with
  | some status => .ok status.state
  | none => .error ⟨"databricks_protocol", "response did not contain statement state"⟩

/-- The result's columns. -/
def columns : List Column :=
  ((response.manifest.bind Manifest.schema).map ResultSchema.columns).getD []

/-- The error of a failed statement. -/
def executionError : DriverError :=
  let error := response.status.bind StatementStatus.error
  ⟨(error.bind StatementError.errorCode).getD "databricks_query",
    (error.bind StatementError.message).getD "Databricks statement failed"⟩

end StatementResponse

/-- Requests of the client, and its pauses. -/
inductive Op
  | submit (statement : String)
  | status (id : String)
  | chunk (link : String)
  | cancel (id : String)
  | sleep

/-- Replies to the client's requests. -/
@[reducible] def Op.Reply (ν : Type) : Op → Type
  | submit _ | status _ => Except DriverError (StatementResponse ν)
  | chunk _ => Except DriverError (ResultData ν)
  | cancel _ => Except DriverError Unit
  | sleep => Unit

/-- The interface of the client. -/
@[reducible] def clientOps (ν : Type) : Signature := ⟨Op, Op.Reply ν⟩

/-- A program of the adapter. -/
abbrev Call (ν α : Type) : Type := Prog (sinkOps (clientOps ν)) DriverError α

/-- A request of the client, or a pause. -/
def ask {ν : Type} (act : Op) : Call ν (act.Reply ν) := Sink.ask (clientOps ν) act

/-- JSON values as texts. -/
structure JsonText (ν : Type) where
  /-- The text a value is, if it is one. -/
  asStr : ν → Option String
  toText : ν → String

/-- A value as the adapter shows it. -/
def JsonText.displayValue {ν : Type} (json : JsonText ν) (value : ν) : String :=
  (json.asStr value).getD (json.toText value)

section

variable {ν : Type}

/-- A column of a result's width, with the engine's type where the column is known. -/
def columnField (columns : List Column) (index : Nat) : NotedField :=
  match columns[index]? with
  | some column => ⟨⟨column.name, "Utf8", true⟩,
      Registry.ofList [("databricks.type", column.typeText)]⟩
  | none => ⟨⟨"column_" ++ toString (index + 1), "Utf8", true⟩, ∅⟩

/-- Rows as a batch of texts, as wide as the columns and the first row. -/
def resultBatch (builder : BatchBuilder) (json : JsonText ν) (columns : List Column)
    (rows : List (List (Option ν))) : Except DriverError RecordBatch :=
  let width := max columns.length ((rows.head?.map List.length).getD 0)
  let fields := (List.range width).map (columnField columns)
  let arrays := (List.range width).map fun index =>
    rows.map fun row => row[index]?.join.map json.displayValue
  (builder.tryNew fields arrays).mapError fun error => ⟨"databricks_type", error⟩

/-- Words of a text. -/
def splitWhitespace (text : List Char) : List (List Char) :=
  (text.splitOnP Text.isWhitespace).filter fun word => !word.isEmpty

/-- A word is a keyword, in any case. -/
def isWord (word : List Char) (keyword : String) : Bool :=
  word.map Char.toLower == keyword.toList

/-- The quote of identifiers. -/
def backQuote : Char := Char.ofNat 96

/-- A quoted identifier. -/
def identifier (value : List Char) : List Char := Quoting.wrapped backQuote value

/-- The quotes an identifier may have: back quotes, double quotes and single quotes. -/
def isQuote (letter : Char) : Bool := [96, 34, 39].contains letter.toNat

/-- An identifier without its quotes. -/
def cleanIdentifier (value : List Char) : String := String.ofList (Text.trim isQuote value)

/-- The session properties that the third word of a `USE` statement sets after its second. -/
def wordsUpdate (kind value : List Char) : Option (Registry String String) :=
  if isWord kind "catalog" then
    some (Registry.ofList [("catalog", cleanIdentifier value), ("schema", "default")])
  else if isWord kind "schema" then some (Registry.ofList [("schema", cleanIdentifier value)])
  else if isWord kind "database" then
    match Text.splitOnce '.' value with
    | none => some (Registry.ofList [("schema", cleanIdentifier value)])
    | some (catalog, schema) => some (Registry.ofList
        [("catalog", cleanIdentifier catalog), ("schema", cleanIdentifier schema)])
  else none

/-- The session properties a `USE` statement sets. -/
def sessionUpdate (sql : String) : Option (Registry String String) :=
  let statement := Text.strip ((Text.strip sql.toList).reverse.dropWhile (· == ';')).reverse
  match splitWhitespace statement with
  | [useWord, kind, value] => if isWord useWord "use" then wordsUpdate kind value else none
  | _ => none

/-- The filter of `list_objects`. -/
def globMatches : Option String → String → Bool := suffixGlobMatches

/-- What the chunk loop has delivered so far. -/
structure Progress where
  rows : Nat
  /-- The consumer knows that results arrive. -/
  producing : Bool

/-- Send the rows of a chunk. -/
def sendChunk (builder : BatchBuilder) (json : JsonText ν) (columns : List Column)
    (progress : Progress) (chunk : ResultData ν) : Call ν Progress := do
  if chunk.dataArray.isEmpty then return progress
  else
    Sink.emitWhen (!progress.producing) (.state .producingResults)
    let batch ← Prog.lift (resultBatch builder json columns chunk.dataArray)
    Sink.send batch ⟨"consumer_closed", "result consumer closed"⟩
    return ⟨progress.rows + batch.numRows, true⟩

/-- Send a chunk and, along the links, at most `chunks` more. -/
def sendChunks (builder : BatchBuilder) (json : JsonText ν) (columns : List Column) :
    Nat → Progress → ResultData ν → Call ν (Option Progress)
  | chunks, progress, chunk => do
    let progress ← sendChunk builder json columns progress chunk
    match chunk.nextChunkInternalLink, chunks with
    | none, _ => return some progress
    | some _, 0 => return none
    | some link, chunks + 1 =>
      let chunk ← Prog.lift (← ask (.chunk link))
      sendChunks builder json columns chunks progress chunk

/-- Send the result of a statement that has succeeded. -/
def deliver (builder : BatchBuilder) (json : JsonText ν) (sql : String) (chunks : Nat)
    (response : StatementResponse ν) : Call ν Bool := do
  match response.result with
  | none => Sink.finish (sessionUpdate sql) 0
  | some result =>
    match ← sendChunks builder json response.columns chunks ⟨0, false⟩ result with
    | none => return false
    | some progress => Sink.finish (sessionUpdate sql) progress.rows

/-- Take the end of a statement in, by its state. -/
def conclude (builder : BatchBuilder) (json : JsonText ν) (sql : String) (chunks : Nat)
    (response : StatementResponse ν) (state : String) : Call ν Bool :=
  if state = "SUCCEEDED" then deliver builder json sql chunks response
  else if state = "CANCELED" ∨ state = "CLOSED" then
    Prog.fail ⟨"cancelled", "query was cancelled"⟩
  else if state = "FAILED" then Prog.fail response.executionError
  else Prog.fail ⟨"databricks_protocol", "unknown statement state '" ++ state ++ "'"⟩

/-- Wait for the end of a statement, polling at most `polls` times, and send its result. The answer
says whether the result was read to its end. -/
def await (builder : BatchBuilder) (json : JsonText ν) (sql id : String) (chunks : Nat) :
    Nat → StatementResponse ν → Call ν Bool
  | polls, response => do
    if ← Sink.isCancelled then
      Prog.lift (← ask (.cancel id))
      Prog.fail ⟨"cancelled", "query was cancelled"⟩
    else
      let state ← Prog.lift response.state
      if state = "PENDING" ∨ state = "RUNNING" then
        match polls with
        | 0 => return false
        | polls + 1 =>
          ask .sleep
          let response ← Prog.lift (← ask (.status id))
          await builder json sql id chunks polls response
      else conclude builder json sql chunks response state

/-- Execute a statement once the connection is configured. -/
def execute (builder : BatchBuilder) (json : JsonText ν) (connection : Except DriverError Unit)
    (sql : String) (polls chunks : Nat) : Call ν Bool := do
  Prog.lift connection
  Sink.emit (.state .running)
  let response ← Prog.lift (← ask (.submit sql))
  let id ← Prog.okOr ⟨"databricks_protocol", "response did not contain a statement ID"⟩
    response.statementId
  Sink.emit (.engineQueryId id)
  await builder json sql id chunks polls response

end

end ConfluxQuery.Databricks
