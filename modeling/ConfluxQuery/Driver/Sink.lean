import ConfluxQuery.Core.Driver
import ConfluxQuery.Lib.Prog

/-!
# What adapters work with

An adapter reports to a `QuerySink`: it sends events and batches, and it looks at the cancellation
signal. What else it asks for, its client's requests, is a signature of its own. Batches are built
by the Arrow library, of which only this is assumed: a batch has as many rows as the arrays or the
lines it is made of.
-/

namespace ConfluxQuery

/-- Operations of an adapter with a client. -/
inductive SinkOp (κ : Type)
  | emit (event : QueryEvent)
  | send (batch : RecordBatch)
  | isCancelled
  | client (act : κ)

/-- Replies to an adapter's operations. The consumer of batches may be gone. -/
@[reducible] def SinkOp.Reply (client : Signature) : SinkOp client.Op → Type
  | emit _ => Unit
  | send _ => Bool
  | isCancelled => Bool
  | .client act => client.Reply act

/-- The interface of an adapter with a client. -/
@[reducible] def sinkOps (client : Signature) : Signature :=
  ⟨SinkOp client.Op, SinkOp.Reply client⟩

namespace Sink

variable {client : Signature} {ε : Type}

/-- A message to the consumer of events. -/
def emit (event : QueryEvent) : Prog (sinkOps client) ε Unit :=
  Prog.perform (S := sinkOps client) (.emit event)

/-- A message that depends on a test. -/
def emitWhen (test : Bool) (event : QueryEvent) : Prog (sinkOps client) ε Unit :=
  if test then emit event else pure ()

/-- A message, if there is one. -/
def emitAny : Option QueryEvent → Prog (sinkOps client) ε Unit
  | some event => emit event
  | none => pure ()

/-- A batch for the consumer; an error when the consumer is gone. -/
def send (batch : RecordBatch) (closed : ε) : Prog (sinkOps client) ε Unit := do
  let taken ← Prog.perform (S := sinkOps client) (.send batch)
  Prog.ensure taken closed

/-- Report the end of a result: the session properties the statement has set, if any, and the number
of rows. -/
def finish (properties : Option (Registry String String)) (rows : Nat) :
    Prog (sinkOps client) ε Bool := do
  emitAny (properties.map .sessionProperties)
  emit (.rowsProduced rows)
  return true

/-- The cancellation signal. -/
def isCancelled : Prog (sinkOps client) ε Bool :=
  Prog.perform (S := sinkOps client) .isCancelled

/-- A request of the client. -/
def ask (client : Signature) (act : client.Op) : Prog (sinkOps client) ε (client.Reply act) :=
  Prog.perform (S := sinkOps client) (.client act)

end Sink

/-- A filter of names that knows a star at the end of a pattern. -/
def suffixGlobMatches (pattern : Option String) (value : String) : Bool :=
  match pattern with
  | none => true
  | some pattern =>
    if pattern.toList.getLast? = some '*' then pattern.toList.dropLast.isPrefixOf value.toList
    else pattern == value

/-- The filter of the demo adapter's `list_objects`; nothing else of that adapter is modelled. -/
def Demo.globMatches : Option String → String → Bool := suffixGlobMatches

/-- A column with the engine's own notes on it. -/
structure NotedField where
  field : Field
  metadata : Registry String String

/-- A column of texts. -/
abbrev StringArray : Type := List (Option String)

/-- The constructor of batches out of columns of texts. -/
structure BatchBuilder where
  /-- A batch with the given columns. -/
  tryNew : List NotedField → List StringArray → Except String RecordBatch
  /-- There is a column, and each has a cell for every row. -/
  rows_of_tryNew : ∀ fields arrays batch, tryNew fields arrays = .ok batch →
    arrays ≠ [] ∧ ∀ array ∈ arrays, array.length = batch.numRows

/-- The reader of batches out of lines of JSON. -/
structure LineReader where
  /-- The first batch, of at most as many rows as the given size. -/
  read : Schema → Nat → List String → Except String (Option RecordBatch)
  /-- A batch that may be as large as that has a row for every line. -/
  rows_of_read : ∀ schema size lines batch, lines.length ≤ size →
    read schema size lines = .ok (some batch) → batch.numRows = lines.length

end ConfluxQuery
