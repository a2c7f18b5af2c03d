import ConfluxQuery.Core.Driver
import ConfluxQuery.Lib.Channels

/-!
# The handle of a query

The core gives the adapter's task the sending ends of two bounded channels, for events and for
batches, and keeps the receiving ends in a handle. `next_item` merges the two: its loop waits for
both with `tokio::select!`, leaving out a channel whose end it has seen. Which branch is polled
first is random. The task may send and the channels may close between any two turns of the loop.
-/

namespace ConfluxQuery

/-- The receiving side of a query; the fields that `next_item` reads, each channel with its flag. -/
structure QueryHandle where
  /-- Events of the adapter, and whether their end was seen. -/
  events : Receiver QueryEvent
  /-- Batches of the adapter, and whether their end was seen. -/
  batches : Receiver RecordBatch

/-- What one turn of the loop of `next_item` comes to. -/
inductive Turn
  /-- The call returns. -/
  | returned (item : Option QueryItem)
  /-- A channel has ended, and the loop goes on. -/
  | again
  /-- No branch is ready. -/
  | waits

/-- What a branch does with a value of its channel, or with the end. -/
def Turn.branch {α : Type} (item : α → QueryItem) : Option α → Turn
  | some value => .returned (some (item value))
  | none => .again

/-- What a turn returns to the caller, if anything. -/
def Turn.answers : Turn → List (Option QueryItem)
  | .returned item => [item]
  | _ => []

namespace QueryHandle

/-- The handle of a new query. -/
def new : QueryHandle := ⟨.new, .new⟩

variable (handle : QueryHandle)

/-- The branch of the events, if it is enabled and ready. -/
def pollEvents : Option (Turn × QueryHandle) :=
  handle.events.poll.map fun polled =>
    (.branch .event polled.1, { handle with events := polled.2 })

/-- The branch of the batches, if it is enabled and ready. -/
def pollBatches : Option (Turn × QueryHandle) :=
  handle.batches.poll.map fun polled =>
    (.branch .batch polled.1, { handle with batches := polled.2 })

/-- One turn of the loop of `next_item`, with the branch that `select!` polls first. -/
def turn (eventsFirst : Bool) : Turn × QueryHandle :=
  if handle.events.done && handle.batches.done then (.returned none, handle)
  else if eventsFirst then (handle.pollEvents.or handle.pollBatches).getD (.waits, handle)
  else (handle.pollBatches.or handle.pollEvents).getD (.waits, handle)

end QueryHandle

/-- A query between its adapter's task and the caller of `next_item`: the handle, what the task has
sent and what the calls have returned. -/
structure Exchange where
  handle : QueryHandle
  sentEvents : List QueryEvent
  sentBatches : List RecordBatch
  /-- Results of the calls, in order. -/
  answers : List (Option QueryItem)

namespace Exchange

/-- What may happen next: the task sends or drops its sending ends, or the loop takes a turn. -/
inductive Action
  | sendEvent (event : QueryEvent)
  | sendBatch (batch : RecordBatch)
  | closeEvents
  | closeBatches
  | turn (eventsFirst : Bool)

/-- A query that was just submitted. -/
def start : Exchange := ⟨.new, [], [], []⟩

/-- One action; a send that has to wait does not happen yet. -/
def step (capacity : Nat) (exchange : Exchange) : Action → Exchange
  | .sendEvent event =>
    match exchange.handle.events.channel.send capacity event with
    | none => exchange
    | some channel => { exchange with
        handle.events.channel := channel
        sentEvents := exchange.sentEvents ++ [event] }
  | .sendBatch batch =>
    match exchange.handle.batches.channel.send capacity batch with
    | none => exchange
    | some channel => { exchange with
        handle.batches.channel := channel
        sentBatches := exchange.sentBatches ++ [batch] }
  | .closeEvents => { exchange with
      handle.events.channel := exchange.handle.events.channel.close }
  | .closeBatches => { exchange with
      handle.batches.channel := exchange.handle.batches.channel.close }
  | .turn eventsFirst =>
    let result := exchange.handle.turn eventsFirst
    { exchange with handle := result.2, answers := exchange.answers ++ result.1.answers }

/-- A schedule of actions. -/
def run (capacity : Nat) (exchange : Exchange) (actions : List Action) : Exchange :=
  actions.foldl (step capacity) exchange

end Exchange

end ConfluxQuery
