import ConfluxQuery.Http.Api
import ConfluxQuery.Lib.Numbered
import ConfluxQuery.Service.Gateway
import ConfluxQuery.Verif.Lifecycle

/-!
# Events of a record

The events a record keeps are numbered one after the other, and none is ever changed: every section
on a record adds at its end, or leaves the events as they are.
-/

namespace ConfluxQuery

namespace QueryData

/-- The events are numbered one after the other. -/
structure Counted (data : QueryData) : Prop where
  /-- Each event carries its position. -/
  numbered : Numbered ServiceEvent.id data.events
  next : data.nextEventId = data.events.length + 1

/-- A submitted query has no events. -/
theorem counted_submitted : submitted.Counted := ⟨.nil, rfl⟩

variable {data : QueryData}

/-- Recording an event appends it under the next number. -/
theorem pushEvent_events (now : Nat) (event : EventData) (terminal : Bool) (data : QueryData) :
    (pushEvent now event terminal data).events =
      data.events ++ [⟨data.nextEventId, event, terminal⟩] := by
  cases event <;> rfl

theorem Counted.pushEvent (counted : data.Counted) (now : Nat) (event : EventData)
    (terminal : Bool) : (ConfluxQuery.pushEvent now event terminal data).Counted := by
  refine ⟨?_, ?_⟩
  · rw [pushEvent_events]
    exact counted.numbered.concat counted.next
  · rw [pushEvent_events, List.length_append]
    have next : (ConfluxQuery.pushEvent now event terminal data).nextEventId =
        data.nextEventId + 1 := by cases event <;> rfl
    rw [next, counted.next]
    rfl

end QueryData

/-- A section adds to the events only by recording one, and keeps them numbered. -/
theorem RecordOp.alter_counted (now : Nat) (io : FileIo) (reference : Nat) (op : RecordOp)
    (data : QueryData) (counted : data.Counted) : (op.alter now io reference data).Counted := by
  by_cases pushes : ∃ event terminal, op = .pushEvent reference event terminal
  · obtain ⟨event, terminal, rfl⟩ := pushes
    simp only [RecordOp.alter, if_true]
    exact counted.pushEvent now event terminal
  · have silent : ∀ event terminal, op ≠ .pushEvent reference event terminal :=
      fun event terminal same => pushes ⟨event, terminal, same⟩
    have same := op.alter_ledger now io reference data silent
    have events : (op.alter now io reference data).events = data.events :=
      congrArg (fun ledger => ledger.1.2.2) same
    have next : (op.alter now io reference data).nextEventId = data.nextEventId :=
      congrArg Prod.snd same
    refine ⟨events ▸ counted.numbered, ?_⟩
    rw [next, events]
    exact counted.next

section

variable {S : Type} [ClusterStateStore S Payload] {gateways : Nat → Gateway} {guard : Guard S}
  {world : World S} {past : Past S} {store : S}

theorem records_counted (history : GatewayHistory gateways guard (World.initial store) world past)
    {place reference : Nat} {record : QueryRecord}
    (found : world.record place reference = some record) : record.data.Counted :=
  records_satisfy QueryData.Counted QueryData.counted_submitted
    (fun now io reference op data => op.alter_counted now io reference data) history found

end

/-- The rule that allows everything. -/
def freely : Rule gatewayOps := ⟨fun _ _ => True, fun _ _ => True⟩

namespace Sample

/-- An engine that reports rows some times. -/
def eventful (count : Nat) : Reading :=
  { reading with run := ⟨List.replicate count (.event (.rowsProduced 1)), .ok ()⟩ }

end Sample

end ConfluxQuery
