import ConfluxQuery.Verif.EventStream
import ConfluxQuery.Verif.PlainReads
import ConfluxQuery.Verif.Retention

/-!
# The event history

The events of a query are a log that its collector and calls of `cancel` write, each under the lock
of the query's data. The log counts from one without a gap, and the state of the query is the one
the log ends with; so a reader that names the last event it has seen gets all that follow it.
-/

namespace ConfluxQuery

/-- The state an event sets. -/
def EventData.state? : EventData → Option QueryState
  | .state reached => some reached
  | _ => none

/-- The state some events lead to: that of the last state event, or the first state of a query. -/
def lastState (events : List ServiceEvent) : QueryState :=
  (events.filterMap fun entry => entry.data.state?).getLast?.getD .submitted

theorem lastState_append (events : List ServiceEvent) (entry : ServiceEvent) :
    lastState (events ++ [entry]) = entry.data.state?.getD (lastState events) := by
  rw [lastState, List.filterMap_append]
  cases leads : entry.data.state? with
  | none => simp [lastState, leads]
  | some state => simp [leads]

namespace QueryData

/-- The events of a query are a log: they count from one, the next number follows, and the state is
the one they lead to. -/
structure Logged (data : QueryData) : Prop where
  numbers : data.events.map ServiceEvent.id = List.range' 1 data.events.length
  next : data.nextEventId = data.events.length + 1
  state : data.state = lastState data.events

theorem pushEvent_state (now : Nat) (event : EventData) (terminal : Bool) {data : QueryData}
    (leads : data.state = lastState data.events) :
    (pushEvent now event terminal data).state =
      lastState (pushEvent now event terminal data).events := by
  rw [pushEvent_events, lastState_append, ← leads]
  cases event <;> rfl

end QueryData

/-- A section keeps the state the one the events lead to. -/
theorem RecordOp.alter_state (now : Nat) (io : FileIo) (reference : Nat) (op : RecordOp)
    {data : QueryData} (leads : data.state = lastState data.events) :
    (op.alter now io reference data).state =
      lastState (op.alter now io reference data).events := by
  by_cases pushes : ∃ event terminal, op = .pushEvent reference event terminal
  · obtain ⟨event, terminal, rfl⟩ := pushes
    simp only [RecordOp.alter, if_true]
    exact QueryData.pushEvent_state now event terminal leads
  · have same := op.alter_lifecycle now io reference data
      fun event terminal same => pushes ⟨event, terminal, same⟩
    simp only [QueryData.lifecycle, Prod.mk.injEq] at same
    rw [same.1, same.2.2, leads]

section

variable {S : Type} [ClusterStateStore S Payload] {gateways : Nat → Gateway} {guard : Guard S}
  {world : World S} {past : Past S} {store : S}

/-- The state of every record is the one its events lead to. -/
theorem records_state (history : GatewayHistory gateways guard (World.initial store) world past)
    {place reference : Nat} {record : QueryRecord}
    (found : world.record place reference = some record) :
    record.data.state = lastState record.data.events :=
  records_satisfy (fun data => data.state = lastState data.events) rfl
    (fun now io reference op _ => op.alter_state now io reference) history found

theorem records_logged (history : GatewayHistory gateways guard (World.initial store) world past)
    {place reference : Nat} {record : QueryRecord}
    (found : world.record place reference = some record) : record.data.Logged :=
  ⟨(records_counted history found).numbered.map_eq, (records_counted history found).next,
    records_state history found⟩

/-- The events after a given one are those that stand behind it. -/
theorem records_after (history : GatewayHistory gateways guard (World.initial store) world past)
    {place reference : Nat} {record : QueryRecord}
    (found : world.record place reference = some record) (after : Nat) :
    (record.data.events.filter fun event => decide (after < event.id)) =
      record.data.events.drop after :=
  (records_counted history found).numbered.filter_eq_drop after

/-- The protocol of event histories: a call that returns events has read a record of its principal,
and returns those of its events that come after the given one. -/
def historyProtocol : Protocol gatewayOps Nat Request ServiceError Answer where
  allowed _ _ _ _ := True
  possible _ _ := True
  post _ request trail outcome := ∀ principal id after events,
    request = .call principal (.eventHistory id after) → outcome = .ok (.events events) →
    ∃ reference record, Seen.Located trail principal.id id reference record ∧
      events = record.data.events.filter fun event => decide (after < event.id)

/-- Reading the events of a query. -/
theorem eventHistory_reads (gateway : Gateway) (principal : AuthenticatedPrincipal) (id : String)
    (after : Nat) {trail : Seen} :
    Follows freely (gateway.eventHistory principal id after) trail fun later outcome =>
      ∀ events, outcome = .ok events → ∃ reference record,
        Seen.Located later principal.id id reference record ∧
          events = record.data.events.filter fun event => decide (after < event.id) := by
  have anything : Follows freely gateway.cleanupExpired trail fun _ _ => True :=
    Follows.always (fun _ _ => trivial) fun _ _ => trivial
  unfold Gateway.eventHistory Gateway.ownedRecord
  refine Follows.bind_iff.mpr (Follows.bind anything (fun swept _ _ _ => ?_)
    fun _ _ _ _ _ impossible => by cases impossible)
  refine Follows.bind_iff.mpr (Follows.perform trivial fun found _ => ?_)
  refine Follows.okOr_iff.mpr ⟨fun reference same => ?_, fun _ _ impossible => by cases impossible⟩
  subst same
  refine Follows.perform trivial fun record _ => ?_
  intro events same
  cases same
  exact ⟨reference, record, ⟨Seen.Saw.grow Seen.Saw.newest ⟨[_], rfl⟩, Seen.Saw.newest⟩, rfl⟩

theorem history_obeys (gateways : Nat → Gateway) :
    (gatewayMachine S gateways).Obeys historyProtocol where
  follows place request := by
    by_cases asks : ∃ principal id after, request = .call principal (.eventHistory id after)
    · obtain ⟨principal, id, after, rfl⟩ := asks
      refine Follows.map_iff.mpr ((eventHistory_reads (gateways place) principal id after).mono ?_)
      rintro later outcome _ reads _ _ _ events ⟨⟩ answered
      cases outcome with
      | error error => cases answered
      | ok value =>
        cases answered
        exact reads events rfl
    · exact Follows.always (fun _ _ => trivial) fun _ _ principal id after _ same _ =>
        absurd ⟨principal, id, after, same⟩ asks
  replies _ _ _ _ _ _ := trivial

theorem Viewer.eventHistory_answers {viewer : Viewer} (after : Nat) :
    viewer.Answers S (viewer.gateway.eventHistory viewer.principal viewer.queryId after)
      (Viewer.lookedUp fun record =>
        .ok (record.data.events.filter fun event => decide (after < event.id))) :=
  Viewer.Answers.located
    (fun record => pure (record.data.events.filter fun event => decide (after < event.id)))
    (fun record => .ok (record.data.events.filter fun event => decide (after < event.id)))
    (fun _ => rfl) fun _ _ => rfl

/-- In every run, the events of every query are a log in every state reached. Whoever asks for the
events of a query it finds there, once nothing holds it up, is given those after any one; and every
call that has returned events was given those after the one it named, from the log as it read it. -/
theorem event_history_faithful [LawfulStore S] (gateways : Nat → Gateway) (store : S)
    (schedule : Schedule) :
    let pool := gatewayRun gateways store schedule
    (∀ place reference record, pool.world.record place reference = some record →
      record.data.Logged) ∧
    (∀ (viewer : Viewer) record, viewer.unlocked pool.world →
      viewer.known pool.world = some record → ∀ after, ∃ world,
        (viewer.gateway.eventHistory viewer.principal viewer.queryId after).alone viewer.handles
          pool.world = some (.ok (record.data.events.drop after), world)) ∧
    ∀ (caller : Caller) principal id after events,
      caller.request = .call principal (.eventHistory id after) →
      .returned caller (.ok (.events events)) ∈ pool.past → ∃ reference record,
        Done pool.past caller (.records (.findOwned principal.id id)) (some reference) ∧
        Done pool.past caller (.records (.inspect reference)) record ∧
        record.data.Logged ∧ events = record.data.events.drop after := by
  have history := Machine.run_history ((gateway_obeys gateways).both (history_obeys gateways))
    schedule (runMeets_trivial gateways store schedule)
  refine ⟨fun place reference record found => records_logged history.left found, ?_, ?_⟩
  · intro viewer record free known after
    obtain ⟨world, _, _, ended⟩ := Viewer.eventHistory_answers after _ free
    obtain ⟨reference, stored, here, same⟩ := Viewer.known_recorded known
    have behind := records_after history.left here after
    rw [← same] at behind
    refine ⟨world, ended.trans ?_⟩
    rw [known, Viewer.lookedUp, Option.elim_some, behind]
  · intro caller principal id after events called returned
    obtain ⟨trail, post, done⟩ := history.right.returned_post returned
    obtain ⟨reference, record, located, rfl⟩ := post principal id after events called rfl
    obtain ⟨before, older, _, held, present⟩ :=
      inspected_record history.left (done located.2)
    exact ⟨reference, record, done located.1, done located.2, records_logged held present,
      records_after held present after⟩

end

namespace Sample

/-- The collector of Alice's query records an event, a call of `cancel` records another one, the
collector ends the query, and Alice asks for what comes after the first event. -/
def resumed : Schedule :=
  .start 0 (.call alice (.submitStatelessQuery "demo" ∅ "select 1")) :: steps 0 40 (eventful 1) ++
    steps 1 1 reading ++ call 0 2 12 (.cancel "qcli_1") ++ steps 1 8 reading ++
    call 0 3 12 (.eventHistory "qcli_1" 1)

/-- Events with some numbers are among the answers to Alice's question. -/
def answersEvents (numbers : List Nat) (past : Past (MemoryState Payload)) : Bool :=
  past.any fun moment => match moment with
    | .returned ⟨_, _, .call _ (.eventHistory id after)⟩ (.ok (.events events)) =>
      id == "qcli_1" && after == 1 && events.map ServiceEvent.id == numbers
    | _ => false

theorem events_of_answers {numbers : List Nat} {past : Past (MemoryState Payload)}
    (answers : answersEvents numbers past = true) :
    ∃ (caller : Caller) (principal : AuthenticatedPrincipal) (events : List ServiceEvent),
      caller.request = .call principal (.eventHistory "qcli_1" 1) ∧
      .returned caller (.ok (.events events)) ∈ past ∧
      events.map ServiceEvent.id = numbers := by
  obtain ⟨moment, member, found⟩ := List.any_eq_true.mp answers
  split at found
  · next thread place principal id after events =>
    simp only [Bool.and_eq_true, beq_iff_eq] at found
    obtain ⟨⟨rfl, rfl⟩, numbered⟩ := found
    exact ⟨_, principal, events, rfl, member, numbered⟩
  · cases found

end Sample

set_option maxRecDepth 20000 in
/-- Alice is given the second and the third event of a query that its collector and a call of
`cancel` have written to, from a log of three. -/
theorem event_history_resumes :
    ∃ (caller : Caller) (principal : AuthenticatedPrincipal) (events : List ServiceEvent),
      .returned caller (.ok (.events events)) ∈ (Sample.run none Sample.resumed).past ∧
      events.map ServiceEvent.id = [2, 3] ∧ ∃ reference record,
        Done (Sample.run none Sample.resumed).past caller
          (.records (.findOwned principal.id "qcli_1")) (some reference) ∧
        Done (Sample.run none Sample.resumed).past caller (.records (.inspect reference)) record ∧
        record.data.Logged ∧ events = record.data.events.drop 1 := by
  obtain ⟨caller, principal, events, called, returned, numbers⟩ := Sample.events_of_answers
    (show Sample.answersEvents [2, 3] (Sample.run none Sample.resumed).past = true by
      decide +kernel)
  exact ⟨caller, principal, events, returned, numbers,
    (event_history_faithful (S := MemoryState Payload) _ _ _).2.2 caller principal "qcli_1" 1 events
      called returned⟩

end ConfluxQuery
