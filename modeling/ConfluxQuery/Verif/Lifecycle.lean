import ConfluxQuery.Verif.RecordHistory

/-!
# The lifecycle of a query

A query's data is in one of two places: it runs, or it is over with one terminal event at the end of
its history. Only the record's collector records the end, and it does so once. A call of `cancel`
adds its event without looking at the state, so a query that is over stays over exactly as long as
no such call meets it.
-/

namespace ConfluxQuery

namespace QueryData

/-- What the lifecycle is about: the state, the time of completion and the event history. -/
def lifecycle (data : QueryData) : QueryState × Option Nat × List ServiceEvent :=
  (data.state, data.completedAt, data.events)

/-- The query has not ended. -/
structure Running (data : QueryData) : Prop where
  /-- The state is not terminal. -/
  state : data.state.terminal = false
  /-- There is no time of completion. -/
  uncompleted : data.completedAt = none
  events : ∀ event ∈ data.events, event.terminal = false

/-- The query has ended, with its last event. -/
structure Over (data : QueryData) : Prop where
  state : data.state.terminal = true
  /-- There is a time of completion. -/
  completed : data.completedAt.isSome = true
  /-- The last event is the only terminal one. -/
  events : ∃ earlier last, data.events = earlier ++ [last] ∧ last.terminal = true ∧
    ∀ event ∈ earlier, event.terminal = false

variable {data other : QueryData}

theorem Running.congr (running : data.Running) (same : other.lifecycle = data.lifecycle) :
    other.Running := by
  simp only [lifecycle, Prod.mk.injEq] at same
  obtain ⟨state, completed, events⟩ := same
  exact ⟨state ▸ running.state, completed ▸ running.uncompleted, events ▸ running.events⟩

theorem Over.congr (isOver : data.Over) (same : other.lifecycle = data.lifecycle) : other.Over := by
  simp only [lifecycle, Prod.mk.injEq] at same
  obtain ⟨state, completed, events⟩ := same
  exact ⟨state ▸ isOver.state, completed ▸ isOver.completed, events ▸ isOver.events⟩

/-- A submitted query runs. -/
theorem running_submitted : submitted.Running := ⟨rfl, rfl, by simp [submitted]⟩

/-- An event that is not terminal keeps a query running. -/
theorem Running.pushEvent (running : data.Running) (now : Nat) {event : EventData}
    (open_ : ∀ state, event = .state state → state.terminal = false) :
    (pushEvent now event false data).Running := by
  have listed : ∀ entry ∈ data.events ++ [⟨data.nextEventId, event, false⟩],
      entry.terminal = false := by
    intro entry member
    rcases List.mem_append.mp member with old | new
    · exact running.events entry old
    · rw [List.mem_singleton.mp new]
  cases event with
  | state state => exact ⟨open_ state rfl, running.uncompleted, listed⟩
  | engineQueryId | rows | progress | sessionProperties =>
    exact ⟨running.state, running.uncompleted, listed⟩

theorem Running.end (running : data.Running) (now : Nat) {state : QueryState}
    (terminal : state.terminal = true) :
    (ConfluxQuery.pushEvent now (.state state) true data).Over :=
  ⟨terminal, rfl, data.events, _, rfl, rfl, running.events⟩

end QueryData

/-- What retaining a batch can do: refuse it, whatever then becomes of the storage, or keep it in
memory, move everything to a new spill file, or write it to the open one. -/
inductive Stored (batch : RecordBatch) (data : QueryData) :
    Except QueryError Unit × QueryData → Prop
  | refused (error : QueryError) (schema : Option Schema) (storage : ResultStorage) :
      Stored batch data (.error error, { data with schema := schema, storage := storage })
  | accepted (schema : Option Schema) (storage : ResultStorage)
      (kept : (∃ existing, data.storage = .memory existing ∧
          storage = .memory (existing ++ [batch])) ∨
        (∃ existing file, data.storage = .memory existing ∧
          file.batches = existing ++ [batch] ∧ file.intact = true ∧ storage = .spill file true) ∨
        ∃ file, data.storage = .spill file true ∧ storage = .spill (file.append batch) true) :
      Stored batch data (.ok (), { data with
        schema := schema
        storage := storage
        rows := wrappingAdd data.rows batch.numRows
        retainedBytes := wrappingAdd data.retainedBytes batch.memorySize })

theorem IpcFile.writeAll_ok {io : FileIo} {position : Nat} {file written : IpcFile}
    {batches : List RecordBatch} (done : writeAll io position file batches = .ok written) :
    written.batches = file.batches ++ batches ∧ written.intact = file.intact := by
  induction batches generalizing position file with
  | nil =>
    cases done
    simp
  | cons batch rest step =>
    simp only [writeAll] at done
    split at done
    · cases done
    · obtain ⟨batches, intact⟩ := step done
      simpa [IpcFile.append] using And.intro batches intact

theorem spillBatch_cases (io : FileIo) (position : Nat) (file : IpcFile) (batch : RecordBatch)
    (data : QueryData) :
    (∃ error storage, spillBatch io position file batch data =
      (.error error, { data with storage := storage })) ∨
    spillBatch io position file batch data = (.ok (), { data with
      storage := .spill (file.append batch) true
      rows := wrappingAdd data.rows batch.numRows
      retainedBytes := wrappingAdd data.retainedBytes batch.memorySize }) := by
  unfold spillBatch
  split
  · exact .inl ⟨_, _, rfl⟩
  · exact .inr rfl

/-- Noting the schema of the first batch changes nothing else. -/
theorem QueryData.schema_noted (batch : RecordBatch) (data : QueryData) :
    ∃ schema, (if data.schema.isNone then { data with schema := some batch.schema } else data) =
      { data with schema := schema } := by
  split
  · exact ⟨_, rfl⟩
  · exact ⟨data.schema, rfl⟩

/-- Retaining a batch does no more than `Stored` says. -/
theorem storeBatch_stored (limits : ServiceLimits) (io : FileIo) (batch : RecordBatch)
    (data : QueryData) : Stored batch data (storeBatch limits io batch data) := by
  obtain ⟨schema, seen⟩ := data.schema_noted batch
  unfold storeBatch
  simp only [seen]
  split
  · exact .refused _ _ data.storage
  · split
    · next existing memory =>
      split
      · split
        · exact .refused _ _ data.storage
        · exact .refused _ _ data.storage
        · split
          · exact .refused _ _ (.memory [])
          · next file written =>
            obtain ⟨batches, intact⟩ := IpcFile.writeAll_ok written
            rcases spillBatch_cases io existing.length file batch { data with schema := schema }
              with ⟨error, storage, same⟩ | same
            · exact same ▸ .refused error schema storage
            · refine same ▸ .accepted schema _
                (.inr (.inl ⟨existing, file.append batch, memory, ?_, intact, rfl⟩))
              simp [IpcFile.append, batches, IpcFile.start]
      · exact .accepted schema _ (.inl ⟨existing, memory, rfl⟩)
    · next file spilled =>
      rcases spillBatch_cases io 0 file batch { data with schema := schema }
        with ⟨error, storage, same⟩ | same
      · exact same ▸ .refused error schema storage
      · exact same ▸ .accepted schema _ (.inr (.inr ⟨file, spilled, rfl⟩))
    · exact .refused _ _ data.storage

/-- What nothing but recording an event changes: the lifecycle and the number of the next event. -/
def QueryData.ledger (data : QueryData) : (QueryState × Option Nat × List ServiceEvent) × Nat :=
  (data.lifecycle, data.nextEventId)

theorem Stored.ledger {batch : RecordBatch} {data : QueryData}
    {result : Except QueryError Unit × QueryData} (stored : Stored batch data result) :
    result.2.ledger = data.ledger := by
  cases stored <;> rfl

/-- A section that records no event leaves the ledger alone. -/
theorem RecordOp.alter_ledger (now : Nat) (io : FileIo) (reference : Nat) (op : RecordOp)
    (data : QueryData) (silent : ∀ event terminal, op ≠ .pushEvent reference event terminal) :
    (op.alter now io reference data).ledger = data.ledger := by
  cases op with
  | pushEvent other event terminal =>
    have elsewhere : other ≠ reference := fun same => silent event terminal (same ▸ rfl)
    simp only [RecordOp.alter, elsewhere, if_false]
  | collectBatch limits other batch =>
    simp only [RecordOp.alter]
    split
    · have stored := (storeBatch_stored limits io batch data).ledger
      unfold ConfluxQuery.collectBatch
      split
      all_goals
        next same =>
        rw [same] at stored
        exact stored
    · rfl
  | finishResults other =>
    simp only [RecordOp.alter]
    split
    · unfold ConfluxQuery.finishResults
      split
      · split <;> rfl
      · rfl
      · rfl
    · rfl
  | setEngineQueryId other id | setError other error | setErrorIfNone other error =>
    simp only [RecordOp.alter]
    split <;> rfl
  | len | countActive | activeQueryCount | insert | findOwned | cancelSession | cancelActive
  | retainUnexpired | cancel | inspect => rfl

/-- A section that records no event leaves the lifecycle alone. -/
theorem RecordOp.alter_lifecycle (now : Nat) (io : FileIo) (reference : Nat) (op : RecordOp)
    (data : QueryData) (silent : ∀ event terminal, op ≠ .pushEvent reference event terminal) :
    (op.alter now io reference data).lifecycle = data.lifecycle :=
  congrArg Prod.fst (op.alter_ledger now io reference data silent)

section

variable {S : Type} [ClusterStateStore S Payload]

/-- A query that a section leaves active was active before. -/
theorem RecordOp.alter_active {now reference : Nat} {io : FileIo} {op : RecordOp}
    {data : QueryData} (active : (op.alter now io reference data).completedAt = none) :
    data.completedAt = none := by
  by_cases pushes : ∃ event terminal, op = .pushEvent reference event terminal
  · obtain ⟨event, terminal, rfl⟩ := pushes
    simp only [RecordOp.alter, if_true, ConfluxQuery.pushEvent] at active
    cases event with
    | state state =>
      dsimp only at active
      split at active
      · cases active
      · exact active
    | engineQueryId | rows | progress | sessionProperties => exact active
  · have same := op.alter_lifecycle now io reference data fun event terminal same =>
      pushes ⟨event, terminal, same⟩
    simp only [QueryData.lifecycle, Prod.mk.injEq] at same
    exact same.2.1 ▸ active

/-- A call of `cancel` records its event on a record that has not ended. -/
def CancelsRunning (world : World S) (_past : Past S) :
    Upcoming gatewayOps Nat Reading Request ServiceError Answer → Bool
  | .performs ⟨_, place, .call _ (.cancel _)⟩ (.records (.pushEvent reference _ _)) _ =>
    (world.record place reference).all fun record => !record.data.state.terminal
  | _ => true

/-- Someone has recorded the end of a query. -/
def EndRecorded (past : Past S) (place reference : Nat) : Prop :=
  ∃ actor event, actor.place = place ∧
    Done past actor (.records (.pushEvent reference event true)) ()

variable {gateways : Nat → Gateway} {guard : Guard S} {world₀ world : World S} {past : Past S}

variable {actor : Caller} {input : Reading} {store : S}

theorem end_collects (history : GatewayHistory gateways guard world₀ world past) {reference : Nat}
    {event : EventData}
    (recorded : Done past actor (.records (.pushEvent reference event true)) ()) :
    actor.request.Collects reference := by
  obtain ⟨_, _, allowed⟩ := history.done_allowed recorded
  rcases allowed with ⟨_, _, _, _, _, impossible⟩ | ⟨collects, _⟩
  · cases impossible
  · exact collects

/-- The end of a query is recorded after its record was inserted. -/
theorem end_inserted (history : GatewayHistory gateways guard world₀ world past)
    {place reference : Nat} (ended : EndRecorded past place reference) :
    (world.record place reference).isSome = true := by
  obtain ⟨actor, event, rfl, recorded⟩ := ended
  obtain ⟨record, present⟩ := collected_record history (history.done_started recorded)
    (end_collects history recorded)
  rw [present]
  rfl

/-- A collector that has not recorded the end finds that no one has. -/
theorem end_unrecorded (history : GatewayHistory gateways guard world₀ world past)
    {collector : Caller} {reference : Nat} (known : .started collector ∈ past)
    (collects : collector.request.Collects reference)
    (running : ¬Seen.Ended (trailOf collector.thread past) reference) :
    ¬EndRecorded past collector.place reference := by
  rintro ⟨actor, event, together, recorded⟩
  exact running ⟨event,
    collector_did history known collects recorded together (end_collects history recorded)⟩

/-- A record runs and its end is not recorded, or it is over and its end is recorded. -/
def InPlace (past : Past S) (place reference : Nat) (data : QueryData) : Prop :=
  (data.Running ∧ ¬EndRecorded past place reference) ∨
    (data.Over ∧ EndRecorded past place reference)

/-- Whoever records an event finds the query running, when cancelling calls do. -/
theorem push_running (history : GatewayHistory gateways (CancelsRunning · · ·) world₀ world past)
    {reference : Nat} {event : EventData} {terminal : Bool} {record : QueryRecord}
    (known : .started actor ∈ past)
    (allowed : (RecordOp.pushEvent reference event terminal).Allowed (gateways actor.place)
      actor.request (trailOf actor.thread past))
    (met : CancelsRunning world past (.performs actor (.records (.pushEvent reference event
      terminal)) input) = true)
    (found : world.record actor.place reference = some record)
    (inPlace : InPlace past actor.place reference record.data) :
    record.data.Running ∧ ¬EndRecorded past actor.place reference ∧
      (∀ state, event = .state state → terminal = state.terminal) ∧
      (terminal = true → ∃ state, event = .state state) := by
  rcases allowed with ⟨principal, id, called, _, rfl, rfl⟩ | ⟨collects, running, agrees, final⟩
  · obtain ⟨number, place, request⟩ := actor
    cases called
    simp only [CancelsRunning, found, Option.all_some, Bool.not_eq_true'] at met
    rcases inPlace with ⟨running, unrecorded⟩ | ⟨isOver, _⟩
    · refine ⟨running, unrecorded, fun state same => ?_, fun impossible => by cases impossible⟩
      cases same
      rfl
    · rw [isOver.state] at met
      cases met
  · have unrecorded := end_unrecorded history known collects running
    rcases inPlace with ⟨running, _⟩ | ⟨_, recorded⟩
    · exact ⟨running, unrecorded, agrees, fun terminal => (final terminal).1⟩
    · exact absurd recorded unrecorded

omit [ClusterStateStore S Payload] in
/-- An operation that does not record an event of a query leaves it in its place. -/
theorem InPlace.silent {place reference : Nat} {data after : QueryData} {act : Op}
    {reply : act.Reply} {spawned : Option Request} (inPlace : InPlace past place reference data)
    (same : after.lifecycle = data.lifecycle)

    (silent : actor.place = place → ∀ event terminal,
      act ≠ .records (.pushEvent reference event terminal)) :
    InPlace (begun actor.place spawned (.did actor act input reply world :: past)) place reference
      after := by
  have unchanged : EndRecorded (begun actor.place spawned (.did actor act input reply world ::
      past)) place reference ↔ EndRecorded past place reference := by
    constructor
    · rintro ⟨other, event, together, recorded⟩
      rcases done_did.mp recorded with ⟨rfl, pushed⟩ | earlier
      · cases pushed
        exact absurd rfl (silent together event true)
      · exact ⟨other, event, together, earlier⟩
    · rintro ⟨other, event, together, recorded⟩
      exact ⟨other, event, together, done_did.mpr (.inr recorded)⟩
  unfold InPlace
  rw [unchanged]
  exact inPlace.imp (fun held => ⟨held.1.congr same, held.2⟩) fun held =>
    ⟨held.1.congr same, held.2⟩

omit [ClusterStateStore S Payload] in
/-- Recording an event moves a running query to its end when the event is terminal, and leaves it
running otherwise. -/
theorem running_recorded {reference : Nat} {data : QueryData} {event : EventData} {terminal : Bool}
    {reply : Unit} {spawned : Option Request} (running : data.Running)
    (unrecorded : ¬EndRecorded past actor.place reference)
    (agrees : ∀ state, event = .state state → terminal = state.terminal)
    (final : terminal = true → ∃ state, event = .state state) (now : Nat) :
    InPlace (begun actor.place spawned
      (.did actor (.records (.pushEvent reference event terminal)) input reply world :: past))
      actor.place reference (pushEvent now event terminal data) := by
  cases terminal with
  | true =>
    obtain ⟨state, rfl⟩ := final rfl
    exact .inr ⟨running.end now (agrees state rfl).symm, actor, _, rfl,
      done_did.mpr (.inl ⟨rfl, rfl⟩)⟩
  | false =>
    refine .inl ⟨running.pushEvent now fun state same => (agrees state same).symm, ?_⟩
    rintro ⟨other, event', together, recorded⟩
    rcases done_did.mp recorded with ⟨rfl, pushed⟩ | earlier
    · cases pushed
    · exact unrecorded ⟨other, event', together, earlier⟩

/-- The operation records an event of a query at a process. -/
def Op.Pushes (act : Op) (reference : Nat) : Prop :=
  ∃ event terminal, act = .records (.pushEvent reference event terminal)

/-- An operation that records no event of a query leaves its lifecycle alone. -/
theorem handle_lifecycle {place node reference : Nat} {act : Op}
    {outcome : Outcome gatewayOps (World S) Request act} {record : QueryRecord}
    (handled : handle place input act world = some outcome)
    (found : world.record node reference = some record)
    (silent : place = node → ¬act.Pushes reference) :
    ∃ cancelled data, outcome.world.record node reference =
      some { record with cancelled := cancelled, data := data } ∧
      data.lifecycle = record.data.lifecycle := by
  obtain ⟨cancelled, kept⟩ := handle_record handled found
  refine ⟨cancelled, _, kept, ?_⟩
  split
  · next here =>
    cases act with
    | records op =>
      exact op.alter_lifecycle _ _ _ _ fun event terminal same =>
        silent here.symm ⟨event, terminal, same ▸ rfl⟩
    | sessions | owners | prepared | store | objects | adapter | host => rfl
  · rfl

/-- Every record is in its place, when cancelling calls meet running queries only. -/
theorem records_inPlace
    (history : GatewayHistory gateways (CancelsRunning · · ·) (World.initial store) world past)
    {place reference : Nat} {record : QueryRecord}
    (found : world.record place reference = some record) :
    InPlace past place reference record.data := by
  induction history generalizing record with
  | initial => cases found
  | arrives _ _ _ _ _ step => simpa [InPlace, EndRecorded] using step found
  | returns _ _ _ _ _ _ _ step => simpa [InPlace, EndRecorded] using step found
  | @performs before past actor act input outcome held known _ allowed handled met step =>
    have handled : handle actor.place input act before = some outcome := handled
    cases old : before.record place reference with
    | none =>
      -- The record is new, so it is as submitted and no one can have ended it.
      obtain ⟨rfl, rfl, submitted⟩ := handle_submitted allowed handled old found
      refine .inl ⟨submitted ▸ QueryData.running_submitted, ?_⟩
      rintro ⟨other, event, together, recorded⟩
      rcases done_did.mp recorded with ⟨_, pushed⟩ | earlier
      · cases pushed
      · have present := end_inserted held ⟨other, event, together, earlier⟩
        rw [old] at present
        cases present
    | some earlier =>
      by_cases pushes : actor.place = place ∧ act.Pushes reference
      · obtain ⟨rfl, event, terminal, rfl⟩ := pushes
        obtain ⟨running, unrecorded, agrees, final⟩ :=
          push_running held known allowed met old (step old)
        obtain ⟨cancelled, kept⟩ := handle_record handled old
        rw [kept, Option.some.injEq] at found
        subst found
        simpa [Op.alter, RecordOp.alter] using
          running_recorded running unrecorded agrees final input.now
      · obtain ⟨cancelled, data, kept, same⟩ := handle_lifecycle handled old
          fun here pushing => pushes ⟨here, pushing⟩
        rw [kept, Option.some.injEq] at found
        subst found
        exact (step old).silent same fun here event terminal pushing =>
          pushes ⟨here, event, terminal, pushing⟩

/-- An operation keeps the lifecycle of a query that is over. -/
theorem over_kept
    (history : GatewayHistory gateways (CancelsRunning · · ·) (World.initial store) world past)
    {act : Op} {outcome : Outcome gatewayOps (World S) Request act} (known : .started actor ∈ past)
    (allowed : act.Allowed (gateways actor.place) actor.request (trailOf actor.thread past))
    (handled : handle actor.place input act world = some outcome)
    (met : CancelsRunning world past (.performs actor act input) = true) {place reference : Nat}
    {record : QueryRecord} (found : world.record place reference = some record)
    (isOver : record.data.state.terminal = true) :
    ∃ later, outcome.world.record place reference = some later ∧
      later.data.lifecycle = record.data.lifecycle := by
  obtain ⟨cancelled, data, kept, same⟩ := handle_lifecycle handled found fun here pushing => by
    subst here
    obtain ⟨event, terminal, rfl⟩ := pushing
    obtain ⟨running, _⟩ :=
      push_running history known allowed met found (records_inPlace history found)
    rw [running.state] at isOver
    cases isOver
  exact ⟨_, kept, same⟩

/-- Every query that is over in one world has the same lifecycle in another. -/
def KeepsOver (world after : World S) : Prop :=
  ∀ place reference record, world.record place reference = some record →
    record.data.state.terminal = true → ∃ later, after.record place reference = some later ∧
      later.data.lifecycle = record.data.lifecycle

omit [ClusterStateStore S Payload] in
/-- Keeping queries over composes. -/
theorem KeepsOver.trans {first second third : World S} (one : KeepsOver first second)
    (two : KeepsOver second third) : KeepsOver first third := by
  intro place reference record found isOver
  obtain ⟨next, present, same⟩ := one place reference record found isOver
  have state : next.data.state = record.data.state := congrArg Prod.fst same
  obtain ⟨last, present', same'⟩ := two place reference next present (by rw [state, isOver])
  exact ⟨last, present', same'.trans same⟩

/-- A query that ends before some part of a run has the same lifecycle after it. -/
theorem over_kept_run [LawfulStore S] {first middle : Schedule}
    (met : RunMeets gateways (CancelsRunning · · ·) store (first ++ middle)) :
    KeepsOver (gatewayRun gateways store first).world
      (gatewayRun gateways store (first ++ middle)).world :=
  Machine.run_related KeepsOver (fun _ _ _ record found _ => ⟨record, found, rfl⟩)
    (fun history known allowed handled met _ _ _ found isOver =>
      over_kept history known allowed handled met found isOver)
    (gateway_obeys gateways) KeepsOver.trans first middle met

/-- A call of `cancel` that records its event leaves the query cancelling, whatever it was. -/
theorem cancel_reopens [LawfulStore S] {schedule : Schedule} {choice : Choice Nat Reading Request}
    {number place reference : Nat} {id : String} {principal : AuthenticatedPrincipal}
    {event : EventData} {terminal : Bool}
    (upcoming : (gatewayMachine S gateways).upcoming (gatewayRun gateways store schedule) choice =
      some (.performs ⟨number, place,
      .call principal (.cancel id)⟩ (.records (.pushEvent reference event terminal)) input))
    {record : QueryRecord}
    (found : (gatewayRun gateways store schedule).world.record place reference = some record) :
    ∃ later, (gatewayRun gateways store (schedule ++ [choice])).world.record place reference =
      some later ∧ later.data.state = .cancelling := by
  obtain ⟨outcome, _, allowed, handled, after⟩ :=
    (gatewayRun_follower (runMeets_trivial gateways store schedule)).upcoming_performs upcoming
  have handled : handle place input _ _ = some outcome := handled
  obtain ⟨cancelled, kept⟩ := handle_record handled found
  have advanced : (gatewayRun gateways store (schedule ++ [choice])).world = outcome.world := by
    rw [← after, gatewayRun, Machine.run_append]
    rfl
  refine ⟨_, advanced ▸ kept, ?_⟩
  rcases allowed with ⟨_, _, _, _, rfl, rfl⟩ | ⟨⟨_, collects, _⟩, _⟩
  · simp [Op.alter, RecordOp.alter, pushEvent]
  · cases collects

/-- In every run, terminal states are final, end the event history and agree with the time of
completion, if and only if every call of `cancel` records its event on a query that has not
ended. -/
theorem terminal_states_final_iff [LawfulStore S] (gateways : Nat → Gateway) (store : S)
    (schedule : Schedule) :
    RunMeets gateways (CancelsRunning · · ·) store schedule ↔
      ∀ first middle last, schedule = first ++ middle ++ last → ∀ place reference record,
        (gatewayRun gateways store first).world.record place reference = some record →
        (record.data.completedAt.isSome = true ↔ record.data.state.terminal = true) ∧
        (record.data.state.terminal = true →
          (∃ earlier final, record.data.events = earlier ++ [final] ∧ final.terminal = true ∧
            ∀ event ∈ earlier, event.terminal = false) ∧
          ∃ later, (gatewayRun gateways store (first ++ middle)).world.record place reference =
            some later ∧ later.data.state = record.data.state ∧
            later.data.events = record.data.events ∧
            later.data.completedAt = record.data.completedAt) := by
  constructor
  · rintro met first middle last rfl place reference record found
    have met := (Machine.meets_append.mp met).1
    have inPlace := records_inPlace (gatewayRun_history (Machine.meets_append.mp met).1) found
    rcases inPlace with ⟨running, _⟩ | ⟨isOver, _⟩
    · simp [running.state, running.uncompleted]
    · refine ⟨by simp [isOver.state, isOver.completed], fun _ => ⟨isOver.events, ?_⟩⟩
      obtain ⟨later, present, same⟩ := over_kept_run met place reference record found isOver.state
      simp only [QueryData.lifecycle, Prod.mk.injEq] at same
      exact ⟨later, present, same.1, same.2.2, same.2.1⟩
  · intro final
    refine Machine.meets_iff.mpr fun first choice rest split next upcoming => ?_
    unfold CancelsRunning
    split
    · next number place principal id reference event terminal input =>
      cases found : (gatewayRun gateways store first).world.record place reference with
      | none =>
        unfold gatewayRun at found
        rw [found]
        rfl
      | some record =>
        unfold gatewayRun at found
        rw [found]
        obtain ⟨later, reopened, state⟩ := cancel_reopens upcoming found
        -- A query that is over would have kept its state across this step.
        by_contra ended
        have isOver : record.data.state.terminal = true := by simpa using ended
        obtain ⟨_, _, kept, same, _⟩ :=
          (final first [choice] rest (by simpa using split) place reference record found).2 isOver
        rw [reopened, Option.some.injEq] at kept
        subst kept
        rw [state] at same
        rw [← same] at isOver
        cases isOver
    · rfl

end

/-- Alice creates a session and runs a query in it to its end. -/
def Sample.completedQuery : Schedule :=
  call 0 0 12 (.createSession "demo" ∅) ++
    call 0 1 16 (.submitSessionQuery "qcli_20260101_0000_01" "select 1") ++ steps 2 4 reading

/-- What a reader of record zero sees: the state, whether there is a time of completion, and which
events are terminal. -/
def Sample.lifecycleOf (schedule : Schedule) : Option (QueryState × Bool × List Bool) :=
  ((run none schedule).world.record 0 0).map fun record =>
    (record.data.state, record.data.completedAt.isSome,
      record.data.events.map ServiceEvent.terminal)

set_option maxRecDepth 20000 in
/-- A query that has completed is moved to `cancelling` by a call of `cancel` that comes later: the
state changes, the last event is not terminal, and the time of completion stays. -/
theorem completed_query_reopened :
    Sample.lifecycleOf Sample.completedQuery = some (.completed, true, [true]) ∧
    Sample.lifecycleOf (Sample.completedQuery ++ Sample.call 0 3 9 (.cancel "qcli_1")) =
      some (.cancelling, true, [true, false]) := by
  decide +kernel

end ConfluxQuery
