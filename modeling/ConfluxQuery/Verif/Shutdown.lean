import ConfluxQuery.Verif.Footprints
import ConfluxQuery.Verif.Lifecycle

/-!
# Shutdown

`begin_shutdown` sets the flag of its process and then requests the cancellation of every query that
has not completed. Most operations look at the flag before they give work to an engine, but not all:
updates and the hydration of shared prepared statements do not look. A submission looks before it
reaches the engine and inserts its record later, possibly after the sweep.
-/

namespace ConfluxQuery

/-- The operation may reach an engine without having looked at the flag: updates always, and on a
clustered gateway whatever hydrates a shared prepared statement. -/
def Operation.unchecked (clustered : Bool) : Operation → Bool
  | executeSessionUpdate _ _ | executePreparedUpdate _ | executePreparedUpdateClustered _ => true
  | preparedStatementClustered _ | bindPreparedStatementClustered _ _
  | executePreparedStatementClustered _ | closePreparedStatementClustered _ => clustered
  | _ => false

/-- The request may reach an engine without having looked at the flag. -/
def Request.unchecked (clustered : Bool) : Request → Bool
  | call _ operation => operation.unchecked clustered
  | _ => false

/-- The request shuts its process down. -/
def Request.isShutdown : Request → Bool
  | beginShutdown => true
  | _ => false

/-- The operation gives work to an engine. -/
abbrev Op.works (op : Op) : Bool := op.within (· == .work)

/-- What a request keeps to when it gives work to an engine. -/
def Op.Available (gateway : Gateway) (request : Request) (trail : Seen) (op : Op) : Prop :=
  op.works = true →
    request.unchecked gateway.cluster.isSome = true ∨ trail.Saw (.host .isShuttingDown) false

/-- The rule of one request. -/
def shutdownRule (gateway : Gateway) (request : Request) : Rule gatewayOps :=
  ⟨fun trail act => act.Available gateway request trail, fun _ _ => True⟩

/-- What every request keeps to: it looks at the flag before it gives work to an engine, unless it
is one of those that do not, and a shutdown sets the flag and sweeps the queries. -/
def shutdownProtocol (gateways : Nat → Gateway) :
    Protocol gatewayOps Nat Request ServiceError Answer where
  allowed place request trail act := act.Available (gateways place) request trail
  possible _ _ := True
  post := fun _ request (trail : Seen) _ => request = .beginShutdown →
    trail.Saw (.host .beginShutdown) () ∧ trail.Saw (.records .cancelActive) ()

namespace Gateway

variable {gateway : Gateway} {request : Request} {principal : AuthenticatedPrincipal} {α : Type}

theorem available_of_avoids {prog : Call α} (avoids : prog.Avoids Op.works) :
    prog.Keeps (shutdownRule gateway request) :=
  .of_avoids (fun _ _ other works => absurd works (by simp [other])) avoids

theorem available_of_unchecked (unchecked : request.unchecked gateway.cluster.isSome = true)
    (prog : Call α) : prog.Keeps (shutdownRule gateway request) :=
  .free (fun _ _ _ => .inl unchecked) prog

/-- After a look at the flag that finds it unset, a program may do anything. -/
theorem available_after (prog : Call α) {trail : Seen}
    (looked : trail.Saw (.host .isShuttingDown) false) :
    Follows (shutdownRule gateway request) prog trail fun _ _ => True := by
  induction prog generalizing trail with
  | ret | fail => trivial
  | op act next step =>
    exact ⟨fun _ => .inr looked, fun reply _ => step reply (List.mem_cons_of_mem _ looked)⟩

/-- A program that starts with a look at the flag keeps to the rule. -/
theorem ensureAvailable_keeps (next : Unit → Call α) :
    (ensureAvailable >>= next).Keeps (shutdownRule gateway request) := by
  refine ⟨fun trail => Follows.bind_iff.mpr (Follows.perform ?_ fun stopping _ => ?_)⟩
  · exact fun works => by cases works
  cases stopping with
  | true => trivial
  | false => exact available_after _ List.mem_cons_self

/-- Submission keeps to the rule. -/
theorem submitQuery_available {found : SessionSnapshot} {sql : String}
    {parameters : Option (List RecordBatch)} {closeSession : Bool} :
    (gateway.submitQuery principal found sql parameters closeSession).Keeps
      (shutdownRule gateway request) :=
  ensureAvailable_keeps _

theorem createPreparedStatement_available {sessionId sql : String} :
    (gateway.createPreparedStatement principal sessionId sql).Keeps
      (shutdownRule gateway request) :=
  ensureAvailable_keeps _

theorem preparedStatementClustered_alone (alone : gateway.cluster.isSome = false)
    (handle : String) :
    (gateway.preparedStatementClustered principal handle).Avoids Op.works := by
  simp only [preparedStatementClustered, Prog.Avoids.bind_iff]
  refine ⟨by simp, fun outcome _ => ?_⟩
  cases outcome with
  | ok found => simp
  | error reason =>
    rw [alone]
    exact .fail _

/-- Every operation keeps to the rule. -/
theorem operation_available (gateway : Gateway) (principal : AuthenticatedPrincipal)
    (operation : Operation) :
    (gateway.operation principal operation).Keeps
      (shutdownRule gateway (.call principal operation)) := by
  by_cases unchecked : (Request.call principal operation).unchecked gateway.cluster.isSome = true
  · exact available_of_unchecked unchecked _
  cases operation with
  | executeSessionUpdate | executePreparedUpdate | executePreparedUpdateClustered =>
    exact absurd rfl unchecked
  | preparedStatementClustered handle =>
    have alone := Bool.eq_false_iff.mpr unchecked
    exact .map (available_of_avoids (preparedStatementClustered_alone alone handle))
  | bindPreparedStatementClustered handle =>
    have alone := Bool.eq_false_iff.mpr unchecked
    refine .map (.bind (available_of_avoids (preparedStatementClustered_alone alone handle))
      fun _ => .bind (available_of_avoids (bindPreparedStatement_avoids rfl)) fun _ =>
        available_of_avoids ?_)
    split <;> simp [shareParameters]
  | closePreparedStatementClustered handle =>
    have alone := Bool.eq_false_iff.mpr unchecked
    refine .map (.bind (available_of_avoids (preparedStatementClustered_alone alone handle))
      fun _ => .bind (available_of_avoids (by simp)) fun _ => available_of_avoids ?_)
    split <;> simp
  | executePreparedStatementClustered handle =>
    have alone := Bool.eq_false_iff.mpr unchecked
    refine .map (.bind (available_of_avoids (preparedStatementClustered_alone alone handle))
      fun _ => .bind (available_of_avoids (sessionClustered_avoids rfl)) fun _ =>
        .bind submitQuery_available fun _ => available_of_avoids ?_)
    simp [publishClusterQuery_avoids]
  | createPreparedStatement => exact .map createPreparedStatement_available
  | createStatelessPreparedStatement =>
    refine .map (.bind (available_of_avoids (createSession_avoids rfl)) fun _ =>
      .bind createPreparedStatement_available.attempt fun _ => ?_)
    split
    · exact available_of_avoids (by simp)
    refine .bind (available_of_avoids (by simp)) fun owns => ?_
    split
    · exact available_of_avoids (by simp)
    · exact .bind (available_of_avoids (by simp)) fun impossible => impossible.elim
  | createPreparedStatementClustered =>
    refine .map (.bind (available_of_avoids (sessionClustered_avoids rfl)) fun _ =>
      .bind createPreparedStatement_available fun _ => available_of_avoids ?_)
    split <;> simp
  | ingest => exact .map (ensureAvailable_keeps _)
  | submitSessionQuery =>
    exact .map (.bind (available_of_avoids (by simp)) fun _ => submitQuery_available)
  | submitSessionQueryClustered =>
    refine .map (.bind (available_of_avoids (sessionClustered_avoids rfl)) fun _ =>
      .bind submitQuery_available fun _ => available_of_avoids ?_)
    simp [publishClusterQuery_avoids]
  | submitStatelessQuery =>
    refine .map (.bind (available_of_avoids (createSession_avoids rfl)) fun _ =>
      .bind submitQuery_available.attempt fun _ => available_of_avoids ?_)
    split <;> simp
  | submitStatelessQueryClustered =>
    refine .map (.bind (available_of_avoids (createSessionClustered_avoids rfl rfl rfl)) fun _ =>
      .bind submitQuery_available fun _ => available_of_avoids ?_)
    simp [publishClusterQuery_avoids]
  | executePreparedStatement =>
    exact .map (.bind (available_of_avoids (by simp)) fun _ =>
      .bind (available_of_avoids (by simp)) fun _ => submitQuery_available)
  | _ => exact available_of_avoids (operation_avoids (by simp [Operation.grants]))

end Gateway

theorem shutdown_obeys {S : Type} [ClusterStateStore S Payload] (gateways : Nat → Gateway) :
    (gatewayMachine S gateways).Obeys (shutdownProtocol gateways) where
  follows place request := by
    have keeps : request ≠ .beginShutdown → Follows (shutdownRule (gateways place) request)
        ((gateways place).program request) [] fun _ _ => True := by
      intro other
      cases request with
      | call principal operation => exact (Gateway.operation_available _ _ operation).follows []
      | beginShutdown => exact absurd rfl other
      | cleanupExpired =>
        exact (Gateway.available_of_avoids (program_avoids (by simp [Request.grants]))).follows []
      | task task polls =>
        refine (Gateway.available_of_avoids (program_avoids ?_)).follows []
        cases task <;> simp [Request.grants]
    by_cases shutdown : request = .beginShutdown
    · subst shutdown
      refine ⟨fun works => (by cases works), fun _ _ => ⟨fun works => (by cases works), ?_⟩⟩
      exact fun _ _ _ => ⟨List.mem_cons_of_mem _ List.mem_cons_self, List.mem_cons_self⟩
    · exact (keeps shutdown).mono fun _ _ _ _ same => absurd same shutdown
  replies _ _ _ _ _ _ := trivial

/-- Every listed query that has not completed has its cancellation requested. -/
def Records.Swept (records : Records) : Prop :=
  ∀ id record, records.find id = some record → record.active = true → record.cancelled = true

/-- The sweep of a shutdown requests every cancellation. -/
theorem Records.swept_cancelActive (records : Records) :
    (records.cancelWhere QueryRecord.active).Swept := by
  intro id record found active
  obtain ⟨reference, listed, present⟩ := Option.bind_eq_some_iff.mp found
  have known : (records.listed.entries.any fun entry => entry.2 == reference) = true :=
    List.any_eq_true.mpr ⟨⟨id, reference⟩, AList.mem_lookup_iff.mp listed, beq_self_eq_true _⟩
  simp only [get, cancelWhere, List.getElem?_mapIdx] at present
  obtain ⟨earlier, _, rfl⟩ := Option.map_eq_some_iff.mp present
  by_cases running : earlier.active = true
  · rw [known, running]
    rfl
  · rw [Bool.eq_false_iff.mpr running, Bool.and_false] at active
    exact absurd active running

/-- Sections that insert nothing keep the registry swept. -/
theorem RecordOp.apply_swept (now : Nat) (io : FileIo) {records : Records} (op : RecordOp)
    (swept : records.Swept) (other : ∀ added, op ≠ .insert added) :
    (op.apply now io records).2.Swept := by
  intro id record found active
  obtain ⟨reference, listed, present⟩ := Option.bind_eq_some_iff.mp found
  have earlier : records.listed.lookup id = some reference := by
    rcases op.apply_lists listed with old | ⟨added, same, _⟩
    · exact old
    · exact absurd same (other added)
  cases known : records.get reference with
  | none =>
    obtain ⟨added, same, _⟩ := op.apply_fresh now io records known present
    exact absurd same (other added)
  | some before =>
    obtain ⟨cancelled, keeps, after⟩ := op.apply_get_cancelled now io records known
    rw [after, Option.some.injEq] at present
    subst present
    have running := op.alter_active (Option.isNone_iff_eq_none.mp active)
    exact keeps (swept id before (Option.bind_eq_some_iff.mpr ⟨reference, earlier, known⟩)
      (Option.isNone_iff_eq_none.mpr running))

section

variable {S : Type} [ClusterStateStore S Payload]

theorem handle_shuttingDown {place node : Nat} {reading : Reading} {op : Op} {world : World S}
    {outcome : Outcome gatewayOps (World S) Request op}
    (handled : handle place reading op world = some outcome)
    (set : (world.nodes node).shuttingDown = true) :
    (outcome.world.nodes node).shuttingDown = true := by
  by_cases here : node = place
  · subst here
    cases op with
    | sessions op | owners op | records op =>
      cases handled
      simpa [World.setNode] using set
    | store op | objects op | adapter op =>
      cases handled
      exact set
    | prepared op =>
      simp only [handle] at handled
      split at handled
      · cases handled
      · cases handled
        simpa [World.setNode] using set
    | host op =>
      cases op with
      | panic => cases handled
      | clock | uuid | environmentUser | nextQueryId | isShuttingDown | readFile | encode
      | spawn =>
        cases handled
        simpa [World.setNode] using set
      | beginShutdown =>
        cases handled
        simp [World.setNode]
  · rw [(handle_framed handled).nodes node here]
    exact set

/-- Histories of gateways that keep to the shutdown protocol. -/
abbrev ShutdownHistory (gateways : Nat → Gateway) (guard : Guard S) (world₀ world : World S)
    (past : Past S) : Prop :=
  History (gatewayMachine S gateways) (shutdownProtocol gateways) guard world₀ world past

/-- A shutdown of a process has returned. -/
def shutDown (past : Past S) (place : Nat) : Bool :=
  past.any fun
    | .returned actor _ => actor.request.isShutdown && actor.place == place
    | _ => false

omit [ClusterStateStore S Payload] in
theorem shutDown_split {past : Past S} {place : Nat} (down : shutDown past place = true) :
    ∃ (shutdown : Caller) (result : Except ServiceError Answer) (later earlier : Past S),
      past = later ++ .returned shutdown result :: earlier ∧
        shutdown.request = .beginShutdown ∧ shutdown.place = place := by
  obtain ⟨moment, member, ended⟩ := List.any_eq_true.mp down
  cases moment with
  | started | did => cases ended
  | returned shutdown result =>
    simp only [Bool.and_eq_true, beq_iff_eq] at ended
    obtain ⟨later, earlier, split⟩ := List.append_of_mem member
    refine ⟨shutdown, result, later, earlier, split, ?_, ended.2⟩
    revert ended
    cases shutdown.request <;> simp [Request.isShutdown]

/-- The queries of a process have been swept. -/
def swept (past : Past S) (place : Nat) : Bool :=
  past.any fun
    | .did actor (.records .cancelActive) _ _ _ => actor.place == place
    | _ => false

/-- Nothing is submitted across a shutdown: no record is inserted after the sweep, and no operation
that does not look at the flag starts after the shutdown has returned. -/
def Drained (gateways : Nat → Gateway) (_ : World S) (past : Past S) :
    Upcoming gatewayOps Nat Reading Request ServiceError Answer → Bool
  | .starts caller => !shutDown past caller.place ||
      !caller.request.unchecked (gateways caller.place).cluster.isSome
  | .performs caller (.records (.insert _)) _ => !swept past caller.place
  | _ => true

variable {gateways : Nat → Gateway} {world₀ world : World S} {past : Past S}

variable {caller : Caller}

/-- Once a process has begun its shutdown its flag is set. -/
theorem flag_set {guard : Guard S} (history : ShutdownHistory gateways guard world₀ world past)
    (began : Done past caller (.host .beginShutdown) ()) :
    (world.nodes caller.place).shuttingDown = true := by
  obtain ⟨input, before, member⟩ := began
  obtain ⟨newer, older, rfl⟩ := List.append_of_mem member
  refine history.after (fun world => (world.nodes caller.place).shuttingDown = true) ?_ ?_
  · intro outcome handled
    have handled : handle caller.place input (.host .beginShutdown) before = some outcome := handled
    cases handled
    simp [World.setNode]
  · exact fun _ _ _ _ _ _ _ handled set => handle_shuttingDown handled set

theorem stays_swept (history : ShutdownHistory gateways (Drained gateways · · ·) world₀ world past)
    (began : Done past caller (.records .cancelActive) ()) :
    (world.nodes caller.place).records.Swept := by
  obtain ⟨input, before, member⟩ := began
  obtain ⟨newer, older, rfl⟩ := List.append_of_mem member
  refine history.after (fun world => (world.nodes caller.place).records.Swept) ?_ ?_
  · intro outcome handled
    rw [(handle_records handled).2]
    exact Records.swept_cancelActive _
  · intro doing done reading answer earlier member outcome handled held
    obtain ⟨recent, between, rfl⟩ := List.append_of_mem member
    rw [List.append_assoc, List.cons_append] at history
    obtain ⟨_, _, _, _, _, _, met⟩ := history.did_split
    rcases handle_records_cases handled caller.place with same | ⟨sub, rfl, here, after⟩
    · rw [same]
      exact held
    · rw [after]
      refine sub.apply_swept _ _ held fun added inserted => ?_
      subst inserted
      have fresh : (!swept
          (between ++ .did caller (.records .cancelActive) input () before :: older)
          doing.place) = true := met
      simp [swept, here] at fresh

/-- A call that looks at the flag after a shutdown has returned finds it set. -/
theorem flag_found {guard : Guard S} {later earlier : Past S} {shutdown : Caller}
    {result : Except ServiceError Answer}
    (history : ShutdownHistory gateways guard world₀ world (later ++ .returned shutdown result ::
      earlier))
    (requested : shutdown.request = .beginShutdown) (starts : .started caller ∈ later)
    (here : caller.place = shutdown.place) :
    ¬Done (later ++ .returned shutdown result :: earlier) caller (.host .isShuttingDown) false := by
  rintro ⟨input, before, member⟩
  obtain ⟨newer, older, split⟩ := List.append_of_mem member
  have suffix : older <:+ later ++ .returned shutdown result :: earlier :=
    split ▸ (List.suffix_cons _ _).trans (List.suffix_append _ _)
  obtain ⟨outcome, looked, known, _, handled, replied, _⟩ := (split ▸ history).did_split
  have returned := history.mem_of_started_later starts suffix known
  obtain ⟨trail, post, done⟩ := looked.returned_post returned
  have set := flag_set looked (done (post requested).1)
  have handled : handle caller.place input (.host .isShuttingDown) before = some outcome := handled
  cases handled
  rw [← here] at set
  exact absurd (replied.symm.trans set) nofun

/-- A call that starts after a shutdown has returned looks at the flag before it gives work to an
engine. -/
theorem checked_of_starts {later earlier : Past S} {shutdown : Caller}
    {result : Except ServiceError Answer}
    (history : ShutdownHistory gateways (Drained gateways · · ·) world₀ world (later ++ .returned
      shutdown result :: earlier))
    (requested : shutdown.request = .beginShutdown) (starts : .started caller ∈ later)
    (here : caller.place = shutdown.place) :
    caller.request.unchecked (gateways caller.place).cluster.isSome = false := by
  obtain ⟨newer, between, rfl⟩ := List.append_of_mem starts
  rw [List.append_assoc, List.cons_append] at history
  rcases history.started_split.2 with ⟨before, met⟩ | ⟨place, input, act, before, outcome, handled,
    spawned⟩
  · have met : (!shutDown (between ++ .returned shutdown result :: earlier) caller.place ||
      !caller.request.unchecked (gateways caller.place).cluster.isSome) = true := met
    have down : shutDown (between ++ .returned shutdown result :: earlier) caller.place = true := by
      simp [shutDown, requested, here, Request.isShutdown]
    simpa [down] using met
  · obtain ⟨task, _, same⟩ := handle_spawned handled spawned
    rw [same]
    rfl

/-- In every run of gateways in which no record is inserted after the sweep and no operation that
does not look at the flag starts after a shutdown, a shutdown that has returned is complete: from
then on every query of the process that has not completed has its cancellation requested, and no
call that starts afterwards gives work to an engine. -/
theorem shutdown_complete (gateways : Nat → Gateway) (store : S) (schedule : Schedule)
    (drained : RunMeets gateways (Drained gateways · · ·) store schedule) {shutdown : Caller}
    {result : Except ServiceError Answer} {later earlier : Past S}
    (returned : (gatewayRun gateways store schedule).past =
      later ++ .returned shutdown result :: earlier)
    (requested : shutdown.request = .beginShutdown) :
    (∀ id record,
      ((gatewayRun gateways store schedule).world.nodes shutdown.place).records.find id =
        some record → record.active = true → record.cancelled = true) ∧
    ∀ caller : Caller, .started caller ∈ later → caller.place = shutdown.place →
      ∀ (op : AdapterOp) (reply : op.Reply),
        ¬Done (gatewayRun gateways store schedule).past caller (.adapter op) reply := by
  have history : ShutdownHistory gateways (Drained gateways · · ·) (World.initial store)
      (gatewayRun gateways store schedule).world (gatewayRun gateways store schedule).past :=
    Machine.run_history (shutdown_obeys gateways) schedule drained
  rw [returned] at history ⊢
  constructor
  · obtain ⟨trail, post, done⟩ := history.returned_post
      (List.mem_append_right later List.mem_cons_self)
    exact stays_swept history (done (post requested).2)
  · intro caller starts here op reply done
    obtain ⟨input, before, member⟩ := done
    obtain ⟨newer, older, split⟩ := List.append_of_mem member
    obtain ⟨outcome, held, known, allowed, _⟩ := (split ▸ history).did_split
    rcases allowed rfl with unchecked | looked
    · rw [checked_of_starts history requested starts here] at unchecked
      cases unchecked
    · obtain ⟨input, before, found⟩ := held.did_of_trail known looked
      refine flag_found history requested starts here ⟨input, before, ?_⟩
      rw [split]
      exact List.mem_append_right _ (List.mem_cons_of_mem _ found)

end

/-- A process is shut down while no other call moves. -/
def Sample.shutdownAs (thread : Nat) : Schedule :=
  .start 0 .beginShutdown :: steps thread 3 reading

/-- Alice creates a session and starts a query, and the process is shut down while it runs. -/
def Sample.interrupted : Schedule :=
  call 0 0 12 (.createSession "demo" ∅) ++
    call 0 1 16 (.submitSessionQuery "qcli_20260101_0000_01" "select 1") ++ shutdownAs 3

/-- Alice starts a query, and the process is shut down after the query has looked at the flag and
before it inserts its record. -/
def Sample.overtaken (looked : Nat) : Schedule :=
  call 0 0 12 (.createSession "demo" ∅) ++
    call 0 1 looked (.submitSessionQuery "qcli_20260101_0000_01" "select 1") ++ shutdownAs 2 ++
      steps 1 (16 - looked) reading

/-- A query's record at node zero: whether it is active and whether its cancellation is requested.
-/
def Sample.cancellation (pool : GatewayPool (MemoryState Payload)) (id : String) :
    Option (Bool × Bool) :=
  ((pool.world.nodes 0).records.find id).map fun record => (record.active, record.cancelled)

/-- A call has given work to an engine. -/
def Sample.worked (pool : GatewayPool (MemoryState Payload)) (thread : Nat) : Bool :=
  pool.past.any fun
    | .did caller (.adapter _) _ _ _ => caller.thread == thread
    | _ => false

/-- Alice's query is interrupted by a shutdown, and another submission comes later. -/
def Sample.refused : Schedule :=
  interrupted ++ call 0 4 5 (.submitSessionQuery "qcli_20260101_0000_01" "select 2")

set_option maxRecDepth 20000 in
/-- A shutdown interrupts a running query: the query is active and its cancellation is requested. -/
theorem interrupted_query_cancelled :
    let pool := gatewayRun (fun _ => Sample.gateway none) (.empty : MemoryState Payload)
      Sample.refused
    ∃ record, (pool.world.nodes 0).records.find "qcli_1" = some record ∧ record.active = true ∧
      record.cancelled = true := by
  intro pool
  have drained : RunMeets (S := MemoryState Payload) (fun _ => Sample.gateway none)
      (Drained (fun _ => Sample.gateway none) · · ·) .empty Sample.refused := by
    decide +kernel
  have down : shutDown pool.past 0 = true := by decide +kernel
  have active : ((pool.world.nodes 0).records.find "qcli_1").any QueryRecord.active = true := by
    decide +kernel
  obtain ⟨shutdown, result, later, earlier, split, requested, here⟩ := shutDown_split down
  obtain ⟨record, found, running⟩ := (Option.any_eq_true _ _).mp active
  have complete := shutdown_complete (fun _ => Sample.gateway none) (.empty : MemoryState Payload)
    Sample.refused drained split requested
  rw [here] at complete
  exact ⟨record, found, running, complete.1 "qcli_1" record found running⟩

set_option maxRecDepth 20000 in
/-- A shutdown is not complete: a submission that looked at the flag before inserts its record after
the sweep, and an update that starts after the shutdown reaches the engine. -/
theorem shutdown_overtaken :
    let late := Sample.run none (Sample.overtaken 5)
    let before := Sample.run none Sample.interrupted
    let after := Sample.run none (Sample.interrupted ++
      Sample.call 0 4 5 (.executeSessionUpdate "qcli_20260101_0000_01" "delete from t"))
    (shutDown late.past 0 = true ∧ Sample.cancellation late "qcli_1" = some (true, false)) ∧
      shutDown before.past 0 = true ∧ before.threads.length = 4 ∧ Sample.worked after 4 = true := by
  decide +kernel

end ConfluxQuery
