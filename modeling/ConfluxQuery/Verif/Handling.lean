import ConfluxQuery.Verif.Conformance

/-!
# What operations do to the world

Each operation changes one part of the world: the registry it is a section of, at the process that
performs it, or the shared store. The lemmas here say so once, so that an invariant of one part only
has to look at that part's operations; and they connect the replies of a gateway process with the
protocol, which makes every run of gateways a history of it.
-/

namespace ConfluxQuery

variable {S : Type}

@[simp] theorem World.setNode_nodes (world : World S) (place other : Nat) (node : NodeState) :
    (world.setNode place node).nodes other = if other = place then node else world.nodes other := by
  simp [World.setNode, Function.update_apply]

section Frame

variable [ClusterStateStore S Payload] {place : Nat} {reading : Reading} {op : Op} {world : World S}
  {outcome : Outcome gatewayOps (World S) Request op}

theorem handle_sessions {op : SessionOp} {outcome : Outcome gatewayOps (World S) Request
    (.sessions op)} (handled : handle place reading (.sessions op) world = some outcome) :
    outcome.reply = (op.apply reading.minute (world.nodes place).sessions).1 ∧
    (outcome.world.nodes place).sessions =
      (op.apply reading.minute (world.nodes place).sessions).2 := by
  simp only [handle, Option.some.injEq] at handled
  subst handled
  simp

theorem handle_owners {op : OwnerOp} {outcome : Outcome gatewayOps (World S) Request (.owners op)}
    (handled : handle place reading (.owners op) world = some outcome) :
    outcome.reply = (op.apply reading.now (world.nodes place).owners).1 ∧
    (outcome.world.nodes place).owners =
      (op.apply reading.now (world.nodes place).owners).2 := by
  simp only [handle, Option.some.injEq] at handled
  subst handled
  simp

theorem handle_records {op : RecordOp} {outcome : Outcome gatewayOps (World S) Request
    (.records op)} (handled : handle place reading (.records op) world = some outcome) :
    outcome.reply = (op.apply reading.now reading.io (world.nodes place).records).1 ∧
    (outcome.world.nodes place).records =
      (op.apply reading.now reading.io (world.nodes place).records).2 := by
  simp only [handle, Option.some.injEq] at handled
  subst handled
  simp

/-- Performing a section on prepared statements, once the lock allows it. -/
theorem handle_prepared {op : PreparedOp} {outcome : Outcome gatewayOps (World S) Request
    (.prepared op)} (handled : handle place reading (.prepared op) world = some outcome) :
    outcome.reply = (op.perform reading.now reading.uuid (world.nodes place).prepared).1 ∧
    (outcome.world.nodes place).prepared =
      (op.perform reading.now reading.uuid (world.nodes place).prepared).2 := by
  simp only [handle] at handled
  split at handled
  · cases handled
  next result performed =>
  have result_eq : op.perform reading.now reading.uuid (world.nodes place).prepared = result := by
    unfold PreparedOp.apply at performed
    exact (Option.ite_none_right_eq_some.mp performed).2 |> Option.some.inj
  simp only [Option.some.injEq] at handled
  subst handled
  simp [result_eq]

/-- A section on prepared statements finds the lock as it needs it. -/
theorem handle_prepared_lock {op : PreparedOp} {outcome : Outcome gatewayOps (World S) Request
    (.prepared op)} (handled : handle place reading (.prepared op) world = some outcome) :
    (world.nodes place).prepared.lock = if op.underLock then .held else .free := by
  simp only [handle] at handled
  split at handled
  · cases handled
  next performed =>
  unfold PreparedOp.apply at performed
  exact (Option.ite_none_right_eq_some.mp performed).1

/-- Calling the shared store. -/
theorem handle_store {op : StoreOp} {outcome : Outcome gatewayOps (World S) Request (.store op)}
    (handled : handle place reading (.store op) world = some outcome) :
    outcome.reply = (op.apply reading.now reading.uuid reading.fault world.store).1 ∧
    outcome.world.store = (op.apply reading.now reading.uuid reading.fault world.store).2 := by
  simp only [handle, Option.some.injEq] at handled
  subst handled
  exact ⟨rfl, rfl⟩

/-- What an operation leaves alone: other processes, and the parts of the world it is not an
operation of. -/
structure Framed (place : Nat) (op : Op) (world after : World S) : Prop where
  nodes : ∀ other, other ≠ place → after.nodes other = world.nodes other
  sessions : (∀ sub, op ≠ .sessions sub) → ∀ node,
    (after.nodes node).sessions = (world.nodes node).sessions
  owners : (∀ sub, op ≠ .owners sub) → ∀ node,
    (after.nodes node).owners = (world.nodes node).owners
  records : (∀ sub, op ≠ .records sub) → ∀ node,
    (after.nodes node).records = (world.nodes node).records
  prepared : (∀ sub, op ≠ .prepared sub) → ∀ node,
    (after.nodes node).prepared = (world.nodes node).prepared
  store : (∀ sub, op ≠ .store sub) → after.store = world.store
  objects : (∀ sub, op ≠ .objects sub) → after.objects = world.objects

omit [ClusterStateStore S Payload] in
/-- A process changes in one part only. -/
theorem Framed.of_node {node : NodeState} {place : Nat} {op : Op} {world : World S}
    (sessions : (∀ sub, op ≠ .sessions sub) → node.sessions = (world.nodes place).sessions)
    (owners : (∀ sub, op ≠ .owners sub) → node.owners = (world.nodes place).owners)
    (records : (∀ sub, op ≠ .records sub) → node.records = (world.nodes place).records)
    (prepared : (∀ sub, op ≠ .prepared sub) → node.prepared = (world.nodes place).prepared) :
    Framed place op world (world.setNode place node) where
  nodes other apart := by simp [apart]
  sessions foreign other := by by_cases same : other = place <;> simp [same, sessions foreign]
  owners foreign other := by by_cases same : other = place <;> simp [same, owners foreign]
  records foreign other := by by_cases same : other = place <;> simp [same, records foreign]
  prepared foreign other := by by_cases same : other = place <;> simp [same, prepared foreign]
  store _ := rfl
  objects _ := rfl

theorem handle_framed (handled : handle place reading op world = some outcome) :
    Framed place op world outcome.world := by
  cases op with
  | sessions op =>
    simp only [handle, Option.some.injEq] at handled
    subst handled
    exact .of_node (fun foreign => absurd rfl (foreign op)) (fun _ => rfl) (fun _ => rfl)
      fun _ => rfl
  | owners op =>
    simp only [handle, Option.some.injEq] at handled
    subst handled
    exact .of_node (fun _ => rfl) (fun foreign => absurd rfl (foreign op)) (fun _ => rfl)
      fun _ => rfl
  | records op =>
    simp only [handle, Option.some.injEq] at handled
    subst handled
    exact .of_node (fun _ => rfl) (fun _ => rfl) (fun foreign => absurd rfl (foreign op))
      fun _ => rfl
  | prepared op =>
    simp only [handle] at handled
    split at handled
    · cases handled
    · simp only [Option.some.injEq] at handled
      subst handled
      exact .of_node (fun _ => rfl) (fun _ => rfl) (fun _ => rfl)
        fun foreign => absurd rfl (foreign op)
  | store op =>
    simp only [handle, Option.some.injEq] at handled
    subst handled
    exact ⟨fun _ _ => rfl, fun _ _ => rfl, fun _ _ => rfl, fun _ _ => rfl, fun _ _ => rfl,
      fun foreign => absurd rfl (foreign op), fun _ => rfl⟩
  | objects op =>
    simp only [handle, Option.some.injEq] at handled
    subst handled
    exact ⟨fun _ _ => rfl, fun _ _ => rfl, fun _ _ => rfl, fun _ _ => rfl, fun _ _ => rfl,
      fun _ => rfl, fun foreign => absurd rfl (foreign op)⟩
  | adapter op =>
    simp only [handle, Option.some.injEq] at handled
    subst handled
    exact ⟨fun _ _ => rfl, fun _ _ => rfl, fun _ _ => rfl, fun _ _ => rfl, fun _ _ => rfl,
      fun _ => rfl, fun _ => rfl⟩
  | host op =>
    simp only [handle] at handled
    split at handled
    · cases handled
    next result performed =>
    simp only [Option.some.injEq] at handled
    subst handled
    have same : result.2.1.sessions = (world.nodes place).sessions ∧
        result.2.1.owners = (world.nodes place).owners ∧
        result.2.1.records = (world.nodes place).records ∧
        result.2.1.prepared = (world.nodes place).prepared := by
      cases op <;> simp only [HostOp.apply, Option.some.injEq, reduceCtorEq] at performed <;>
        subst performed <;> exact ⟨rfl, rfl, rfl, rfl⟩
    exact .of_node (fun _ => same.1) (fun _ => same.2.1) (fun _ => same.2.2.1)
      fun _ => same.2.2.2

theorem handle_owners_cases (handled : handle place reading op world = some outcome) (node : Nat) :
    (outcome.world.nodes node).owners = (world.nodes node).owners ∨
      ∃ sub, op = .owners sub ∧ node = place ∧
        (outcome.world.nodes node).owners =
          (sub.apply reading.now (world.nodes node).owners).2 := by
  by_cases here : node = place
  · subst here
    cases op with
    | owners sub => exact .inr ⟨sub, rfl, rfl, (handle_owners handled).2⟩
    | sessions | records | prepared | store | objects | adapter | host =>
      exact .inl ((handle_framed handled).owners (by simp) node)
  · exact .inl (congrArg NodeState.owners ((handle_framed handled).nodes node here))

theorem handle_records_cases (handled : handle place reading op world = some outcome)
    (node : Nat) :
    (outcome.world.nodes node).records = (world.nodes node).records ∨
      ∃ sub, op = .records sub ∧ node = place ∧ (outcome.world.nodes node).records =
        (sub.apply reading.now reading.io (world.nodes node).records).2 := by
  by_cases here : node = place
  · subst here
    cases op with
    | records sub => exact .inr ⟨sub, rfl, rfl, (handle_records handled).2⟩
    | sessions | owners | prepared | store | objects | adapter | host =>
      exact .inl ((handle_framed handled).records (by simp) node)
  · exact .inl (congrArg NodeState.records ((handle_framed handled).nodes node here))

theorem handle_prepared_cases (handled : handle place reading op world = some outcome)
    (node : Nat) :
    (outcome.world.nodes node).prepared = (world.nodes node).prepared ∨
      ∃ sub, op = .prepared sub ∧ node = place ∧
        (world.nodes node).prepared.lock = (if sub.underLock then .held else .free) ∧
        (outcome.world.nodes node).prepared =
          (sub.perform reading.now reading.uuid (world.nodes node).prepared).2 := by
  by_cases here : node = place
  · subst here
    cases op with
    | prepared sub =>
      exact .inr ⟨sub, rfl, rfl, handle_prepared_lock handled, (handle_prepared handled).2⟩
    | sessions | owners | records | store | objects | adapter | host =>
      exact .inl ((handle_framed handled).prepared (by simp) node)
  · exact .inl (congrArg NodeState.prepared ((handle_framed handled).nodes node here))

/-- Background work is started by asking for it, and by nothing else. -/
theorem handle_spawned {request : Request}
    (handled : handle place reading op world = some outcome)
    (spawned : outcome.spawned = some request) :
    ∃ task, op = .host (.spawn task) ∧ request = .task task reading.polls := by
  cases op with
  | sessions op | owners op | records op | store op | objects op | adapter op =>
    simp only [handle, Option.some.injEq] at handled
    subst handled
    cases spawned
  | prepared op =>
    simp only [handle] at handled
    split at handled
    · cases handled
    · simp only [Option.some.injEq] at handled
      subst handled
      cases spawned
  | host op =>
    simp only [handle] at handled
    split at handled
    · cases handled
    next result performed =>
    simp only [Option.some.injEq] at handled
    subst handled
    cases op with
    | spawn task =>
      simp only [HostOp.apply, Option.some.injEq] at performed
      subst performed
      cases spawned
      exact ⟨task, rfl, rfl⟩
    | clock | uuid | environmentUser | nextQueryId | isShuttingDown | beginShutdown | readFile
    | encode =>
      simp only [HostOp.apply, Option.some.injEq] at performed
      subst performed
      cases spawned
    | panic => cases performed

end Frame

/-- A change a mutator of the session manager has accepted. -/
theorem update_reply {manager : SessionManager} {id : String} {version : Nat}
    {change : Session → Session} {changed : SessionSnapshot}
    (accepted : (manager.update id version change).1 = .ok changed) :
    changed.id = id ∧ changed.version = version + 1 := by
  obtain ⟨_, _, _, same, _⟩ := SessionManager.update_ok (Prod.ext accepted rfl)
  rw [same]
  exact ⟨rfl, rfl⟩

/-- An error of the lookup of a session names the session. -/
theorem SessionManager.snapshot_reply (manager : SessionManager) (id : String) :
    (∀ found, manager.snapshot id = .ok found → found.id = id) ∧
      ∀ error, manager.snapshot id = .error error → error = .sessionNotFound id := by
  unfold SessionManager.snapshot
  split
  · next session found =>
    refine ⟨fun found same => ?_, fun error same => by cases same⟩
    cases same
    exact manager.keyed id session found
  · refine ⟨fun found same => (by cases same), fun error same => ?_⟩
    cases same
    rfl

/-- A section of the session manager gives a possible reply. -/
theorem SessionOp.apply_possible (minute : Minute) (manager : SessionManager) (op : SessionOp) :
    Op.Possible (.sessions op) (op.apply minute manager).1 := by
  cases op with
  | restore shared target =>
    intro error refused
    simp only [SessionOp.apply, SessionManager.restore] at refused
    split at refused
    · cases refused
      rfl
    · cases refused
  | nextSessionId username => trivial
  | insert session => trivial
  | snapshot id => exact manager.snapshot_reply id
  | setOptions id version values => exact fun changed accepted => update_reply accepted
  | switchTarget id version target => exact fun changed accepted => update_reply accepted
  | mutate id version target values => exact fun changed accepted => update_reply accepted
  | close id =>
    intro error refused
    simp only [SessionOp.apply, SessionManager.close] at refused
    split at refused
    · cases refused
    · cases refused
      rfl

/-- A section on owners gives a possible reply: idle sessions are listed once. -/
theorem OwnerOp.apply_possible (now : Nat) (owners : Registry String SessionOwner) (op : OwnerOp) :
    Op.Possible (.owners op) (op.apply now owners).1 := by
  cases op with
  | expired time ttl =>
    refine List.Sublist.nodup ?_ (Registry.nodup_keys_toList owners)
    simp only [OwnerOp.apply]
    induction Registry.toList owners with
    | nil => exact List.Sublist.slnil
    | cons entry rest step =>
      rw [List.filterMap_cons, List.map_cons]
      split
      · exact step.cons _
      · next listed =>
        split at listed
        · cases listed
          exact step.cons_cons _
        · cases listed
  | touch | insert | remove | count => trivial

/-- A section on prepared statements gives a possible reply. -/
theorem PreparedOp.perform_possible (now : Nat) (uuid : String) (registry : PreparedRegistry)
    (op : PreparedOp) : Op.Possible (.prepared op) (op.perform now uuid registry).1 := by
  cases op with
  | create limit record =>
    intro created made
    simp only [PreparedOp.perform] at made
    split at made
    · cases made
    · cases made
      rfl
  | touch principal handle =>
    intro found made
    simp only [PreparedOp.perform] at made
    split at made
    · cases made
    · cases made
      rfl
  | bind handle record => rfl
  | retainUnexpired | insert | ownSession | remove | dropSession | acquire | peek | release =>
    trivial

theorem StoreOp.apply_ok [ClusterStateStore S Payload] {now : Nat} {uuid : String}
    {fault : Option StoreFault} {store after : S} {op : StoreOp} {answer : op.Answer}
    (answered : op.apply now uuid fault store = (.ok answer, after)) :
    fault = none ∧ op.perform now uuid store = (.ok answer, after) := by
  unfold StoreOp.apply at answered
  split at answered
  · exact ⟨rfl, answered⟩
  · cases answered
  · cases answered

theorem StoreOp.apply_possible [ClusterStateStore S Payload] [LawfulStore S] (now : Nat)
    (uuid : String) (fault : Option StoreFault) (store : S) (op : StoreOp) :
    Op.Possible (.store op) (op.apply now uuid fault store).1 := by
  cases op with
  | getResource kind id principal =>
    intro found answered
    obtain ⟨_, performed⟩ := StoreOp.apply_ok (Prod.ext answered rfl)
    have read := congrArg Prod.fst performed
    obtain ⟨row, owner, _⟩ := LawfulStore.get_some read
    obtain ⟨sameKind, sameId⟩ := LawfulStore.row_keyed row
    exact ⟨sameKind, sameId, owner⟩
  | claimQuery id principal node ttl =>
    intro lease answered
    obtain ⟨_, performed⟩ := StoreOp.apply_ok (Prod.ext answered rfl)
    obtain ⟨_, query, owner, _⟩ := LawfulStore.claim_ok performed
    exact ⟨query, owner⟩
  | renewQuery lease ttl =>
    intro renewed answered
    obtain ⟨_, performed⟩ := StoreOp.apply_ok (Prod.ext answered rfl)
    exact (LawfulStore.renew_rows performed).2.2 renewed rfl
  | putResource | deleteResource | releaseQuery | acquireQuota | releaseQuota => trivial

/-- Every reply of a gateway process is a possible one. -/
theorem handle_possible [ClusterStateStore S Payload] [LawfulStore S] {place : Nat}
    {reading : Reading} {op : Op} {world : World S}
    {outcome : Outcome gatewayOps (World S) Request op}
    (handled : handle place reading op world = some outcome) : op.Possible outcome.reply := by
  cases op with
  | sessions op =>
    rw [(handle_sessions handled).1]
    exact op.apply_possible _ _
  | prepared op =>
    rw [(handle_prepared handled).1]
    exact op.perform_possible _ _ _
  | store op =>
    rw [(handle_store handled).1]
    exact op.apply_possible _ _ _ _
  | host op =>
    cases op with
    | readFile file =>
      simp only [handle, HostOp.apply, Option.some.injEq] at handled
      subst handled
      exact fun reader opened intact finished =>
        reading.io.roundTrip file reader intact finished opened
    | clock | uuid | environmentUser | nextQueryId | isShuttingDown | beginShutdown | encode
    | spawn | panic => trivial
  | owners op =>
    rw [(handle_owners handled).1]
    exact op.apply_possible _ _
  | records | objects | adapter => trivial

/-- The programs of gateways keep to the protocol and their replies are possible. -/
theorem gateway_obeys [ClusterStateStore S Payload] [LawfulStore S] (gateways : Nat → Gateway) :
    (gatewayMachine S gateways).Obeys (gatewayProtocol gateways) where
  follows place request := by
    cases request with
    | call principal operation =>
      refine Follows.mono (Gateway.conforms operation) fun after outcome _ explained => ?_
      intro other called same
      cases same
      exact explained
    | beginShutdown =>
      refine Follows.map_iff.mpr (Follows.perform rfl fun _ _ => ?_)
      exact Follows.perform_iff.mpr ⟨trivial, fun _ _ _ _ same => by cases same⟩
    | cleanupExpired =>
      exact Follows.map_iff.mpr (Gateway.cleanupExpired_follows fun _ _ _ _ same => by cases same)
    | task task polls =>
      cases task with
      | collectQuery reference sessionId version run close =>
        have collects : (Request.task (.collectQuery reference sessionId version run close)
          polls).collection = some ⟨reference, sessionId, version, run, close⟩ := rfl
        exact Follows.map_iff.mpr (Gateway.collectQuery_follows collects
          fun _ _ _ _ same => by cases same)
      | publishQueryCompletion principal queryId lease =>
        show Follows _ ((gateways place).program
          (.task (.publishQueryCompletion principal queryId lease) polls)) [] _
        unfold Gateway.program
        cases joined : (gateways place).cluster with
        | none => exact fun _ _ same => by cases same
        | some cluster =>
          exact Gateway.publishQueryCompletion_follows rfl (by rw [joined]; rfl)
            (fun _ _ _ _ same => by cases same) polls lease rfl (.inl rfl)
  replies _ _ _ _ _ handled := handle_possible handled

end ConfluxQuery
