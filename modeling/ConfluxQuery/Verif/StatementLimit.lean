import ConfluxQuery.Lib.Exclusion
import ConfluxQuery.Verif.Footprints
import ConfluxQuery.Verif.SessionHistory

/-!
# The limit of prepared statements

A gateway checks the number of its prepared statements where it makes one, under the lock that also
guards the insertion. A statement that another node has made enters the registry without a check.
Binding inserts too, but under a lock that is held since the statement was found there, so it
replaces an entry and adds none.
-/

namespace ConfluxQuery

/-- What an operation has to do with the lock of the prepared statements. -/
def Op.lockRole : Op → LockRole
  | .prepared .acquire => .takes
  | .prepared (.peek _ _) | .prepared (.bind _ _) => .under
  | .prepared .release => .gives
  | .prepared _ => .brief
  | _ => .apart

/-- The lock of the prepared statements is held at a node. -/
def World.statementsLocked {S : Type} (node : Nat) (world : World S) : Prop :=
  (world.nodes node).prepared.lock = .held

/-- A section that is not about the lock leaves it, or spoils it. -/
theorem PreparedOp.perform_lock (now : Nat) (uuid : String) (registry : PreparedRegistry)
    {op : PreparedOp} (under : Op.lockRole (.prepared op) = .under) :
    (op.perform now uuid registry).2.lock = registry.lock := by
  cases op with
  | peek | bind => rfl
  | acquire | release | retainUnexpired | create | insert | touch | ownSession | remove
  | dropSession => cases under

section

variable {S : Type} [ClusterStateStore S Payload] {gateways : Nat → Gateway}

theorem statements_locking (gateways : Nat → Gateway) :
    Locking Op.lockRole (gatewayMachine S gateways) World.statementsLocked where
  waits {place input act world outcome} handled role := by
    have handled : handle place input act world = some outcome := handled
    cases act with
    | prepared op =>
      have lock := handle_prepared_lock handled
      rw [World.statementsLocked, lock]
      cases op with
      | peek | bind | release => rcases role with role | role <;> cases role
      | acquire | retainUnexpired | create | insert | touch | ownSession | remove | dropSession =>
        simp [PreparedOp.underLock]
    | sessions | owners | records | store | objects | adapter | host =>
      rcases role with role | role <;> cases role
  taken {place input act world outcome} handled role := by
    have handled : handle place input act world = some outcome := handled
    cases act with
    | prepared op =>
      have performed := (handle_prepared handled).2
      cases op with
      | acquire => exact congrArg PreparedRegistry.lock performed
      | peek | bind | release | retainUnexpired | create | insert | touch | ownSession | remove
      | dropSession => cases role
    | sessions | owners | records | store | objects | adapter | host => cases role
  kept {place input act world outcome} handled role locked := by
    have handled : handle place input act world = some outcome := handled
    cases act with
    | prepared op =>
      have under : Op.lockRole (.prepared op) = .under := role.resolve_right (by cases op <;> nofun)
      have performed := congrArg PreparedRegistry.lock (handle_prepared handled).2
      rw [World.statementsLocked, performed, PreparedOp.perform_lock _ _ _ under]
      exact locked
    | sessions | owners | records | store | objects | adapter | host =>
      rw [World.statementsLocked, (handle_framed handled).prepared (by simp)]
      exact locked
  elsewhere {place other input act world outcome} handled away locked := by
    have handled : handle place input act world = some outcome := handled
    rw [World.statementsLocked, (handle_framed handled).nodes other away]
    exact locked

/-- A call has found a statement since it holds the lock. -/
def Seen.Peeked : Seen → String → Prop
  | [], _ => False
  | ⟨.prepared .acquire, _⟩ :: _, _ => False
  | ⟨.prepared (.peek _ found), reply⟩ :: rest, handle =>
    found = handle ∧ reply.isSome = true ∨ Peeked rest handle
  | _ :: rest, handle => Peeked rest handle

/-- What every call keeps to: it uses the lock in order, binds only what it has found under the
lock, and makes statements under the gateway's limit. -/
def Op.Locked (gateway : Gateway) (trail : Seen) (act : Op) : Prop :=
  Orderly Op.lockRole trail act ∧
    match act with
    | .prepared (.bind handle _) => Seen.Peeked trail handle
    | .prepared (.create limit _) => limit = gateway.limits.maxPreparedStatements
    | _ => True

/-- The protocol of the lock. -/
def lockProtocol (gateways : Nat → Gateway) :
    Protocol gatewayOps Nat Request ServiceError Answer where
  allowed place _ trail act := act.Locked (gateways place) trail
  possible _ _ := True
  post _ _ _ _ := True

/-- Operations a call may not perform while it does not hold the lock: those of the lock, and those
that make statements under another limit. -/
def Op.misplaced (limit : Nat) (act : Op) : Bool :=
  act.within (· == .lock) ||
    match act with
    | .prepared (.create other _) => other != limit
    | _ => false

/-- A program that neither makes statements nor uses the lock performs nothing out of place. -/
theorem avoids_misplaced {α : Type} {limit : Nat} {prog : Call α}
    (avoids : prog.Avoids (Op.within fun grant => grant == .lock || grant == .statement)) :
    prog.Avoids (Op.misplaced limit) := by
  refine avoids.imp fun act misplaced => ?_
  simp only [Op.misplaced, Bool.or_eq_true] at misplaced
  rcases misplaced with locks | creates
  · unfold Op.within at locks ⊢
    cases granted : act.grant with
    | none =>
      rw [granted] at locks
      cases locks
    | some grant =>
      rw [granted, Option.any_some] at locks
      rw [Option.any_some, locks]
      rfl
  · split at creates
    · rfl
    · cases creates

variable {gateway : Gateway} {principal : AuthenticatedPrincipal}

open Gateway

/-- Preparing a statement performs nothing out of place. -/
theorem createPreparedStatement_placed {id sql : String} :
    (gateway.createPreparedStatement principal id sql).Avoids
      (Op.misplaced gateway.limits.maxPreparedStatements) := by
  simp only [createPreparedStatement, Prog.Avoids.bind_iff]
  refine ⟨avoids_misplaced (by simp), fun _ _ => ⟨by simp, fun _ _ =>
    ⟨avoids_misplaced (by simp), fun _ _ => ⟨avoids_misplaced (by simp), fun _ _ =>
      ⟨avoids_misplaced (prepare_avoids rfl), fun _ _ => ⟨avoids_misplaced (by simp), fun _ _ =>
        ⟨?_, fun _ _ => by simp⟩⟩⟩⟩⟩⟩⟩
  simp [Op.misplaced]

/-- An operation that does not bind performs nothing out of place. -/
theorem operation_placed {operation : Operation} (plain : Grant.lock ∉ operation.grants) :
    (gateway.operation principal operation).Avoids
      (Op.misplaced gateway.limits.maxPreparedStatements) := by
  cases operation with
  | createPreparedStatement id sql => exact Prog.Avoids.map_iff.mpr createPreparedStatement_placed
  | createStatelessPreparedStatement name sql =>
    simp only [Gateway.operation, Prog.Avoids.map_iff, createStatelessPreparedStatement,
      Prog.Avoids.bind_iff]
    refine ⟨avoids_misplaced (createSession_avoids rfl), fun found _ =>
      ⟨Prog.Avoids.attempt_iff.mpr createPreparedStatement_placed, fun outcome _ => ?_⟩⟩
    refine avoids_misplaced ?_
    split
    · simp
    simp only [Prog.Avoids.bind_iff]
    refine ⟨by simp, fun owns _ => ?_⟩
    split
    · simp
    · exact Prog.Avoids.bind_iff.mpr ⟨by simp, fun impossible _ => impossible.elim⟩
  | createPreparedStatementClustered id sql =>
    simp only [Gateway.operation, Prog.Avoids.map_iff, createPreparedStatementClustered,
      Prog.Avoids.bind_iff]
    refine ⟨avoids_misplaced (sessionClustered_avoids rfl), fun _ _ =>
      ⟨createPreparedStatement_placed, fun created _ => avoids_misplaced ?_⟩⟩
    split <;> simp
  | bindPreparedStatement | bindPreparedStatementClustered =>
    exact absurd (by simp [Operation.grants]) plain
  | _ => exact avoids_misplaced (operation_avoids (by simp [Operation.grants]))

/-- What a call that does not hold the lock keeps to, while it performs nothing out of place. -/
theorem follows_of_placed {α : Type} {prog : Call α} {trail : Seen}
    (placed : prog.Avoids (Op.misplaced gateway.limits.maxPreparedStatements))
    (free : holding Op.lockRole trail = false) :
    Follows ⟨Op.Locked gateway, fun _ _ => True⟩ prog trail fun later _ =>
      holding Op.lockRole later = false := by
  refine placed.orderly (fun act other => ?_) free fun trail act other order => ⟨order, ?_⟩
  · simp only [Op.misplaced, Bool.or_eq_false_iff] at other
    cases act with
    | prepared op =>
      cases op with
      | acquire | peek | bind | release => exact absurd other.1 (by simp [Op.within, Op.grant])
      | retainUnexpired | create | insert | touch | ownSession | remove | dropSession =>
        exact .inl rfl
    | sessions | owners | records | store | objects | adapter | host => exact .inr rfl
  · split
    · exact absurd other (by simp [Op.misplaced, Op.within, Op.grant])
    · simpa [Op.misplaced, Op.within, Op.grant] using other
    · trivial

/-- Operations on prepared statements. -/
def Op.onStatements : Op → Bool
  | .prepared _ => true
  | _ => false

/-- A call holds the lock and has found a statement under it. -/
def Seen.HasFound (trail : Seen) (handle : String) : Prop :=
  holding Op.lockRole trail = true ∧ Seen.Peeked trail handle

theorem Seen.HasFound.append {trail newer : Seen} {handle : String}
    (apart : ∀ entry ∈ newer, entry.1.onStatements = false) (found : trail.HasFound handle) :
    Seen.HasFound (newer ++ trail) handle := by
  induction newer with
  | nil => exact found
  | cons entry rest step =>
    obtain ⟨holds, peeked⟩ := step fun other member => apart other (List.mem_cons_of_mem _ member)
    have other := apart entry List.mem_cons_self
    obtain ⟨act, reply⟩ := entry
    cases act with
    | prepared => cases other
    | sessions | owners | records | store | objects | adapter | host => exact ⟨holds, peeked⟩

theorem follows_of_found {α : Type} {prog : Call α} {trail : Seen} {handle : String}
    (avoids : prog.Avoids Op.onStatements) (found : trail.HasFound handle) :
    Follows ⟨Op.Locked gateway, fun _ _ => True⟩ prog trail fun later _ =>
      Seen.HasFound later handle := by
  refine avoids.follows (fun trail act other => ?_) fun newer _ apart => found.append apart
  cases act with
  | prepared => cases other
  | sessions | owners | records | store | objects | adapter | host => exact ⟨trivial, trivial⟩

/-- Binding under the lock: the statement is found there, and the lock is kept. -/
theorem bindLocked_locked {handle : String} {parameters : List RecordBatch} {trail : Seen}
    (holds : holding Op.lockRole trail = true) :
    Follows ⟨Op.Locked gateway, fun _ _ => True⟩ (gateway.bindLocked principal handle parameters)
      trail fun later _ => holding Op.lockRole later = true := by
  refine Follows.bind_iff.mpr (Follows.perform ⟨holds, trivial⟩ fun reply _ => ?_)
  refine Follows.bind_iff.mpr (Follows.okOr_iff.mpr ⟨fun record same => ?_, fun _ => holds⟩)
  have found : Seen.HasFound (⟨.prepared (.peek principal.id handle), reply⟩ :: trail) handle :=
    ⟨holds, .inl ⟨rfl, by rw [same]; rfl⟩⟩
  refine Follows.bind (follows_of_found (by simp [session, requireSessionOwner, Op.onStatements])
    found) (fun second session _ found => ?_) fun _ _ _ found => found.1
  refine Follows.bind (follows_of_found (by simp [requireCapability]) found)
    (fun third _ _ found => ?_) fun _ _ _ found => found.1
  refine Follows.bind_iff.mpr (Follows.ensure_iff.mpr ⟨fun _ => ?_, fun _ => found.1⟩)
  exact Follows.perform ⟨found.1, found.2⟩ fun _ _ => found.1

/-- Binding takes the lock and gives it back on every path. -/
theorem bindPreparedStatement_locked {handle : String} {parameters : List RecordBatch}
    {trail : Seen} (free : holding Op.lockRole trail = false) :
    Follows ⟨Op.Locked gateway, fun _ _ => True⟩
      (gateway.bindPreparedStatement principal handle parameters) trail fun later _ =>
        holding Op.lockRole later = false := by
  refine Follows.bind (follows_of_placed (avoids_misplaced (by simp)) free)
    (fun first _ _ free => ?_) fun _ _ _ free => free
  refine Follows.bind_iff.mpr (Follows.perform ⟨free, trivial⟩ fun _ _ => ?_)
  refine Follows.bind_iff.mpr (Follows.attempt_iff.mpr ((bindLocked_locked rfl).mono ?_))
  intro later outcome _ holds
  refine Follows.bind_iff.mpr (Follows.perform ⟨holds, trivial⟩ fun _ _ => ?_)
  exact Follows.lift_iff.mpr rfl

theorem lock_obeys (gateways : Nat → Gateway) :
    (gatewayMachine S gateways).Obeys (lockProtocol gateways) where
  follows place request := by
    have plain : ∀ {prog : Call Answer},
        prog.Avoids (Op.misplaced (gateways place).limits.maxPreparedStatements) →
        Follows ((lockProtocol gateways).rule place request) prog [] fun _ _ => True :=
      fun placed => (follows_of_placed placed rfl).mono fun _ _ _ _ => trivial
    have avoided : (∀ grant ∈ request.grants, (grant == .lock || grant == .statement) = false) →
        Follows ((lockProtocol gateways).rule place request) ((gateways place).program request) []
          fun _ _ => True := fun absent => plain (avoids_misplaced (program_avoids absent))
    cases request with
    | call principal operation =>
      have unlocked : Grant.lock ∉ operation.grants → Follows ((lockProtocol gateways).rule place _)
          ((gateways place).operation principal operation) [] fun _ _ => True :=
        fun absent => plain (operation_placed absent)
      cases operation with
      | bindPreparedStatement handle parameters =>
        exact Follows.map_iff.mpr
          ((bindPreparedStatement_locked rfl).mono fun _ _ _ _ => trivial)
      | bindPreparedStatementClustered handle parameters =>
        refine Follows.map_iff.mpr ?_
        refine Follows.bind (follows_of_placed
          (avoids_misplaced (preparedStatementClustered_avoids rfl rfl)) rfl)
          (fun first _ _ free => ?_) fun _ _ _ _ => trivial
        refine Follows.bind (bindPreparedStatement_locked free) (fun second bound _ free => ?_)
          fun _ _ _ _ => trivial
        refine (follows_of_placed (avoids_misplaced ?_) free).mono fun _ _ _ _ => trivial
        split <;> simp [shareParameters]
      | _ => exact unlocked (by simp [Operation.grants])
    | beginShutdown | cleanupExpired => exact avoided (by simp [Request.grants])
    | task task polls => exact avoided (by cases task <;> simp [Request.grants])
  replies _ _ _ _ _ _ := trivial

/-- The statement of a handle at a node. -/
def World.statement (world : World S) (node : Nat) (handle : String) :
    Option PreparedStatementRecord :=
  (world.nodes node).prepared.statements.lookup handle

/-- Number of prepared statements at a node. -/
def World.statementCount (world : World S) (node : Nat) : Nat :=
  Registry.size (world.nodes node).prepared.statements

theorem PreparedRegistry.lookup_of_findOwned {registry : PreparedRegistry}
    {principal handle : String} {record : PreparedStatementRecord}
    (found : registry.findOwned principal handle = some record) :
    registry.statements.lookup handle = some record :=
  (Option.filter_eq_some_iff.mp found).1

variable {guard : Guard S} {world₀ world : World S} {past : Past S}

/-- What a holder of the lock has found under it is there. -/
theorem peeked_present
    (history : History (gatewayMachine S gateways) (lockProtocol gateways) guard world₀ world past)
    {actor : Caller} (started : .started actor ∈ past)
    (holds : holding Op.lockRole (trailOf actor.thread past) = true) {handle : String}
    (peeked : Seen.Peeked (trailOf actor.thread past) handle) :
    (world.statement actor.place handle).isSome = true := by
  refine history.guarded (fun _ _ _ _ allowed => allowed.1) (statements_locking gateways)
    (fun place trail world => ∀ handle, Seen.Peeked trail handle →
      (world.statement place handle).isSome = true) ?_ ?_ ?_ started holds handle peeked
  · intro place input act world outcome trail _ role handle peeked
    cases act with
    | prepared op =>
      cases op with
      | acquire => exact peeked.elim
      | peek | bind | release | retainUnexpired | create | insert | touch | ownSession | remove
      | dropSession => cases role
    | sessions | owners | records | store | objects | adapter | host => cases role
  · intro place input act world outcome trail handled role there handle peeked
    have handled : ConfluxQuery.handle place input act world = some outcome := handled
    cases act with
    | prepared op =>
      obtain ⟨reply, performed⟩ := handle_prepared handled
      rw [World.statement, performed]
      cases op with
      | peek principal found =>
        rcases peeked with ⟨rfl, some_⟩ | earlier
        · rw [reply] at some_
          obtain ⟨record, owned⟩ := Option.isSome_iff_exists.mp some_
          exact Option.isSome_iff_exists.mpr ⟨record, PreparedRegistry.lookup_of_findOwned owned⟩
        · exact there handle earlier
      | bind bound record =>
        have before := there handle peeked
        simp only [PreparedOp.perform, Registry.lookup_insert_ite]
        split
        · rfl
        · exact before
      | acquire | release | retainUnexpired | create | insert | touch | ownSession | remove
      | dropSession => rcases role with role | role <;> cases role
    | sessions | owners | records | store | objects | adapter | host =>
      rw [World.statement, (handle_framed handled).prepared (by simp)]
      exact there handle peeked
  · intro place away input act world outcome trail handled apart there handle peeked
    have handled : ConfluxQuery.handle place input act world = some outcome := handled
    have same : (outcome.world.nodes away).prepared = (world.nodes away).prepared := by
      rcases apart with elsewhere | apart
      · rw [(handle_framed handled).nodes away elsewhere]
      · refine (handle_framed handled).prepared (fun op same => ?_) away
        subst same
        cases op <;> cases apart
    rw [World.statement, same]
    exact there handle peeked

/-- Inserting under a key that is present, or while there is room, keeps within a limit. -/
theorem size_insert_le {registry : Registry String PreparedStatementRecord} {limit : Nat}
    {handle : String} (record : PreparedStatementRecord) (within : Registry.size registry ≤ limit)
    (room : Registry.size registry < limit ∨ (registry.lookup handle).isSome = true) :
    Registry.size (registry.insert handle record) ≤ limit := by
  cases found : registry.lookup handle with
  | none =>
    rw [Registry.size_insert_of_none record found]
    exact room.resolve_right (by simp [found])
  | some old => rwa [Registry.size_insert_of_some record found]

/-- A section keeps the statements within a limit when it makes them under that limit and whatever
else it inserts replaces a statement or finds room. -/
theorem PreparedOp.perform_within (now : Nat) (uuid : String) {registry : PreparedRegistry}
    {limit : Nat} {op : PreparedOp} (within : Registry.size registry.statements ≤ limit)
    (creates : ∀ other record, op = .create other record → other = limit)
    (hydrates : ∀ handle record, op = .insert handle record →
      Registry.size registry.statements < limit ∨
        (registry.statements.lookup handle).isSome = true)
    (binds : ∀ handle record, op = .bind handle record →
      (registry.statements.lookup handle).isSome = true) :
    Registry.size (op.perform now uuid registry).2.statements ≤ limit := by
  cases op with
  | retainUnexpired | dropSession => exact Nat.le_trans (Registry.size_retain_le _ _) within
  | create other record =>
    simp only [PreparedOp.perform]
    split
    · exact within
    · next room =>
      rw [creates other record rfl] at room
      exact size_insert_le _ within (.inl (Nat.lt_of_not_le room))
  | insert handle record => exact size_insert_le record within (hydrates handle record rfl)
  | touch principal handle =>
    simp only [PreparedOp.perform]
    split
    · exact within
    · next found =>
      exact size_insert_le _ within
        (.inr (by rw [PreparedRegistry.lookup_of_findOwned found]; rfl))
  | ownSession handle =>
    simp only [PreparedOp.perform]
    split
    · exact within
    · next found => exact size_insert_le _ within (.inr (by rw [found]; rfl))
  | remove principal handle =>
    simp only [PreparedOp.perform]
    split
    · exact within
    · exact Nat.le_trans (Registry.size_erase_le _ _) within
  | bind handle record => exact size_insert_le _ within (.inr (binds handle record rfl))
  | acquire | peek | release => exact within

/-- A call that hydrates a statement finds room for it, or the statement is there already. -/
def HydratesWithRoom (gateways : Nat → Gateway) (world : World S) (_past : Past S) :
    Upcoming gatewayOps Nat Reading Request ServiceError Answer → Bool
  | .performs ⟨_, node, _⟩ (.prepared (.insert handle _)) _ =>
    decide (world.statementCount node < (gateways node).limits.maxPreparedStatements) ||
      (world.statement node handle).isSome
  | _ => true

/-- Every gateway keeps to its limit when hydrating calls find room. -/
theorem statements_within {store : S}
    (history : History (gatewayMachine S gateways) (lockProtocol gateways)
      (HydratesWithRoom gateways · · ·) (World.initial store) world past) (node : Nat) :
    world.statementCount node ≤ (gateways node).limits.maxPreparedStatements := by
  induction history with
  | initial => exact Nat.zero_le _
  | arrives _ _ _ _ _ step => exact step
  | returns _ _ _ _ _ _ _ step => exact step
  | @performs before past actor act input outcome held known _ allowed handled met step =>
    have handled : handle actor.place input act before = some outcome := handled
    rcases handle_prepared_cases handled node with same | ⟨op, rfl, rfl, _, after⟩
    · rw [World.statementCount, same]
      exact step
    · rw [World.statementCount, after]
      refine PreparedOp.perform_within _ _ step ?_ ?_ ?_
      · rintro other record rfl
        exact allowed.2
      · rintro handle record rfl
        simp only [HydratesWithRoom, Bool.or_eq_true, decide_eq_true_eq] at met
        exact met
      · rintro handle record rfl
        exact peeked_present held known allowed.1 allowed.2

/-- In a run every gateway keeps to its limit of prepared statements in every state reached, if and
only if every call that hydrates a statement finds room for it or finds it there already. -/
theorem statements_bounded_iff (gateways : Nat → Gateway) (store : S) (schedule : Schedule) :
    RunMeets gateways (HydratesWithRoom gateways · · ·) store schedule ↔
      ∀ first rest, schedule = first ++ rest → ∀ node,
        (gatewayRun gateways store first).world.statementCount node ≤
          (gateways node).limits.maxPreparedStatements := by
  constructor
  · rintro met first rest rfl node
    exact statements_within (Machine.run_history (lock_obeys gateways) first
      (Machine.meets_append.mp met).1) node
  · intro bounded
    refine Machine.meets_iff.mpr fun first choice rest split next upcoming => ?_
    unfold HydratesWithRoom
    split
    · next number node request handle record input =>
      obtain ⟨outcome, _, _, handled, after⟩ := (follower_initial.run (lock_obeys gateways) first
        (runMeets_trivial gateways store first)).upcoming_performs upcoming
      have handled : ConfluxQuery.handle node input _ _ = some outcome := handled
      have advanced : (gatewayRun gateways store (first ++ [choice])).world = outcome.world := by
        rw [← after, gatewayRun, Machine.run_append]
        rfl
      have bound := bounded (first ++ [choice]) rest (by simpa using split) node
      rw [advanced, World.statementCount, (handle_prepared handled).2] at bound
      -- A statement that is new adds one to a registry that is full.
      by_contra full
      simp only [Bool.or_eq_true, decide_eq_true_eq, not_or, Nat.not_lt, Bool.not_eq_true,
        Option.isSome_eq_false_iff, Option.isNone_iff_eq_none] at full
      have added := Registry.size_insert_of_none record full.2
      have full : (gateways node).limits.maxPreparedStatements ≤
          ((gatewayMachine S gateways).run (Machine.initial (World.initial store))
            first).world.statementCount node := full.1
      simp only [PreparedOp.perform] at bound
      unfold World.statementCount at full
      omega
    · rfl

end

namespace Sample

/-- Two nodes of a cluster that keep one prepared statement each. -/
def narrowPair (node : Nat) : Gateway := { pair node with limits := { maxPreparedStatements := 1 } }

/-- A reading with another fresh identifier. -/
def secondReading : Reading := { reading with uuid := "2" }

/-- Alice prepares a statement on each of the nodes, and then asks the second node for the first
statement. -/
def crowdedNode : Schedule :=
  call 0 0 14 (.createSessionClustered "demo" ∅) ++
    call 0 1 15 (.createPreparedStatementClustered "qcli_20260101_0000_01" "select 1") ++
    .start 1 (.call alice (.createPreparedStatementClustered "qcli_20260101_0000_01" "select 2")) ::
      steps 2 20 secondReading ++
    call 1 3 30 (.preparedStatementClustered "1")

end Sample

set_option maxRecDepth 20000 in
/-- A node that has as many statements as it may hydrates one more. -/
theorem hydration_exceeds_limit :
    (Sample.narrowPair 1).limits.maxPreparedStatements = 1 ∧
      (gatewayRun Sample.narrowPair (.empty : MemoryState Payload)
        Sample.crowdedNode).world.statementCount 1 = 2 := by
  decide +kernel

end ConfluxQuery
