import ConfluxQuery.Verif.StatementLimit

/-!
# Statements that own their session

A statement that is prepared without a session is made in two sections: one inserts it, and a later
one looks it up again and makes it the owner of the session that was opened for it. In between, a
cleanup, the end of the session or a close of the statement may remove it; the second section then
panics under the lock, which no one can take after that. While nothing removes such a statement
between the two sections, the second always finds it.
-/

namespace ConfluxQuery

/-- The statement a call has made and not looked up again. -/
def Seen.unowned : Seen → Option String
  | [] => none
  | ⟨.prepared (.create _ _), reply⟩ :: _ => reply.map PreparedStatementSnapshot.handle
  | ⟨.prepared (.ownSession _), _⟩ :: _ => none
  | _ :: rest => unowned rest

/-- The request prepares a statement without a session. -/
def Request.preparesStateless : Request → Bool
  | .call _ (.createStatelessPreparedStatement _ _) => true
  | _ => false

/-- The protocol of ownership: a statement is made the owner of its session by the call that made it
for itself, and once. -/
def ownershipProtocol : Protocol gatewayOps Nat Request ServiceError Answer where
  allowed _ request trail act := ∀ handle, act = .prepared (.ownSession handle) →
    request.preparesStateless = true ∧ Seen.unowned trail = some handle
  possible _ _ := True
  post _ _ _ _ := True

/-- A program that makes no statement an owner keeps to the protocol. -/
theorem follows_of_unowning {α : Type} {place : Nat} {request : Request} {prog : Call α}
    {trail : Seen} (avoids : prog.Avoids (Op.within (· == .ownership))) :
    Follows (ownershipProtocol.rule place request) prog trail fun _ _ => True := by
  refine avoids.follows (fun trail act other handle same => ?_) fun _ _ _ => trivial
  subst same
  cases other

open Gateway

/-- A call that has prepared a statement has just made it. -/
theorem createPreparedStatement_unowned {gateway : Gateway} {place : Nat} {request : Request}
    {principal : AuthenticatedPrincipal} {id sql : String} {trail : Seen} :
    Follows (ownershipProtocol.rule place request)
      (gateway.createPreparedStatement principal id sql)
      trail fun later outcome => ∀ created, outcome = .ok created →
        Seen.unowned later = some created.handle := by
  refine Follows.bind (follows_of_unowning (by simp)) (fun _ _ _ _ => ?_) fun _ _ _ _ => nofun
  refine Follows.bind (follows_of_unowning (by simp)) (fun _ _ _ _ => ?_) fun _ _ _ _ => nofun
  refine Follows.bind (follows_of_unowning (by simp)) (fun _ found _ _ => ?_) fun _ _ _ _ => nofun
  refine Follows.bind (follows_of_unowning (by simp)) (fun _ _ _ _ => ?_) fun _ _ _ _ => nofun
  refine Follows.bind (follows_of_unowning (prepare_avoids rfl)) (fun _ _ _ _ => ?_)
    fun _ _ _ _ => nofun
  refine Follows.bind (follows_of_unowning (by simp)) (fun _ _ _ _ => ?_) fun _ _ _ _ => nofun
  refine Follows.bind_iff.mpr (Follows.perform nofun fun reply _ => ?_)
  refine Follows.okOr_iff.mpr ⟨fun created same => ?_, fun _ => nofun⟩
  rintro _ ⟨rfl⟩
  subst same
  rfl

theorem ownership_obeys {S : Type} [ClusterStateStore S Payload] (gateways : Nat → Gateway) :
    (gatewayMachine S gateways).Obeys ownershipProtocol where
  follows place request := by
    have avoided : (∀ grant ∈ request.grants, (grant == .ownership) = false) →
        Follows (ownershipProtocol.rule place request) ((gateways place).program request) []
          fun _ _ => True := fun absent => follows_of_unowning (program_avoids absent)
    cases request with
    | call principal operation =>
      cases operation with
      | createStatelessPreparedStatement name sql =>
        refine Follows.map_iff.mpr (Follows.bind (follows_of_unowning (createSession_avoids rfl))
          (fun _ found _ _ => ?_) fun _ _ _ _ => trivial)
        refine Follows.bind_iff.mpr (Follows.attempt_iff.mpr
          (createPreparedStatement_unowned.mono ?_))
        intro later outcome _ made
        cases outcome with
        | error => exact follows_of_unowning (by simp)
        | ok created =>
          refine Follows.bind_iff.mpr (Follows.perform ?_ fun reply _ => ?_)
          · rintro _ ⟨rfl⟩
            exact ⟨rfl, made created rfl⟩
          · refine follows_of_unowning ?_
            split
            · simp
            · exact Prog.Avoids.bind_iff.mpr ⟨by simp, fun impossible _ => impossible.elim⟩
      | _ => exact avoided (by simp [Request.grants, Operation.grants])
    | beginShutdown | cleanupExpired => exact avoided (by simp [Request.grants])
    | task task polls => exact avoided (by cases task <;> simp [Request.grants])
  replies _ _ _ _ _ _ := trivial

/-- A section removes the statement of a handle. -/
def PreparedOp.removes (handle : String) (record : PreparedStatementRecord) : PreparedOp → Bool
  | .retainUnexpired now ttl => !decide (now - record.lastAccess < ttl)
  | .remove principal other => other == handle && record.owner == principal
  | .dropSession id => record.sessionId == id
  | _ => false

/-- A statement stays when a section does not remove it. -/
theorem PreparedOp.perform_spares (now : Nat) (uuid : String) {registry : PreparedRegistry}
    {op : PreparedOp} {handle : String} {record : PreparedStatementRecord}
    (found : registry.statements.lookup handle = some record)
    (spared : op.removes handle record = false) :
    ((op.perform now uuid registry).2.statements.lookup handle).isSome = true := by
  have stays : (registry.statements.lookup handle).isSome = true := by rw [found]; rfl
  have inserted : ∀ other record,
      ((registry.statements.insert other record).lookup handle).isSome = true := by
    intro other record
    rw [Registry.lookup_insert_ite]
    split
    · rfl
    · exact stays
  cases op with
  | retainUnexpired now ttl =>
    simp only [removes, Bool.not_eq_false'] at spared
    simp [PreparedOp.perform, Registry.lookup_retain, found, spared]
  | create limit record =>
    simp only [PreparedOp.perform]
    split
    · exact stays
    · exact inserted _ _
  | insert | bind => exact inserted _ _
  | touch principal other =>
    simp only [PreparedOp.perform]
    split
    · exact stays
    · exact inserted _ _
  | ownSession other =>
    simp only [PreparedOp.perform]
    split
    · exact stays
    · exact inserted _ _
  | remove principal other =>
    simp only [PreparedOp.perform]
    split
    · exact stays
    · next old owned =>
      rw [Registry.lookup_erase_ite]
      split
      · next same =>
        subst same
        obtain ⟨there, mine⟩ := Option.filter_eq_some_iff.mp owned
        cases found.symm.trans there
        simp [removes, mine] at spared
      · exact stays
  | dropSession id =>
    simp only [removes] at spared
    simp [PreparedOp.perform, Registry.lookup_retain, found, Option.filter, bne, spared]
  | acquire | peek | release => exact stays

section

variable {S : Type} [ClusterStateStore S Payload] {gateways : Nat → Gateway} {guard : Guard S}
  {world₀ world : World S} {past : Past S}

/-- A statement stays when the operation does not remove it. -/
theorem statement_stays {place node : Nat} {reading : Reading} {act : Op}
    {outcome : Outcome gatewayOps (World S) Request act} {handle : String}
    (handled : ConfluxQuery.handle place reading act world = some outcome)
    (present : (world.statement node handle).isSome = true)
    (spared : ∀ op, act = .prepared op → place = node →
      (world.statement node handle).all (fun record => !op.removes handle record) = true) :
    (outcome.world.statement node handle).isSome = true := by
  rcases handle_prepared_cases handled node with same | ⟨op, rfl, rfl, _, after⟩
  · rw [World.statement, same]
    exact present
  · obtain ⟨record, found⟩ := Option.isSome_iff_exists.mp present
    have spared := spared op rfl rfl
    rw [found, Option.all_some, Bool.not_eq_true'] at spared
    rw [World.statement, after]
    exact PreparedOp.perform_spares _ _ found spared

/-- No section removes a statement that was prepared without a session before it owns one. -/
def SparesUnowned (world : World S) (past : Past S) :
    Upcoming gatewayOps Nat Reading Request ServiceError Answer → Bool
  | .performs ⟨_, node, _⟩ (.prepared op) _ => past.all fun
    | .started maker => !(maker.request.preparesStateless && maker.place == node) ||
        (Seen.unowned (trailOf maker.thread past)).all fun handle =>
          (world.statement node handle).all fun record => !op.removes handle record
    | _ => true
  | _ => true

/-- Statements that were prepared without a session and do not own one yet are there, and no lock is
poisoned. -/
structure Unlost (world : World S) (past : Past S) : Prop where
  present : ∀ maker, .started maker ∈ past → maker.request.preparesStateless = true →
    ∀ handle, Seen.unowned (trailOf maker.thread past) = some handle →
      (world.statement maker.place handle).isSome = true
  sound : ∀ node, (world.nodes node).prepared.lock ≠ .poisoned
  /-- No call has missed its statement. -/
  found : ∀ maker handle, ¬Done past maker (.prepared (.ownSession handle)) false

theorem unowned_cons {act : Op} {reply : act.Reply} {trail : Seen} {handle : String}
    (pending : Seen.unowned (⟨act, reply⟩ :: trail) = some handle) :
    Seen.unowned trail = some handle ∨ ∃ limit record, act = .prepared (.create limit record) := by
  cases act with
  | prepared op =>
    cases op with
    | create limit record => exact .inr ⟨limit, record, rfl⟩
    | ownSession => cases pending
    | retainUnexpired | insert | touch | remove | dropSession | acquire | peek | bind | release =>
      exact .inl pending
  | sessions | owners | records | store | objects | adapter | host => exact .inl pending

theorem made_present {place : Nat} {reading : Reading} {limit : Nat}
    {record : PreparedStatementRecord} {trail : Seen}
    {outcome : Outcome gatewayOps (World S) Request (.prepared (.create limit record))}
    {handle : String}
    (handled : ConfluxQuery.handle place reading (.prepared (.create limit record)) world =
      some outcome)
    (pending : Seen.unowned (⟨_, outcome.reply⟩ :: trail) = some handle) :
    (outcome.world.statement place handle).isSome = true := by
  obtain ⟨reply, after⟩ := handle_prepared handled
  rw [reply] at pending
  rw [World.statement, after]
  simp only [PreparedOp.perform, Seen.unowned] at pending ⊢
  split at pending
  · cases pending
  · next room =>
    cases pending
    rw [if_neg room, Registry.lookup_insert_ite]
    exact congrArg Option.isSome (if_pos rfl)

/-- A section poisons the lock only when it misses a statement. -/
theorem PreparedOp.perform_sound (now : Nat) (uuid : String) {registry : PreparedRegistry}
    {op : PreparedOp} (sound : registry.lock ≠ .poisoned)
    (owns : ∀ handle, op = .ownSession handle →
      (registry.statements.lookup handle).isSome = true) :
    (op.perform now uuid registry).2.lock ≠ .poisoned := by
  cases op with
  | ownSession handle =>
    obtain ⟨record, found⟩ := Option.isSome_iff_exists.mp (owns handle rfl)
    simp only [PreparedOp.perform, found]
    exact sound
  | acquire | release =>
    intro same
    cases same
  | create | touch | remove =>
    simp only [PreparedOp.perform]
    split <;> exact sound
  | retainUnexpired | insert | dropSession | peek | bind => exact sound

/-- While nothing removes an unowned statement, none is lost. -/
theorem unlost {store : S} (history : History (gatewayMachine S gateways) ownershipProtocol
    (SparesUnowned · · ·) (World.initial store) world past) : Unlost world past := by
  induction history with
  | initial => exact ⟨fun _ started => absurd started List.not_mem_nil, fun _ => nofun,
      fun _ _ done => by obtain ⟨_, _, member⟩ := done; exact absurd member List.not_mem_nil⟩
  | @arrives world past place request history client met step =>
    refine ⟨fun maker started stateless handle pending => ?_, step.sound, fun maker handle done =>
      step.found maker handle (done_enter.mp done)⟩
    rcases List.mem_cons.mp started with fresh | earlier
    · cases fresh
      have none : Seen.unowned (trailOf (calls past) past) = some handle := pending
      rw [history.trailOf_fresh] at none
      cases none
    · exact step.present maker earlier stateless handle pending
  | @returns world past actor result history known _ _ _ step =>
    refine ⟨fun maker started => step.present maker ((List.mem_cons.mp started).resolve_left nofun),
      step.sound, fun maker handle done => step.found maker handle (done_returned.mp done)⟩
  | @performs before past actor act input outcome history known _ allowed handled met step =>
    have handled : handle actor.place input act before = some outcome := handled
    -- The statement of a call that makes its statement an owner is there.
    have there : ∀ handle, act = .prepared (.ownSession handle) →
        (before.statement actor.place handle).isSome = true := fun handle same =>
      have ⟨stateless, pending⟩ := allowed handle same
      step.present actor known stateless handle pending
    refine ⟨fun maker started stateless handle pending => ?_, fun node => ?_,
      fun maker handle done => ?_⟩
    · rw [trailOf_begun] at pending
      have earlier := history.started_before known started fun idle => by
        rw [idle] at pending
        cases pending
      have stays : Seen.unowned (trailOf maker.thread past) = some handle →
          (outcome.world.statement maker.place handle).isSome = true := by
        intro unowned
        refine statement_stays handled (step.present maker earlier stateless handle unowned) ?_
        rintro op rfl here
        have spared := List.all_eq_true.mp met (.started maker) earlier
        simp only [stateless, here, BEq.rfl, Bool.and_self, Bool.not_true, Bool.false_or] at spared
        exact Option.all_eq_true _ _ |>.mp spared handle unowned
      rw [trailOf_did] at pending
      split at pending
      · next same =>
        obtain rfl := history.started_unique _ _ known earlier same
        rcases unowned_cons pending with unchanged | ⟨limit, record, rfl⟩
        · exact stays unchanged
        · exact made_present handled pending
      · exact stays pending
    · rcases handle_prepared_cases handled node with same | ⟨op, rfl, rfl, _, after⟩
      · rw [same]
        exact step.sound node
      · rw [after]
        exact PreparedOp.perform_sound _ _ (step.sound _) fun handle same =>
          there handle (congrArg Op.prepared same)
    · rcases done_did.mp done with ⟨rfl, same⟩ | earlier
      · obtain ⟨rfl, missed⟩ := Sigma.mk.inj_iff.mp same
        obtain ⟨record, found⟩ := Option.isSome_iff_exists.mp (there handle rfl)
        have reply := (handle_prepared handled).1
        rw [World.statement] at found
        rw [← eq_of_heq missed] at reply
        simp [PreparedOp.perform, found] at reply
      · exact step.found maker handle earlier

/-- While no section removes a statement between the one that made it without a session and the one
that makes it the owner of its session, no call misses its statement, and no lock of prepared
statements is ever poisoned. -/
theorem stateless_preparation_safe (gateways : Nat → Gateway) (store : S) (schedule : Schedule)
    (spared : RunMeets gateways (SparesUnowned · · ·) store schedule) (reached : Schedule)
    (earlier : reached <+: schedule) :
    (∀ node, ((gatewayRun gateways store reached).world.nodes node).prepared.lock ≠ .poisoned) ∧
      ∀ caller handle, ¬Done (gatewayRun gateways store reached).past caller
        (.prepared (.ownSession handle)) false := by
  obtain ⟨rest, rfl⟩ := earlier
  have unlost := unlost (Machine.run_history (ownership_obeys gateways) reached
    (Machine.meets_append.mp spared).1)
  exact ⟨unlost.sound, unlost.found⟩

end

namespace Sample

/-- A gateway whose prepared statements expire at once. -/
def forgetful : Gateway := { gateway none with limits := { preparedStatementTtl := 0 } }

/-- Alice prepares a statement without a session while a cleanup runs between the two sections. -/
def statelessThenCleanup : Schedule :=
  .start 0 (.call alice (.createStatelessPreparedStatement "demo" "select 1")) ::
    steps 0 20 reading ++ .start 0 .cleanupExpired :: steps 1 6 reading ++ steps 0 2 reading

end Sample

set_option maxRecDepth 20000 in
/-- Where statements live longer, the same cleanup spares the new one, and the call that made it
finds it. -/
theorem stateless_preparation_survives_cleanup :
    RunMeets (fun _ => Sample.gateway none) (SparesUnowned · · ·) (.empty : MemoryState Payload)
      Sample.statelessThenCleanup ∧
    (gatewayRun (fun _ => Sample.gateway none) (.empty : MemoryState Payload)
      Sample.statelessThenCleanup).world.statementCount 0 = 1 ∧
    ((gatewayRun (fun _ => Sample.gateway none) (.empty : MemoryState Payload)
      Sample.statelessThenCleanup).world.nodes 0).prepared.lock ≠ .poisoned := by
  have spared : RunMeets (fun _ => Sample.gateway none) (SparesUnowned · · ·)
      (.empty : MemoryState Payload) Sample.statelessThenCleanup := by
    decide +kernel
  exact ⟨spared, by decide +kernel,
    (stateless_preparation_safe _ _ _ spared _ List.prefix_rfl).1 0⟩

set_option maxRecDepth 20000 in
/-- A cleanup between the two sections removes a statement that expires at once; the second section
misses it and poisons the lock. -/
theorem cleanup_poisons_lock :
    ((gatewayRun (fun _ => Sample.forgetful) (.empty : MemoryState Payload)
      Sample.statelessThenCleanup).world.nodes 0).prepared.lock = .poisoned := by
  decide +kernel

end ConfluxQuery
