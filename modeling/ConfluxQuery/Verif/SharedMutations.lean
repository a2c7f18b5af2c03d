import ConfluxQuery.Verif.SessionHistory
import ConfluxQuery.Verif.Footprints

/-!
# Shared mutations that fail

A mutation of a session in the cluster changes the node's own copy first and then writes the new
snapshot over the shared record it reads. Each of the two calls of the store can fail after the
local change was accepted, and nothing takes the change back. A mutation that fails before that
point leaves both copies as they were.
-/

namespace ConfluxQuery

/-- The operation is an accepted change of a session. -/
def Op.accepts : (op : Op) → op.Reply → Bool
  | .sessions (.mutate _ _ _ _), .ok _ => true
  | _, _ => false

/-- The call has changed a session. -/
def Seen.accepted (trail : Seen) : Bool := trail.any fun entry => Op.accepts entry.1 entry.2

/-- The session a request mutates in the cluster, if it does. -/
def Request.shares : Request → Option (String × String)
  | .call principal operation => operation.sharedMutation.map fun mutation =>
    (principal.id, mutation.1)
  | _ => none

/-- Operations by which a call may change a session or a shared record. -/
def Op.mutating : Op → Bool
  | .sessions (.snapshot _) | .sessions (.restore _ _) => false
  | .sessions _ => true
  | .store (.getResource _ _ _) => false
  | .store _ => true
  | _ => false

/-- What a mutation keeps to: it changes a session by its own mutation alone, and writes to the
shared store only after that was accepted. -/
def Op.Mutates (trail : Seen) : Op → Prop
  | .sessions (.snapshot _) | .sessions (.restore _ _) | .sessions (.mutate _ _ _ _) => True
  | .sessions _ => False
  | .store (.getResource _ _ _) => True
  | .store (.putResource _ _) => trail.accepted = true
  | .store _ => False
  | _ => True

/-- How a mutation fails after its change was accepted: the shared record could not be read, is gone
or does not decode, or could not be written. -/
inductive Unshared (principal id : String) : Seen → Prop
  | unread (error : ClusterError) (rest : Seen) (changed : rest.accepted = true) :
      Unshared principal id (⟨.store (.getResource "session" id principal), .error error⟩ :: rest)
  | missing (rest : Seen) (changed : rest.accepted = true) :
      Unshared principal id (⟨.store (.getResource "session" id principal), .ok none⟩ :: rest)
  | undecoded (resource : Resource) (rest : Seen) (changed : rest.accepted = true)
      (payload : resource.payload.asSession.isOk = false) :
      Unshared principal id
        (⟨.store (.getResource "session" id principal), .ok (some resource)⟩ :: rest)
  | unwritten (resource : Resource) (expected : Option Nat) (error : ClusterError) (rest : Seen) :
      Unshared principal id (⟨.store (.putResource resource expected), .error error⟩ :: rest)

/-- What every mutation in the cluster keeps to. -/
def mutationProtocol : Protocol gatewayOps Nat Request ServiceError Answer where
  allowed := fun _ request (trail : Seen) act => request.shares.isSome = true → act.Mutates trail
  possible _ _ := True
  post := fun _ request (trail : Seen) outcome => ∀ principal id,
    request.shares = some (principal, id) → outcome.isOk = false → trail.accepted = true →
      Unshared principal id trail

/-- The rule of one mutation. -/
def mutationRule : Rule gatewayOps := ⟨fun trail act => Op.Mutates trail act, fun _ _ => True⟩

section

variable {trail : Seen} {α : Type}

/-- An operation that changes nothing is always allowed. -/
theorem mutates_of_not (trail : Seen) (act : Op) (plain : act.mutating = false) :
    act.Mutates trail := by
  cases act with
  | sessions op => cases op <;> trivial
  | store op => cases op <;> trivial
  | owners | records | prepared | objects | adapter | host => trivial

theorem accepted_append {newer : Seen} (plain : ∀ entry ∈ newer, Op.mutating entry.1 = false) :
    Seen.accepted (newer ++ trail) = trail.accepted := by
  have silent : newer.accepted = false := by
    refine List.any_eq_false.mpr fun entry member accepts => ?_
    have other := plain entry member
    obtain ⟨act, reply⟩ := entry
    cases act with
    | sessions op =>
      cases op with
      | mutate => cases other
      | _ => cases accepts
    | owners | records | prepared | store | objects | adapter | host => cases accepts
  rw [Seen.accepted, List.any_append]
  exact (congrArg (· || _) silent).trans (Bool.false_or _)

theorem mutates_of_avoids {prog : Call α} (avoids : prog.Avoids Op.mutating) {changed : Bool}
    (before : trail.accepted = changed) :
    Follows mutationRule prog trail fun after _ => Seen.accepted after = changed :=
  avoids.follows mutates_of_not fun _ _ plain => (accepted_append plain).trans before

end

namespace Gateway

variable {gateway : Gateway} {principal : AuthenticatedPrincipal} {trail : Seen}

variable {id : String}

/-- Reading a session in the cluster changes nothing but what it hydrates. -/
theorem sessionClustered_avoids_mutating :
    (gateway.sessionClustered principal id).Avoids Op.mutating := by
  simp only [sessionClustered, Prog.Avoids.bind_iff]
  refine ⟨by simp [session, requireSessionOwner, Op.mutating, Call.core], fun outcome _ => ?_⟩
  cases outcome with
  | ok found => simp
  | error reason => simp [Op.mutating, Call.core, Call.shared, Call.decode]

/-- Changing the node's own copy keeps to the rule, and accepts the change when it succeeds. -/
theorem mutateSession_mutates {version : Nat} {name : Option String}
    {values : Registry String (Option String)} (before : trail.accepted = false) :
    Follows mutationRule (gateway.mutateSession principal id version name values) trail
      fun after outcome => Seen.accepted after = outcome.isOk := by
  have available : ensureAvailable.Avoids Op.mutating := by simp [ensureAvailable, Op.mutating]
  have owner : (requireSessionOwner principal id).Avoids Op.mutating := by
    simp [requireSessionOwner, Op.mutating]
  have named : (gateway.namedTarget principal name).Avoids Op.mutating := by
    cases name <;> simp [namedTarget, authorizedTarget]
  unfold mutateSession
  refine (mutates_of_avoids available before).bind (fun after _ _ before => ?_)
    fun _ _ _ before => before
  refine (mutates_of_avoids owner before).bind (fun after _ _ before => ?_)
    fun _ _ _ before => before
  refine (mutates_of_avoids named before).bind (fun after target _ before => ?_)
    fun _ _ _ before => before
  refine Follows.perform trivial fun reply _ => ?_
  cases reply with
  | ok changed => rfl
  | error reason => exact before

/-- Sharing a change keeps to the rule, and fails in one of few ways. -/
theorem shareMutation_mutates {changed : SessionSnapshot} (after : trail.accepted = true) :
    Follows mutationRule (gateway.shareMutation principal id changed) trail
      fun longer outcome => outcome.isOk = false → Unshared principal.id id longer := by
  unfold shareMutation
  refine Follows.perform trivial fun reply _ => ?_
  cases reply with
  | error error => exact fun _ => .unread error trail after
  | ok found =>
    cases found with
    | none => exact fun _ => .missing trail after
    | some resource =>
      refine Follows.bind_iff.mpr (Follows.lift_iff.mpr ?_)
      refine Follows.bind_iff.mpr (Follows.okOr_iff.mpr ⟨fun other same => ?_, nofun⟩)
      cases same
      refine Follows.bind_iff.mpr (Follows.lift_iff.mpr ?_)
      cases payload : resource.payload.asSession with
      | error message => exact fun _ => .undecoded resource trail after (by rw [payload]; rfl)
      | ok shared =>
        refine Follows.perform trivial fun now _ => Follows.perform ?_ fun reply _ => ?_
        · exact after
        cases reply with
        | error error => exact fun _ => .unwritten _ _ error _
        | ok stored => exact fun failed => by cases failed

theorem mutateSessionClustered_mutates {version : Nat} {name : Option String}
    {values : Registry String (Option String)} :
    Follows mutationRule (gateway.mutateSessionClustered principal id version name values) []
      fun after outcome => outcome.isOk = false → Seen.accepted after = true →
        Unshared principal.id id after := by
  unfold mutateSessionClustered
  have start : Seen.accepted [] = false := rfl
  refine (mutates_of_avoids sessionClustered_avoids_mutating start).bind
    (fun after _ _ before => ?_) fun _ _ _ before _ changed => absurd
    (before.symm.trans changed) nofun
  refine (mutateSession_mutates before).bind (fun after changed _ accepted => ?_)
    fun _ _ _ refused _ changed => absurd (refused.symm.trans changed) nofun
  cases gateway.cluster with
  | none => exact fun failed => by cases failed
  | some cluster =>
    exact (shareMutation_mutates accepted).bind (fun _ _ _ _ failed => by cases failed)
      fun _ _ _ unshared failed _ => unshared failed

end Gateway

theorem mutation_obeys {S : Type} [ClusterStateStore S Payload] (gateways : Nat → Gateway) :
    (gatewayMachine S gateways).Obeys mutationProtocol where
  follows place request := by
    have free : request.shares = none → Follows (mutationProtocol.rule place request)
        ((gateways place).program request) [] (mutationProtocol.post place request) := by
      intro other
      refine ((Prog.Keeps.free (fun _ _ shares => ?_) _).follows []).mono
        fun _ _ _ _ principal id shares => ?_
      · rw [other] at shares
        cases shares
      · rw [other] at shares
        cases shares
    have mutates : ∀ {principal : AuthenticatedPrincipal} {id : String} {version : Nat}
        {name : Option String} {values : Registry String (Option String)},
        request.shares = some (principal.id, id) →
        Follows (mutationProtocol.rule place request) (Answer.session <$>
          (gateways place).mutateSessionClustered principal id version name values) []
          (mutationProtocol.post place request) := by
      intro principal id version name values shares
      refine Follows.map_iff.mpr ((Gateway.mutateSessionClustered_mutates.imp
        (fun _ _ held _ => held) fun _ _ _ => trivial).mono ?_)
      intro after outcome _ unshared other named same failed
      rw [shares, Option.some.injEq, Prod.mk.injEq] at same
      obtain ⟨rfl, rfl⟩ := same
      refine unshared ?_
      cases outcome <;> exact failed
    cases request with
    | call principal operation =>
      cases operation with
      | mutateSessionClustered | updateSessionClustered | switchTargetClustered =>
        exact mutates rfl
      | _ => exact free rfl
    | beginShutdown | cleanupExpired | task => exact free rfl
  replies _ _ _ _ _ _ := trivial

section

variable {S : Type} [ClusterStateStore S Payload]

/-- A read has found a shared session. -/
def findsSession : Except ClusterError (Option Resource) → Bool
  | .ok (some resource) => resource.payload.asSession.isOk
  | _ => false

/-- Mutations reach the shared store: after an accepted change the shared record is read and written
without a failure, and a session is hydrated only where the node has none. -/
def SharesChanges (world : World S) (past : Past S) :
    Upcoming gatewayOps Nat Reading Request ServiceError Answer → Bool
  | .performs caller (.store (.getResource kind id principal)) input =>
    !(caller.request.shares.isSome && Seen.accepted (trailOf caller.thread past)) ||
      (input.fault.isNone &&
        findsSession (ClusterStateStore.getResource input.now kind id principal world.store))
  | .performs caller (.store (.putResource resource expected)) input =>
    !caller.request.shares.isSome || (input.fault.isNone &&
      (ClusterStateStore.putResource input.now resource expected world.store).1.isOk)
  | .performs caller (.sessions (.restore shared _)) _ =>
    !caller.request.shares.isSome || (world.session caller.place shared.id).isNone
  | _ => true

variable {input : Reading}

/-- A call of the store that does not fail on the way has the store's own reply. -/
theorem store_replied {place : Nat} {op : StoreOp} {world : World S}
    {outcome : Outcome gatewayOps (World S) Request (.store op)}
    (handled : handle place input (.store op) world = some outcome) (reached : input.fault = none) :
    outcome.reply = (op.perform input.now input.uuid world.store).1 := by
  rw [(handle_store handled).1, reached]
  rfl

/-- Histories of gateways whose mutations keep to the protocol. -/
abbrev MutationHistory (gateways : Nat → Gateway) (store : S) (world : World S) (past : Past S) :
    Prop :=
  History (gatewayMachine S gateways) ((gatewayProtocol gateways).both mutationProtocol)
    (SharesChanges · · ·) (World.initial store) world past

variable {gateways : Nat → Gateway} {store : S} {world : World S} {past : Past S} {caller : Caller}
  {principal id : String}

/-- Where mutations reach the shared store, none fails after its change was accepted. -/
theorem not_unshared (history : MutationHistory gateways store world past)
    (known : .started caller ∈ past) (shares : caller.request.shares = some (principal, id)) :
    ¬Unshared principal id (trailOf caller.thread past) := by
  have sharing : caller.request.shares.isSome = true := by rw [shares]; rfl
  have read : ∀ {reply : Except ClusterError (Option Resource)} {rest : Seen},
      trailOf caller.thread past = ⟨.store (.getResource "session" id principal), reply⟩ :: rest →
      rest.accepted = true → findsSession reply = true := by
    intro reply rest newest changed
    obtain ⟨newer, older, input, before, outcome, _, tail, handled, replied, met⟩ :=
      history.newest known newest
    have met : (!(caller.request.shares.isSome && Seen.accepted (trailOf caller.thread older)) ||
      (input.fault.isNone && findsSession (ClusterStateStore.getResource input.now "session" id
        principal before.store))) = true := met
    rw [sharing, tail, changed] at met
    simp only [Bool.and_self, Bool.not_true, Bool.false_or, Bool.and_eq_true,
      Option.isNone_iff_eq_none] at met
    have handled : handle caller.place input (.store (.getResource "session" id principal)) before =
      some outcome := handled
    rw [← replied, store_replied handled met.1]
    exact met.2
  have written : ∀ {resource : Resource} {expected : Option Nat}
      {reply : Except ClusterError Resource} {rest : Seen},
      trailOf caller.thread past = ⟨.store (.putResource resource expected), reply⟩ :: rest →
      reply.isOk = true := by
    intro resource expected reply rest newest
    obtain ⟨newer, older, input, before, outcome, _, tail, handled, replied, met⟩ :=
      history.newest known newest
    have met : (!caller.request.shares.isSome || (input.fault.isNone &&
      (ClusterStateStore.putResource input.now resource expected before.store).1.isOk)) = true :=
      met
    rw [sharing] at met
    simp only [Bool.not_true, Bool.false_or, Bool.and_eq_true, Option.isNone_iff_eq_none] at met
    have handled : handle caller.place input (.store (.putResource resource expected)) before =
      some outcome := handled
    rw [← replied, store_replied handled met.1]
    exact met.2
  intro unshared
  generalize same : trailOf caller.thread past = trail at unshared
  cases unshared with
  | unread error rest changed => cases read same changed
  | missing rest changed => cases read same changed
  | undecoded resource rest changed payload =>
    exact absurd (payload.symm.trans (read same changed)) nofun
  | unwritten resource expected error rest => cases written same

/-- Where mutations reach the shared store, a mutation that fails has changed no session. -/
theorem failed_unaccepted (history : MutationHistory gateways store world past)
    (shares : caller.request.shares = some (principal, id)) {error : ServiceError}
    (returned : .returned caller (.error error) ∈ past) :
    Seen.accepted (trailOf caller.thread past) = false := by
  obtain ⟨newer, older, rfl⟩ := List.append_of_mem returned
  obtain ⟨_, held, known, _, _, post⟩ := history.returned_split
  rw [history.trailOf_returned]
  by_contra accepted
  exact not_unshared held known shares (post principal id shares rfl (by simpa using accepted))

theorem mutate_refused {place version : Nat} {target : Option ResolvedTarget}
    {values : Registry String (Option String)}
    {outcome : Outcome gatewayOps (World S) Request (.sessions (.mutate id version target values))}
    (handled : handle place input (.sessions (.mutate id version target values)) world =
      some outcome)
    (refused : Op.accepts (.sessions (.mutate id version target values)) outcome.reply = false)
    (node : Nat) (key : String) : outcome.world.session node key = world.session node key := by
  obtain ⟨replied, after⟩ := handle_sessions handled
  by_cases here : node = place
  · subst here
    cases result : (SessionOp.mutate id version target values).apply input.minute
        (world.nodes node).sessions with
    | mk reply manager =>
      rw [result] at replied after
      cases reply with
      | ok changed =>
        rw [replied] at refused
        cases refused
      | error reason => rw [World.session, after, SessionManager.update_error result, World.session]
  · rw [World.session, (handle_framed handled).nodes node here, World.session]

/-- A step of a mutation that changes no session and writes no shared record leaves every session
the node has, and every shared record. -/
theorem unaccepted_step [LawfulStore S] (history : MutationHistory gateways store world past)
    (shares : caller.request.shares = some (principal, id))
    (unaccepted : Seen.accepted (trailOf caller.thread past) = false) {act : Op} {reply : act.Reply}
    {before : World S} {outcome : Outcome gatewayOps (World S) Request act}
    (did : .did caller act input reply before ∈ past)
    (handled : handle caller.place input act before = some outcome) :
    (∀ node key, outcome.world.session node key = before.session node key ∨
      before.session node key = none ∧ ∃ shared target,
        act = .sessions (.restore shared target) ∧ node = caller.place ∧ key = shared.id) ∧
    LawfulStore.row outcome.world.store = LawfulStore.row before.store := by
  obtain ⟨newer, older, rfl⟩ := List.append_of_mem did
  obtain ⟨performed, held, known, ⟨_, mutates⟩, again, replied, met⟩ := history.did_split
  obtain rfl : performed = outcome := Option.some.inj (again.symm.trans handled)
  have sharing : caller.request.shares.isSome = true := by rw [shares]; rfl
  have mutates := mutates sharing
  -- Nothing of the whole trail was accepted, so nothing of any part of it.
  have within : ∀ {entry : Sigma Op.Reply}, entry ∈ trailOf (S := gatewayOps) caller.thread
      (newer ++ .did caller act input reply before :: older) →
      Op.accepts entry.1 entry.2 = false := fun member =>
    Bool.eq_false_iff.mpr (List.any_eq_false.mp unaccepted _ member)
  have framed := handle_framed handled
  cases act with
  | sessions op =>
    refine ⟨fun node key => ?_, congrArg LawfulStore.row (framed.store (by simp))⟩
    rcases handle_session_cases handled node key with same | ⟨sub, same, rfl, altered⟩
    · exact .inl same
    cases same
    cases op with
    | snapshot => exact .inl altered
    | restore shared target =>
      by_cases named : key = shared.id
      · have absent : (!caller.request.shares.isSome ||
            (before.session caller.place shared.id).isNone) = true := met
        rw [sharing, Bool.not_true, Bool.false_or, Option.isNone_iff_eq_none] at absent
        exact .inr ⟨named ▸ absent, shared, target, rfl, rfl, named⟩
      · exact .inl (altered.trans (if_neg fun same => named same.1))
    | mutate id version target values =>
      have refused := within (History.trail_of_did did)
      exact .inl (mutate_refused handled (replied ▸ refused) _ _)
    | nextSessionId | insert | setOptions | switchTarget | close => exact mutates.elim
  | store op =>
    refine ⟨fun node key => .inl ?_, ?_⟩
    · rcases handle_session_cases handled node key with same | ⟨sub, impossible, _⟩
      · exact same
      · cases impossible
    cases op with
    | getResource kind key owner =>
      rw [(handle_store handled).2]
      unfold StoreOp.apply
      split <;> rfl
    | putResource resource expected =>
      obtain ⟨entry, member, accepts⟩ := List.any_eq_true.mp mutates
      rw [within] at accepts
      · cases accepts
      · rw [trailOf_append, trailOf_did, if_pos rfl]
        exact List.mem_append_right _ (List.mem_cons_of_mem _ member)
    | deleteResource | claimQuery | renewQuery | releaseQuery | acquireQuota | releaseQuota =>
      exact mutates.elim
  | owners | records | prepared | objects | adapter | host =>
    refine ⟨fun node key => .inl ?_, congrArg LawfulStore.row (framed.store (by simp))⟩
    rcases handle_session_cases handled node key with same | ⟨sub, impossible, _⟩
    · exact same
    · cases impossible

/-- In every run in which mutations reach the shared store after an accepted change, a mutation in
the cluster that fails leaves the node's sessions and the shared records as they were, step by step:
no step of it changes a session the node has or a shared record, and a session the node does not
have is at most hydrated from the shared record the call has read. -/
theorem failed_mutation_leaves [LawfulStore S] (gateways : Nat → Gateway) (store : S)
    (schedule : Schedule) (reached : RunMeets gateways (SharesChanges · · ·) store schedule)
    {caller : Caller} {principal : AuthenticatedPrincipal} {operation : Operation}
    {mutation : String × Nat × Option String × Registry String (Option String)}
    (called : caller.request = .call principal operation)
    (mutates : operation.sharedMutation = some mutation) {error : ServiceError}
    (returned : .returned caller (.error error) ∈ (gatewayRun gateways store schedule).past)
    {act : Op} {input : Reading} {reply : act.Reply} {before : World S}
    {outcome : Outcome gatewayOps (World S) Request act}
    (did : .did caller act input reply before ∈ (gatewayRun gateways store schedule).past)
    (handled : handle caller.place input act before = some outcome) :
    (∀ node key, outcome.world.session node key = before.session node key ∨
      before.session node key = none ∧ ∃ shared target id resource permit,
        act = .sessions (.restore shared target) ∧ node = caller.place ∧ key = shared.id ∧
        Done (gatewayRun gateways store schedule).past caller
          (.store (.getResource "session" id principal.id)) (.ok (some resource)) ∧
        resource.payload = .session ⟨shared, permit⟩) ∧
    LawfulStore.row outcome.world.store = LawfulStore.row before.store := by
  have history : MutationHistory gateways store (gatewayRun gateways store schedule).world
      (gatewayRun gateways store schedule).past := Machine.run_history
    ((gateway_obeys gateways).both (mutation_obeys gateways)) schedule reached
  have shares : caller.request.shares = some (principal.id, mutation.1) := by
    rw [called, Request.shares, mutates]
    rfl
  obtain ⟨sessions, rows⟩ := unaccepted_step history shares
    (failed_unaccepted history shares returned) did handled
  refine ⟨fun node key => (sessions node key).imp_right ?_, rows⟩
  rintro ⟨absent, shared, target, rfl, here, named⟩
  have known := history.did_started did
  obtain ⟨older, grown, allowed, _⟩ := history.done_allowed ⟨input, before, did⟩
  obtain ⟨owner, id, resource, permit, acts, ⟨rest, newest⟩, payload, _⟩ := allowed
  have same : principal = owner := by
    rw [called] at acts
    exact Option.some.inj acts
  subst same
  refine ⟨absent, shared, target, id, resource, permit, rfl, here, named, ?_, payload⟩
  exact history.done_of_trail_suffix known grown (newest ▸ List.mem_cons_self)

end

/-- Alice creates a session in the cluster. -/
def Sample.sharedSession : Schedule := call 0 0 15 (.createSessionClustered "demo" ∅)

/-- Alice sets a property of the session, expecting a version. -/
def Sample.settingZone (version : Nat) : Operation :=
  .updateSessionClustered "qcli_20260101_0000_01" version (AList.insert "zone" "UTC" ∅)

/-- A mutation in the cluster is among the calls that have failed. -/
def Sample.failsMutation (past : Past (MemoryState Payload)) : Bool :=
  past.any fun
    | .returned ⟨_, _, .call _ operation⟩ (.error _) => operation.sharedMutation.isSome
    | _ => false

/-- Such a mutation. -/
theorem Sample.failsMutation_split {past : Past (MemoryState Payload)}
    (fails : failsMutation past = true) :
    ∃ (caller : Caller) (principal : AuthenticatedPrincipal) (operation : Operation)
      (mutation : String × Nat × Option String × Registry String (Option String))
      (error : ServiceError), caller.request = .call principal operation ∧
      operation.sharedMutation = some mutation ∧ .returned caller (.error error) ∈ past := by
  obtain ⟨moment, member, found⟩ := List.any_eq_true.mp fails
  split at found
  · next thread place principal operation error =>
    obtain ⟨mutation, mutates⟩ := Option.isSome_iff_exists.mp found
    exact ⟨_, principal, operation, mutation, error, rfl, mutates, member⟩
  · cases found

set_option maxRecDepth 20000 in
/-- A mutation that names a stale version fails, and no step of it writes a shared record. -/
theorem stale_mutation_writes_nothing :
    ∃ (caller : Caller) (error : ServiceError),
      .returned caller (.error error) ∈ (gatewayRun (fun _ => Sample.gateway (some ⟨"a", 1000⟩))
        (.empty : MemoryState Payload)
        (Sample.sharedSession ++ Sample.call 0 1 8 (Sample.settingZone 7))).past ∧
      ∀ act input reply before outcome,
        .did caller act input reply before ∈ (gatewayRun
          (fun _ => Sample.gateway (some ⟨"a", 1000⟩)) (.empty : MemoryState Payload)
          (Sample.sharedSession ++ Sample.call 0 1 8 (Sample.settingZone 7))).past →
        handle caller.place input act before = some outcome →
        LawfulStore.row outcome.world.store = LawfulStore.row before.store := by
  have reached : RunMeets (S := MemoryState Payload) (fun _ => Sample.gateway (some ⟨"a", 1000⟩))
      (SharesChanges · · ·) .empty
      (Sample.sharedSession ++ Sample.call 0 1 8 (Sample.settingZone 7)) := by
    decide +kernel
  have fails : Sample.failsMutation (gatewayRun (fun _ => Sample.gateway (some ⟨"a", 1000⟩))
      (.empty : MemoryState Payload)
      (Sample.sharedSession ++ Sample.call 0 1 8 (Sample.settingZone 7))).past = true := by
    decide +kernel
  obtain ⟨caller, principal, operation, mutation, error, called, mutates, returned⟩ :=
    Sample.failsMutation_split fails
  refine ⟨caller, error, returned, fun act input reply before outcome did handled => ?_⟩
  exact (failed_mutation_leaves _ _ _ reached called mutates returned did handled).2

/-- The version of the session at node zero and the version its shared record shows. -/
def Sample.bothVersions (pool : GatewayPool (MemoryState Payload)) : Option Nat × Option Nat :=
  ((pool.world.session 0 "qcli_20260101_0000_01").map Session.version,
    (LawfulStore.row pool.world.store "session" "qcli_20260101_0000_01").bind fun row =>
      row.payload.asSession.toOption.map fun shared => shared.snapshot.version)

set_option maxRecDepth 20000 in
/-- A mutation whose change was accepted cannot reach the store and fails: the node's session has
moved on, and the shared record has not. -/
theorem failed_mutation_keeps_change :
    let before := Sample.run (some ⟨"a", 1000⟩) Sample.sharedSession
    let after := Sample.run (some ⟨"a", 1000⟩) (Sample.sharedSession ++
      Sample.call 0 1 5 (Sample.settingZone 1) ++ Sample.steps 1 3 Sample.unreachable)
    Sample.bothVersions before = (some 1, some 1) ∧ Sample.failsMutation before.past = false ∧
      Sample.failsMutation after.past = true ∧
      Sample.bothVersions after = (some 2, some 1) := by
  decide +kernel

end ConfluxQuery
