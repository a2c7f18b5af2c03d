import ConfluxQuery.Lib.Alone
import ConfluxQuery.Verif.SessionHistory

/-!
# Hydrated sessions

A session that reaches a node through the shared store is known there twice: as the snapshot in the
shared record, whose properties the writing node resolved, and as the session the node restores,
whose properties it resolves from its own configuration. The call that hydrates the session answers
with the first, every later one with the second. They agree just where the record has the properties
this node's target gives, and then all work in the session runs with the node's own configuration.
-/

namespace ConfluxQuery

/-- Two snapshots are the same, their properties and overrides as maps. -/
structure SessionSnapshot.Same (one other : SessionSnapshot) : Prop where
  id : one.id = other.id
  version : one.version = other.version
  target : one.target = other.target
  engine : one.engine = other.engine
  properties : one.properties.entries.Perm other.properties.entries
  overrides : one.overrides.entries.Perm other.overrides.entries

/-- A snapshot has the properties a configuration gives its target, overlaid by its overrides, if
the configuration has the target with the same engine. -/
def SessionSnapshot.configured (config : Config) (found : SessionSnapshot) : Bool :=
  (config.target found.target).all fun target =>
    target.engine != found.engine ||
      decide (found.properties.entries.Perm
        (Registry.extend target.exposed found.overrides).entries)

/-- A session on a configured target is captured with the properties of the configuration. -/
theorem snapshot_configured {config : Config} {session : Session}
    (named : config.target session.target.name = some session.target) :
    (snapshot session).configured config = true := by
  simp [SessionSnapshot.configured, snapshot, named]

/-- What a node restores from a snapshot is the snapshot just where its properties are those of the
node's configuration. -/
theorem restored_same_iff {config : Config} {shared : SessionSnapshot} {target : ResolvedTarget}
    (named : config.target shared.target = some target) (engine : target.engine = shared.engine) :
    shared.Same (snapshot ⟨shared.id, shared.version, target, shared.overrides⟩) ↔
      shared.configured config = true := by
  have name : target.name = shared.target := config.named _ _ named
  constructor
  · intro same
    simpa [SessionSnapshot.configured, named, engine, snapshot] using same.properties
  · intro configured
    simp only [SessionSnapshot.configured, named, engine, Option.all_some, bne_self_eq_false,
      Bool.false_or, decide_eq_true_eq] at configured
    exact ⟨rfl, rfl, name.symm, engine.symm, configured, List.Perm.refl _⟩

section

variable {S : Type} [ClusterStateStore S Payload]

open ClusterStateStore

/-- A node hydrates a session: it has no session of its own under the identifier, and the shared
record it reads names a target the node has with the same engine. -/
structure Hydrates (gateway : Gateway) (principal : AuthenticatedPrincipal) (place : Nat)
    (reading : Reading) (world : World S) (id : String) (shared : SharedSession)
    (target : ResolvedTarget) : Prop where
  /-- The node is part of a cluster. -/
  clustered : gateway.cluster.isSome = true
  reached : reading.fault = none
  /-- The node has no such session of the principal. -/
  absent : owns (world.nodes place).owners principal.id id = true →
    (world.nodes place).sessions.sessions.lookup id = none
  stored : ∃ resource, getResource reading.now "session" id principal.id world.store =
    .ok (some resource) ∧ resource.payload = .session shared
  named : gateway.config.target shared.snapshot.target = some target
  engine : target.engine = shared.snapshot.engine

variable {gateway : Gateway} {principal : AuthenticatedPrincipal} {place : Nat} {reading : Reading}
  {world : World S} {id : String} {shared : SharedSession} {target : ResolvedTarget}

namespace Call

variable {α : Type}

theorem sessions_alone (op : SessionOp) (next : op.Reply → Call α) :
    (sessions op >>= next).alone (handle place reading) world =
      (next (op.apply reading.minute (world.nodes place).sessions).1).alone (handle place reading)
        (world.setNode place { world.nodes place with
          sessions := (op.apply reading.minute (world.nodes place).sessions).2 }) := rfl

theorem owners_alone (op : OwnerOp) (next : op.Reply → Call α) :
    (owners op >>= next).alone (handle place reading) world =
      (next (op.apply reading.now (world.nodes place).owners).1).alone (handle place reading)
        (world.setNode place { world.nodes place with
          owners := (op.apply reading.now (world.nodes place).owners).2 }) := rfl

theorem store_alone (op : StoreOp) (next : Except ClusterError op.Answer → Call α) :
    (store op >>= next).alone (handle place reading) world =
      (next (op.apply reading.now reading.uuid reading.fault world.store).1).alone
        (handle place reading) { world with
          store := (op.apply reading.now reading.uuid reading.fault world.store).2 } := rfl

end Call

/-- A node without the session refuses to read it, and leaves the shared store as it is. -/
theorem session_missing (reading : Reading)
    (absent : owns (world.nodes place).owners principal.id id = true →
      (world.nodes place).sessions.sessions.lookup id = none) :
    ∃ error after, (Gateway.session principal id).alone (handle place reading) world =
      some (.error error, after) ∧ after.store = world.store := by
  unfold Gateway.session Gateway.requireSessionOwner
  rw [Prog.alone_bind, Call.owners_alone]
  simp only [OwnerOp.apply, Prog.alone_ensure]
  cases owned : owns (world.nodes place).owners principal.id id with
  | false => exact ⟨_, _, rfl, rfl⟩
  | true =>
    simp only [↓reduceIte, Option.bind_some, Prog.resume_ok]
    rw [Call.sessions_alone]
    simp only [SessionOp.apply, SessionManager.snapshot, World.setNode, Function.update_self,
      absent owned]
    exact ⟨_, _, rfl, rfl⟩

/-- Hydration answers the shared snapshot, and leaves the node a session of its own target. -/
theorem Hydrates.alone
    (hydrates : Hydrates gateway principal place reading world id shared target) :
    ∃ after, (gateway.sessionClustered principal id).alone (handle place reading) world =
        some (.ok shared.snapshot, after) ∧
      (after.nodes place).sessions.snapshot shared.snapshot.id = .ok (snapshot
        ⟨shared.snapshot.id, shared.snapshot.version, target, shared.snapshot.overrides⟩) := by
  obtain ⟨error, between, refused, kept⟩ := session_missing reading hydrates.absent
  obtain ⟨resource, read, payload⟩ := hydrates.stored
  have name : target.name = shared.snapshot.target := gateway.config.named _ _ hydrates.named
  unfold Gateway.sessionClustered
  rw [Prog.alone_bind, Prog.alone_attempt, refused, Option.map_some, Option.bind_some,
    Prog.resume_ok]
  simp only [hydrates.clustered]
  rw [Prog.alone_bind, Prog.alone_ensure]
  simp only [↓reduceIte, Option.bind_some, Prog.resume_ok]
  rw [Call.store_alone]
  simp only [StoreOp.apply, hydrates.reached, StoreOp.perform, kept, read]
  simp only [Call.shared, Except.mapError, Prog.alone_bind, Prog.alone_lift, Option.bind_some,
    Prog.resume_ok, Prog.alone_okOr, Option.elim_some, Call.decode, payload, Payload.asSession,
    hydrates.named]
  rw [← Prog.alone_bind, Call.sessions_alone]
  simp only [SessionOp.apply, SessionManager.restore, name, hydrates.engine, ne_eq,
    not_true_eq_false, or_self, if_false]
  refine ⟨_, rfl, ?_⟩
  simp [World.setNode, SessionManager.snapshot, SessionManager.put]

/-- A session stands on a target of the configuration, as the configuration has it. -/
def Session.OnTarget (config : Config) (session : Session) : Prop :=
  config.target session.target.name = some session.target

/-- An accepted or refused change keeps a session on a target when it changes to one at most. -/
theorem Session.OnTarget.revised {config : Config} {session : Session} {version : Nat}
    {change : Session → Session} (stands : session.OnTarget config)
    (changes : (change session).OnTarget config) :
    (Session.revised version change session).OnTarget config := by
  unfold Session.revised
  split
  · exact changes
  · exact stands

/-- Every section of the session manager a call may perform leaves sessions on targets of the node's
configuration. -/
theorem SessionOp.alter_onTarget {request : Request} {trail : Seen} {op : SessionOp}
    (allowed : op.Allowed gateway request trail) {known : Option Session}
    (stand : ∀ session, known = some session → session.OnTarget gateway.config) {session : Session}
    (altered : op.alter id known = some session) : session.OnTarget gateway.config := by
  have revised : ∀ {other : String} {version : Nat} {change : Session → Session},
      (if id = other then known.map (Session.revised version change) else known) = some session →
      (∀ session : Session, session.OnTarget gateway.config →
        (change session).OnTarget gateway.config) → session.OnTarget gateway.config := by
    intro other version change altered changes
    split at altered
    · obtain ⟨before, present, rfl⟩ := Option.map_eq_some_iff.mp altered
      exact (stand before present).revised (changes before (stand before present))
    · exact stand session altered
  cases op with
  | restore shared target =>
    obtain ⟨_, _, _, _, _, _, _, named⟩ := allowed
    simp only [SessionOp.alter] at altered
    split at altered
    · cases altered
      have name : target.name = shared.target := gateway.config.named _ _ named
      exact (congrArg _ name).trans named
    · exact stand session altered
  | nextSessionId | snapshot => exact stand session altered
  | insert inserted =>
    obtain ⟨_, _, _, _, _, named, _⟩ := allowed
    simp only [SessionOp.alter] at altered
    split at altered
    · cases altered
      exact named
    · exact stand session altered
  | close other =>
    simp only [SessionOp.alter] at altered
    split at altered
    · cases altered
    · exact stand session altered
  | setOptions other version values => exact revised altered fun _ stands => stands
  | switchTarget other version target =>
    obtain ⟨_, _, _, named, _⟩ := allowed
    exact revised altered fun _ _ => named
  | mutate other version target values =>
    obtain ⟨_, _, _, _, _, named⟩ := allowed
    refine revised altered fun before stands => ?_
    cases target with
    | none => exact stands
    | some target => exact (named target rfl).1

variable {gateways : Nat → Gateway} {guard : Guard S} {store : S} {past : Past S}

/-- Every session a node ever holds stands on a target of the node's configuration. -/
theorem sessions_onTarget
    (history : GatewayHistory gateways guard (World.initial store) world past) (node : Nat)
    {session : Session} (present : (world.nodes node).sessions.sessions.lookup id = some session) :
    session.OnTarget (gateways node).config := by
  induction history generalizing session with
  | initial => cases present
  | arrives _ _ _ _ _ step => exact step present
  | @performs before past actor act input outcome held known running allowed handled met step =>
    have handled : handle actor.place input act before = some outcome := handled
    by_cases here : node = actor.place
    · subst here
      cases act with
      | sessions op =>
        rw [(handle_sessions handled).2, SessionOp.apply_lookup] at present
        exact SessionOp.alter_onTarget allowed (fun _ => step) present
      | owners | records | prepared | store | objects | adapter | host =>
        rw [(handle_framed handled).sessions (by simp)] at present
        exact step present
    · rw [(handle_framed handled).nodes node here] at present
      exact step present
  | returns _ _ _ _ _ _ _ step => exact step present

/-- A snapshot a node has given of a session of its own has the properties of its configuration. -/
theorem read_configured (history : GatewayHistory gateways guard (World.initial store) world past)
    {caller : Caller} {found : SessionSnapshot}
    (read : Done past caller (.sessions (.snapshot found.id)) (.ok found)) :
    found.configured (gateways caller.place).config = true := by
  obtain ⟨input, before, member⟩ := read
  obtain ⟨newer, older, rfl⟩ := List.append_of_mem member
  obtain ⟨outcome, held, _, _, handled, replied, _⟩ := history.did_split
  have answered := (handle_sessions handled).1
  rw [replied] at answered
  simp only [SessionOp.apply, SessionManager.snapshot] at answered
  split at answered
  · next session present =>
    rw [Except.ok.inj answered]
    exact snapshot_configured (sessions_onTarget held caller.place present)
  · cases answered

/-- A node reads a shared session only where the record has the properties of the node's own
configuration. -/
def ReadsConfigured [LawfulStore S] (gateways : Nat → Gateway) (world : World S) :
    Upcoming gatewayOps Nat Reading Request ServiceError Answer → Bool
  | .performs actor (.store (.getResource kind id _)) _ =>
    kind != "session" || (LawfulStore.row world.store kind id).all fun row =>
      match row.payload with
      | .session shared => shared.snapshot.configured (gateways actor.place).config
      | _ => true
  | _ => true

/-- A snapshot a call has hydrated has the properties of its node's configuration, when the record
it read had them. -/
theorem hydrated_configured [LawfulStore S]
    (history : GatewayHistory gateways
      (fun world _ next => ReadsConfigured gateways world next = true)
      (World.initial store) world past)
    {caller : Caller} {owner permit : String} {found : SessionSnapshot} {resource : Resource}
    (read : Done past caller (.store (.getResource "session" id owner)) (.ok (some resource)))
    (payload : resource.payload = .session ⟨found, permit⟩) :
    found.configured (gateways caller.place).config = true := by
  obtain ⟨input, before, member⟩ := read
  obtain ⟨newer, older, rfl⟩ := List.append_of_mem member
  obtain ⟨outcome, _, _, _, handled, replied, met⟩ := history.did_split
  have handled : handle caller.place input (.store (.getResource "session" id owner)) before =
    some outcome := handled
  have answered := (handle_store handled).1
  rw [replied] at answered
  have performed := (StoreOp.apply_ok (Prod.ext answered.symm rfl)).2
  obtain ⟨stored, _, _⟩ := LawfulStore.get_some (Prod.mk.inj performed).1
  simpa [ReadsConfigured, stored, payload] using met

/-- A node that hydrates a session answers the snapshot its manager gives right afterwards just
where the shared record has the properties of the node's configuration. In every run in which nodes
read such records alone, all work handed to an engine runs in a snapshot with the properties of the
node's configuration, overlaid by the session's overrides. -/
theorem hydration_configured_iff [LawfulStore S] (gateways : Nat → Gateway) (store : S) :
    (∀ (gateway : Gateway) (principal : AuthenticatedPrincipal) (place : Nat) (reading : Reading)
      (world : World S) (id : String) (shared : SharedSession) (target : ResolvedTarget),
      Hydrates gateway principal place reading world id shared target →
      ∃ after again,
        (gateway.sessionClustered principal id).alone (handle place reading) world =
          some (.ok shared.snapshot, after) ∧
        (after.nodes place).sessions.snapshot shared.snapshot.id = .ok again ∧
        (shared.snapshot.Same again ↔ shared.snapshot.configured gateway.config = true)) ∧
    ∀ schedule : Schedule,
      RunMeets gateways (fun world _ next => ReadsConfigured gateways world next = true) store
        schedule →
      ∀ (caller : Caller) (op : AdapterOp) (reply : op.Reply),
        Done (gatewayRun gateways store schedule).past caller (.adapter op) reply →
        ∃ (principal : AuthenticatedPrincipal) (operation : Operation) (found : SessionSnapshot),
          caller.request = .call principal operation ∧
          Seen.Holds (trailOf caller.thread (gatewayRun gateways store schedule).past) principal.id
            found ∧
          op.context = found.context ∧ found.configured (gateways caller.place).config = true := by
  refine ⟨fun gateway principal place reading world id shared target hydrates => ?_,
    fun schedule met caller op reply handed => ?_⟩
  · obtain ⟨after, answered, again⟩ := hydrates.alone
    exact ⟨after, _, answered, again, restored_same_iff hydrates.named hydrates.engine⟩
  · have history := gatewayRun_history met
    have known := history.done_started handed
    obtain ⟨older, grown, allowed⟩ := history.done_allowed handed
    obtain ⟨principal, operation, found, called, holds, context⟩ := allowed
    have seen : ∀ {act : Op} {reply : act.Reply},
        Seen.Saw (trailOf caller.thread older) act reply →
        Done (gatewayRun gateways store schedule).past caller act reply :=
      history.done_of_trail_suffix known grown
    have longer : trailOf (S := gatewayOps) caller.thread older <:+
        trailOf caller.thread (gatewayRun gateways store schedule).past := by
      obtain ⟨newer, same⟩ := grown
      rw [← same, trailOf_append]
      exact List.suffix_append _ _
    refine ⟨principal, operation, found, called, holds.grow longer, context, ?_⟩
    cases holds with
    | cached found owned read => exact read_configured history (seen read)
    | hydrated found permit resource id read payload =>
      exact hydrated_configured history (seen read) payload
    | created session inserted =>
      obtain ⟨_, _, created⟩ := history.done_allowed (seen inserted)
      obtain ⟨_, _, _, _, _, named, _⟩ := created
      exact snapshot_configured named

end

namespace Sample

/-- A target with a password. -/
def secured (password : String) : ResolvedTarget :=
  target (AList.insert "password" ⟨password, true⟩ ∅)

/-- Two nodes of a cluster with a password of their own each. -/
def securedPair (one other : String) (node : Nat) : Gateway :=
  { pair node with config := config (secured (if node = 0 then one else other)) }

/-- Alice creates a session at the first node and submits two statements in it at the second. -/
def submitsElsewhere : Schedule :=
  call 0 0 15 (.createSessionClustered "demo" ∅) ++
    call 1 1 30 (.submitSessionQueryClustered "qcli_20260101_0000_01" "SELECT 1") ++
    call 1 4 30 (.submitSessionQueryClustered "qcli_20260101_0000_01" "SELECT 1")

/-- Passwords of the requests handed to an engine, the first request first. -/
def passwords (past : Past (MemoryState Payload)) : List (Option String) :=
  (past.filterMap fun
    | .did _ (.adapter op) _ _ _ => some (op.context.properties.lookup "password")
    | _ => none).reverse

/-- A request has been handed to an engine. -/
def hands (past : Past (MemoryState Payload)) : Bool := !(passwords past).isEmpty

/-- Such a request. -/
theorem hands_split {past : Past (MemoryState Payload)} (handed : hands past = true) :
    ∃ (caller : Caller) (op : AdapterOp) (reply : op.Reply),
      Done past caller (.adapter op) reply := by
  have some : passwords past ≠ [] := by simpa [hands] using handed
  obtain ⟨password, member⟩ := List.exists_mem_of_ne_nil _ some
  obtain ⟨moment, member, found⟩ := List.mem_filterMap.mp (List.mem_reverse.mp member)
  split at found
  · next caller op input reply before => exact ⟨caller, op, reply, input, before, member⟩
  · cases found

/-- A session of Alice in the shared store, with a password its writer resolved. -/
def writtenSession (password : String) : SharedSession :=
  ⟨snapshot ⟨"s", 1, secured password, ∅⟩, "permit"⟩

/-- Nodes that know nothing of a session in the shared store. -/
def awayFrom (password : String) : World (MemoryState Payload) :=
  ⟨fun _ => .initial, (ClusterStateStore.putResource 0
    ⟨"s", "alice", "session", 0, .session (writtenSession password), 1000⟩ (some 0)
    (MemoryState.empty : MemoryState Payload)).2, ∅⟩

theorem awayFrom_hydrates (one other : String) :
    Hydrates (securedPair one other 1) alice 1 reading (awayFrom one) "s" (writtenSession one)
      (secured other) where
  clustered := rfl
  reached := rfl
  absent := nofun
  stored := ⟨_, rfl, rfl⟩
  named := rfl
  engine := rfl

end Sample

set_option maxRecDepth 20000 in
/-- Nodes of the same password: the second hydrates what it then holds, and its work runs with the
properties of its configuration. -/
theorem hydration_same_password :
    (∃ after again,
      ((Sample.securedPair "old" "old" 1).sessionClustered Sample.alice "s").alone
          (handle 1 Sample.reading) (Sample.awayFrom "old") =
        some (.ok (Sample.writtenSession "old").snapshot, after) ∧
      (after.nodes 1).sessions.snapshot "s" = .ok again ∧
      ((Sample.writtenSession "old").snapshot.Same again ↔
        (Sample.writtenSession "old").snapshot.configured
          (Sample.securedPair "old" "old" 1).config = true)) ∧
    ∃ (caller : Caller) (op : AdapterOp) (found : SessionSnapshot), op.context = found.context ∧
      found.configured (Sample.securedPair "old" "old" caller.place).config = true := by
  have met : RunMeets (S := MemoryState Payload) (Sample.securedPair "old" "old")
      (fun world _ next => ReadsConfigured (Sample.securedPair "old" "old") world next = true)
      .empty Sample.submitsElsewhere := by
    decide +kernel
  have handed : Sample.hands (gatewayRun (Sample.securedPair "old" "old")
      (.empty : MemoryState Payload) Sample.submitsElsewhere).past = true := by
    decide +kernel
  obtain ⟨caller, op, reply, done⟩ := Sample.hands_split handed
  have both := hydration_configured_iff (Sample.securedPair "old" "old")
    (.empty : MemoryState Payload)
  refine ⟨both.1 _ _ _ _ _ _ _ _ (Sample.awayFrom_hydrates "old" "old"), caller, op, ?_⟩
  obtain ⟨_, _, found, _, _, context, configured⟩ := both.2 _ met caller op reply done
  exact ⟨found, context, configured⟩

set_option maxRecDepth 20000 in
/-- Nodes of different passwords: the second node answers the hydrated session with the password of
the first node and then holds it with its own, and its first statement in the session runs with the
one, the next with the other. -/
theorem hydration_rotated_password :
    (∃ after again,
      ((Sample.securedPair "old" "new" 1).sessionClustered Sample.alice "s").alone
          (handle 1 Sample.reading) (Sample.awayFrom "old") =
        some (.ok (Sample.writtenSession "old").snapshot, after) ∧
      (after.nodes 1).sessions.snapshot "s" = .ok again ∧
      (Sample.writtenSession "old").snapshot.properties.lookup "password" = some "old" ∧
      again.properties.lookup "password" = some "new") ∧
    Sample.passwords (gatewayRun (Sample.securedPair "old" "new") (.empty : MemoryState Payload)
      Sample.submitsElsewhere).past = [some "old", some "new"] := by
  constructor
  · obtain ⟨after, answered, again⟩ := (Sample.awayFrom_hydrates "old" "new").alone
    exact ⟨after, _, answered, again, by decide +kernel, by decide +kernel⟩
  · decide +kernel

end ConfluxQuery
