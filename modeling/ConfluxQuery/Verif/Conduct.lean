import ConfluxQuery.Verif.EventHistory

/-!
# What gateways keep to

Guarantees about every run of any number of gateways over a lawful store, whatever the schedule and
whatever the environment decides. They say on whose behalf a call works with a query, a session, an
engine or the shared store.
-/

namespace ConfluxQuery

variable {S : Type} [ClusterStateStore S Payload]

section

variable {gateways : Nat → Gateway} {guard : Guard S} {world₀ world : World S} {past : Past S}
  {caller : Caller}

/-- What was performed was allowed by what the same call has performed. -/
theorem done_rightly (history : GatewayHistory gateways guard world₀ world past) {act : Op}
    {reply : act.Reply} (done : Done past caller act reply) :
    ∃ seen : Seen, act.Allowed (gateways caller.place) caller.request seen ∧
      ∀ {act : Op} {reply : act.Reply}, seen.Saw act reply → Done past caller act reply := by
  obtain ⟨older, suffix, allowed⟩ := history.done_allowed done
  exact ⟨_, allowed, history.done_of_trail_suffix (history.done_started done) suffix⟩

end

/-- The record under a reference at the caller's process belongs to the caller's principal. -/
def Owns (world : World S) (caller : Caller) (reference : Nat) : Prop :=
  ∃ principal record, caller.request.principal = some principal ∧
    world.record caller.place reference = some record ∧ record.owner = principal.id

/-- The record a section is about, when it is about one. -/
def RecordOp.subject : RecordOp → Option Nat
  | cancel reference | inspect reference | pushEvent reference _ _ | setEngineQueryId reference _
  | collectBatch _ reference _ | finishResults reference | setError reference _
  | setErrorIfNone reference _ => some reference
  | len | countActive _ | activeQueryCount | insert _ | findOwned _ _ | cancelSession _
  | cancelActive | retainUnexpired _ _ => none

/-- Whoever reads or changes one query's record collects that query or acts for its owner. -/
def RecordsUsedRightly (pool : GatewayPool S) : Prop :=
  ∀ caller op reply reference, Done pool.past caller (.records op) reply →
    op.subject = some reference →
      caller.request.Collects reference ∨ Owns pool.world caller reference

section

variable {gateways : Nat → Gateway} {guard : Guard S} {store : S} {world : World S} {past : Past S}
  {caller : Caller} {reference : Nat}

/-- A record that a call has found for its principal is its principal's. -/
theorem owns_of_found
    (history : GatewayHistory gateways guard (World.initial store) world past)
    {principal : AuthenticatedPrincipal} (acts : caller.request.principal = some principal)
    {id : String}
    (found : Done past caller (.records (.findOwned principal.id id)) (some reference)) :
    Owns world caller reference := by
  obtain ⟨record, present, -, owned⟩ := found_record history found
  exact ⟨principal, record, acts, present, owned⟩

/-- A record that a call has inserted is its principal's. -/
theorem owns_of_inserted
    (history : GatewayHistory gateways guard (World.initial store) world past)
    {record : QueryRecord} (inserted : Done past caller (.records (.insert record)) reference) :
    Owns world caller reference := by
  obtain ⟨seen, ⟨principal, operation, uuid, rest, found, called, -, -, shape⟩, -⟩ :=
    done_rightly history inserted
  obtain ⟨cancelled, data, present⟩ := inserted_record history inserted
  refine ⟨principal, _, by rw [called]; rfl, present, ?_⟩
  rw [shape]

end

/-- In every run, a query's record is read and changed by its collector and for its owner only. -/
theorem records_used_rightly [LawfulStore S] (gateways : Nat → Gateway) (store : S)
    (schedule : Schedule) : RecordsUsedRightly (gatewayRun gateways store schedule) := by
  intro caller op reply reference done about
  have history := gatewayRun_history (runMeets_trivial gateways store schedule)
  obtain ⟨seen, allowed, evidence⟩ := done_rightly history done
  cases op with
  | len | countActive | activeQueryCount | insert | findOwned | cancelSession | cancelActive
  | retainUnexpired => cases about
  | cancel =>
    cases about
    rcases allowed with collects | ⟨principal, acts, id, found⟩
    · exact .inl collects
    · exact .inr (owns_of_found history acts (evidence found))
  | inspect =>
    cases about
    rcases allowed with ⟨record, inserted⟩ | ⟨principal, acts, id, found⟩
    · exact .inr (owns_of_inserted history (evidence inserted))
    · exact .inr (owns_of_found history acts (evidence found))
  | pushEvent =>
    cases about
    rcases allowed with ⟨principal, id, called, found, -⟩ | ⟨collects, -⟩
    · exact .inr (owns_of_found history (by rw [called]; rfl) (evidence found))
    · exact .inl collects
  | setEngineQueryId | setError | setErrorIfNone =>
    cases about
    exact .inl allowed
  | collectBatch | finishResults =>
    cases about
    obtain ⟨collection, collects, same, -⟩ := allowed
    exact .inl ⟨collection, collects, same⟩

/-- Whoever writes a shared resource writes one of its principal's, and either expects no row or
replaces the version of a row it has read under the same key. -/
def WritesGuarded (pool : GatewayPool S) : Prop :=
  ∀ caller resource expected reply,
    Done pool.past caller (.store (.putResource resource expected)) reply →
      ∃ principal current, caller.request.principal = some principal ∧
        resource.principalId = principal.id ∧ expected = some (storedVersion current) ∧
        ∀ row, current = some row → Done pool.past caller
          (.store (.getResource resource.kind resource.resourceId principal.id)) (.ok (some row))

/-- In every run, no write to the shared store is blind. -/
theorem shared_writes_guarded [LawfulStore S] (gateways : Nat → Gateway) (store : S)
    (schedule : Schedule) : WritesGuarded (gatewayRun gateways store schedule) := by
  intro caller resource expected reply done
  have history := gatewayRun_history (runMeets_trivial gateways store schedule)
  obtain ⟨seen, ⟨-, writes⟩, evidence⟩ := done_rightly history done
  -- a row that was read has the key it was read under, and so has what replaces it
  have reread {kind id : String} {principal : AuthenticatedPrincipal} {row : Resource}
      (read : seen.Read kind id principal.id row) :
      row.principalId = principal.id ∧ Done (gatewayRun gateways store schedule).past caller
        (.store (.getResource row.kind row.resourceId principal.id)) (.ok (some row)) := by
    obtain ⟨rfl, rfl, owned⟩ := done_possible history (evidence read) row rfl
    exact ⟨owned, evidence read⟩
  cases writes with
  | createSession principal operation session permit expiresAt called =>
    exact ⟨principal, none, by rw [called]; rfl, rfl, rfl, fun _ impossible => by cases impossible⟩
  | createPrepared principal operation limit expiresAt record created sql called =>
    exact ⟨principal, none, by rw [called]; rfl, rfl, rfl, fun _ impossible => by cases impossible⟩
  | mutateSession principal operation id version now expiresAt target values changed row found
      called mutated read =>
    obtain ⟨rest, rfl, older, rfl⟩ := read
    obtain ⟨owned, read⟩ := reread (List.mem_cons_of_mem _ List.mem_cons_self)
    exact ⟨principal, some row, by rw [called]; rfl, owned, rfl,
      fun _ same => by cases same; exact read⟩
  | shareQuery principal status key count token expiresAt current acts read =>
    obtain ⟨rest, rfl⟩ := read
    refine ⟨principal, current, acts, rfl, by cases current <;> rfl, fun row same => ?_⟩
    subst same
    exact evidence List.mem_cons_self
  | recoverQuery principal id node ttl expiresAt row found error lease called read =>
    obtain ⟨owned, read⟩ := reread (read.subset (List.mem_cons_of_mem _ List.mem_cons_self))
    exact ⟨principal, some row, by rw [called]; rfl, owned, rfl,
      fun _ same => by cases same; exact read⟩
  | bindPrepared principal handle parameters now expiresAt row found key called read =>
    obtain ⟨rest, rfl, older, rfl⟩ := read
    obtain ⟨owned, read⟩ := reread (List.mem_cons_of_mem _ List.mem_cons_self)
    exact ⟨principal, some row, by rw [called]; rfl, owned, rfl,
      fun _ same => by cases same; exact read⟩

/-- In every run, a gateway outside a cluster makes no call of the shared store; when none is part
of one, the store stays as it was. -/
theorem standalone_store_untouched [LawfulStore S] (gateways : Nat → Gateway) (store : S)
    (schedule : Schedule) :
    (∀ caller op reply,
      Done (gatewayRun gateways store schedule).past caller (.store op) reply →
        (gateways caller.place).cluster.isSome = true) ∧
      ((∀ place, (gateways place).cluster = none) →
        (gatewayRun gateways store schedule).world.store = store) := by
  have history := gatewayRun_history (runMeets_trivial gateways store schedule)
  refine ⟨fun caller op reply done => ?_, fun alone => ?_⟩
  · obtain ⟨seen, ⟨clustered, -⟩, -⟩ := done_rightly history done
    exact clustered
  · generalize (gatewayRun gateways store schedule).world = world at history
    generalize (gatewayRun gateways store schedule).past = past at history
    induction history with
    | initial => rfl
    | arrives _ _ _ _ _ step => exact step
    | returns _ _ _ _ _ _ _ step => exact step
    | performs actor act _ _ _ _ _ allowed handled _ step =>
      rw [← step]
      refine (handle_framed handled).store fun op shared => ?_
      subst shared
      cases (alone actor.place) ▸ allowed.1

/-- A call has a snapshot of a session by right: it has found its principal to own the identifier
under which it read the snapshot at this process, its principal shares the session with the cluster,
or the call has made the session, for a target its principal may use. That the identifier stands for
the same session between the check and the reading is not said. -/
inductive HeldRightly (gateways : Nat → Gateway) (past : Past S) (caller : Caller)
    (principal : AuthenticatedPrincipal) (found : SessionSnapshot) : Prop
  | owned (touched : Done past caller (.owners (.touch principal.id found.id)) true)
      (read : Done past caller (.sessions (.snapshot found.id)) (.ok found))
  | shared (id permit : String) (resource : Resource) (owned : resource.principalId = principal.id)
      (read : Done past caller (.store (.getResource "session" id principal.id))
        (.ok (some resource)))
      (payload : resource.payload = .session ⟨found, permit⟩)
  | created (session : Session) (inserted : Done past caller (.sessions (.insert session)) ())
      (same : found = snapshot session)
      (configured : (gateways caller.place).config.target session.target.name =
        some session.target)
      (allowed : principal.canUseTarget session.target.name = true)

/-- Whoever gives work to an engine does so for a principal, in the session, at the version and
with the properties of a snapshot it has by right. -/
def WorksRightly (gateways : Nat → Gateway) (pool : GatewayPool S) : Prop :=
  ∀ caller op reply, Done pool.past caller (.adapter op) reply →
    ∃ principal operation found, caller.request = .call principal operation ∧
      op.context = found.context ∧ HeldRightly gateways pool.past caller principal found

/-- In every run, engines work only in sessions that the caller has by right. -/
theorem engines_work_rightly [LawfulStore S] (gateways : Nat → Gateway) (store : S)
    (schedule : Schedule) : WorksRightly gateways (gatewayRun gateways store schedule) := by
  intro caller op reply done
  have history := gatewayRun_history (runMeets_trivial gateways store schedule)
  obtain ⟨seen, ⟨principal, operation, found, called, holds, same⟩, evidence⟩ :=
    done_rightly history done
  refine ⟨principal, operation, found, called, same, ?_⟩
  cases holds with
  | cached found owned read => exact .owned (evidence owned) (evidence read)
  | hydrated found permit resource id read payload =>
    obtain ⟨-, -, owned⟩ := done_possible history (evidence read) resource rfl
    exact .shared id permit resource owned (evidence read) payload
  | created session inserted =>
    obtain ⟨-, ⟨maker, made, again, -, -, configured, allowed, -⟩, -⟩ :=
      done_rightly history (evidence inserted)
    cases called.symm.trans again
    exact .created session (evidence inserted) rfl configured allowed

/-- The identifier of the session a section makes, replaces, changes or ends. -/
def SessionOp.subject : SessionOp → Option String
  | setOptions id _ _ | switchTarget id _ _ | mutate id _ _ _ | close id => some id
  | restore shared _ => some shared.id
  | insert session => some session.id
  | nextSessionId _ | snapshot _ => none

/-- A call may write or end the session under an identifier: its principal was found to own it, the
call has drawn the identifier or found the session's time to be up, it collects a query that runs in
the session, or its principal shares the session with the cluster under that identifier. A drawn
identifier may be that of a session that is there, whose place is then taken. -/
inductive ChangesRightly (past : Past S) (caller : Caller) (id : String) : Prop
  | owner (principal : AuthenticatedPrincipal) (acts : caller.request.principal = some principal)
      (owned : Done past caller (.owners (.touch principal.id id)) true)
  | creator (username : String) (drew : Done past caller (.sessions (.nextSessionId username)) id)
  | expired (now ttl : Nat) (idle : List (String × String)) (owner : String)
      (listed : (id, owner) ∈ idle)
      (found : Done past caller (.owners (.expired now ttl)) idle ∨
        Done past caller (.prepared (.retainUnexpired now ttl)) idle)
  | collector (collection : Collection) (collects : caller.request.collection = some collection)
      (named : collection.sessionId = id)
  | shared (principal : AuthenticatedPrincipal) (acts : caller.request.principal = some principal)
      (key permit : String) (resource : Resource) (found : SessionSnapshot)
      (read : Done past caller (.store (.getResource "session" key principal.id))
        (.ok (some resource)))
      (owned : resource.principalId = principal.id)
      (payload : resource.payload = .session ⟨found, permit⟩) (named : found.id = id)

/-- Whoever makes, replaces, changes or ends a session does so by right. -/
def SessionsChangedRightly (pool : GatewayPool S) : Prop :=
  ∀ caller op reply id, Done pool.past caller (.sessions op) reply → op.subject = some id →
    ChangesRightly pool.past caller id

/-- In every run, a session is written and ended by its owner, under an identifier the call has
drawn, once its time is up, by a query that runs in it, or from what its owner shares. -/
theorem sessions_changed_rightly [LawfulStore S] (gateways : Nat → Gateway) (store : S)
    (schedule : Schedule) : SessionsChangedRightly (gatewayRun gateways store schedule) := by
  intro caller op reply id done about
  have history := gatewayRun_history (runMeets_trivial gateways store schedule)
  obtain ⟨seen, allowed, evidence⟩ := done_rightly history done
  cases op with
  | nextSessionId | snapshot => cases about
  | restore found =>
    cases about
    obtain ⟨principal, key, resource, permit, acts, ⟨rest, rfl⟩, payload, -⟩ := allowed
    have read := evidence List.mem_cons_self
    obtain ⟨-, -, owned⟩ := done_possible history read resource rfl
    exact .shared principal acts key permit resource found read owned payload rfl
  | insert session =>
    cases about
    obtain ⟨principal, operation, -, ⟨username, rest, rfl⟩, -⟩ := allowed
    exact .creator username (evidence List.mem_cons_self)
  | setOptions =>
    cases about
    rcases allowed with ⟨principal, called, touched⟩ | ⟨collection, collects, -, same, -⟩
    · exact .owner principal (by rw [called]; rfl) (evidence touched)
    · exact .collector collection collects same.symm
  | switchTarget =>
    cases about
    obtain ⟨principal, called, touched, -⟩ := allowed
    exact .owner principal (by rw [called]; rfl) (evidence touched)
  | mutate =>
    cases about
    obtain ⟨principal, operation, called, -, touched, -⟩ := allowed
    exact .owner principal (by rw [called]; rfl) (evidence touched)
  | close =>
    cases about
    cases allowed with
    | owner principal acts owned => exact .owner principal acts (evidence owned)
    | creator drew =>
      obtain ⟨username, drew⟩ := drew
      exact .creator username (evidence drew)
    | expired expired =>
      obtain ⟨owner, now, ttl, idle, listed, saw⟩ := expired
      exact .expired now ttl idle owner listed (saw.imp evidence evidence)
    | stateless collection collects named closes => exact .collector collection collects named

/-- What is told about a query: its status, its events, its result or what the result looks like. -/
def Answer.tells : Answer → Bool
  | status _ | page _ | reader _ | batchCount _ | schema _ | events _ => true
  | done | polling | session _ | metadata _ | prepared _ | updated _ => false

/-- Whatever a gateway outside a cluster tells a caller about a query is what a record holds that
the call has read and that its principal owns. -/
def TellsRightly (gateways : Nat → Gateway) (pool : GatewayPool S) : Prop :=
  ∀ caller principal operation answer, caller.request = .call principal operation →
    .returned caller (.ok answer) ∈ pool.past → answer.tells = true →
    (gateways caller.place).cluster = none →
      ∃ reference record, Owns pool.world caller reference ∧
        Done pool.past caller (.records (.inspect reference)) record ∧
        answer.Shows (Done pool.past caller) record

/-- In every run, a gateway outside a cluster tells callers about their own queries only, and what
it tells is what their records hold. -/
theorem queries_told_rightly [LawfulStore S] (gateways : Nat → Gateway) (store : S)
    (schedule : Schedule) : TellsRightly gateways (gatewayRun gateways store schedule) := by
  intro caller principal operation answer called returned tells alone
  have history := gatewayRun_history (runMeets_trivial gateways store schedule)
  have acts : caller.request.principal = some principal := by rw [called]; rfl
  obtain ⟨seen, explained, evidence⟩ := returned_explained history returned called
  have sourced := explained.answered answer rfl
  have apart : ¬ (gateways caller.place).cluster.isSome = true := by rw [alone]; simp
  have located {id : String} {reference : Nat} {record : QueryRecord} {answer : Answer}
      (found : seen.Located principal.id id reference record)
      (shows : answer.Shows seen.Saw record) :
      ∃ reference record, Owns (gatewayRun gateways store schedule).world caller reference ∧
        Done (gatewayRun gateways store schedule).past caller (.records (.inspect reference))
          record ∧
        answer.Shows (Done (gatewayRun gateways store schedule).past caller) record :=
    ⟨reference, record, owns_of_found history acts (evidence found.1), evidence found.2,
      shows.mono fun _ _ => evidence⟩
  cases answer with
  | done | polling | session | metadata | prepared | updated => cases tells
  | status reported =>
    rcases sourced with ⟨reference, record, ⟨⟨new, inserted⟩, read⟩, same⟩ |
      ⟨id, reference, record, found, same⟩ | clustered
    · exact ⟨reference, record, owns_of_inserted history (evidence inserted), evidence read, same⟩
    · exact located found same
    · exact absurd clustered apart
  | page | reader =>
    obtain ⟨id, reference, record, -, found, shows⟩ := sourced.2.resolve_right apart
    exact located found shows
  | batchCount | schema | events =>
    obtain ⟨id, reference, record, -, found, shows⟩ := sourced
    exact located found shows

end ConfluxQuery
