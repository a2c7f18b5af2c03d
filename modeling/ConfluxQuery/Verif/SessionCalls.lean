import ConfluxQuery.Verif.Evidence

/-!
# Session operations keep to the protocol

One lemma for each program of `Service.Sessions`: the program performs only what the protocol
allows, and what it has seen when it ends is handed on to the program that called it.
-/

namespace ConfluxQuery

/-- The rule a request follows on a gateway. -/
@[reducible] def Gateway.rule (gateway : Gateway) (request : Request) : Rule gatewayOps :=
  ⟨fun trail op => op.Allowed gateway request trail, Op.Possible⟩

namespace Gateway

open Seen

variable {gateway : Gateway} {request : Request} {principal : AuthenticatedPrincipal}
  {operation : Operation} {trail : Seen} {id : String}

theorem acts_of_call (called : request = .call principal operation) :
    request.principal = some principal := by
  subst called
  rfl

theorem ensureAvailable_follows {post : Seen → Except ServiceError Unit → Prop}
    (available : ∀ after : Seen, Quiet trail after → after.Saw (.host .isShuttingDown) false →
      post after (.ok ()))
    (stopping : ∀ after : Seen, Quiet trail after → after.Saw (.host .isShuttingDown) true →
      post after (.error shuttingDown)) :
    Follows (gateway.rule request) ensureAvailable trail post := by
  refine Follows.perform trivial fun stopped _ =>
    Follows.ensure_iff.mpr ⟨fun on => ?_, fun off => ?_⟩
  · cases stopped with
    | true => cases on
    | false => exact available _ (Quiet.steps [_] rfl) Saw.newest
  · cases stopped with
    | true => exact stopping _ (Quiet.steps [_] rfl) Saw.newest
    | false => cases off

/-- An expired session is ended, whatever it is; the others a cleanup has found stay pending. -/
theorem expireSession_follows {expired : String × String} (up : trail.Expired expired.1)
    (cancels : request.Cancels trail expired.1) :
    Follows (gateway.rule request) (expireSession expired) trail
      (fun (after : Seen) outcome => outcome = .ok () ∧ Quiet trail after ∧
        ∀ other, expired.1 ≠ other → trail.pending other = true →
          after.pending other = true) := by
  refine Follows.perform cancels fun _ _ => ?_
  refine Follows.perform (.expired (up.grow ⟨[_], rfl⟩)) fun _ _ => ?_
  refine Follows.perform_iff.mpr ⟨.expired (up.grow ⟨[_, _], rfl⟩), fun _ _ => ⟨rfl, ?_, ?_⟩⟩
  · exact Quiet.steps [_, _, _] rfl
  · exact fun other apart pending => Bool.and_eq_true_iff.mpr ⟨bne_iff_ne.mpr apart, pending⟩

theorem expireDropped_follows {now ttl : Nat} {list : List (String × String)}
    (saw : trail.Saw (.prepared (.retainUnexpired now ttl)) list)
    {post : Seen → Except ServiceError Unit → Prop}
    (done : ∀ after : Seen, Quiet trail after → post after (.ok ())) :
    Follows (gateway.rule request) (Prog.each expireSession list) trail post := by
  have ended : Follows (gateway.rule request) (Prog.each expireSession list) trail
      (fun after outcome => outcome = .ok () ∧ Quiet trail after) := by
    refine Follows.each Quiet.rfl fun expired member before grown quiet => ?_
    have up : Expired before expired.1 :=
      ⟨expired.2, now, ttl, list, member, .inr (saw.grow grown)⟩
    refine (expireSession_follows up
      (.dropped expired.2 now ttl list member (saw.grow grown))).mono ?_
    intro after outcome _ ended
    exact ⟨ended.1, quiet.trans ended.2.1⟩
  refine ended.mono fun after outcome _ ended => ?_
  rw [ended.1]
  exact done after ended.2

theorem expireIdle_follows {list : List (String × String)}
    (up : ∀ expired ∈ list, trail.Expired expired.1)
    (pending : ∀ expired ∈ list, trail.pending expired.1 = true)
    (distinct : (list.map Prod.fst).Nodup) {post : Seen → Except ServiceError Unit → Prop}
    (done : ∀ after : Seen, Quiet trail after → post after (.ok ())) :
    Follows (gateway.rule request) (Prog.each expireSession list) trail post := by
  induction list generalizing trail with
  | nil => exact done trail Quiet.rfl
  | cons expired rest step =>
    obtain ⟨apart, distinct⟩ := List.nodup_cons.mp distinct
    refine Follows.bind (expireSession_follows (up expired List.mem_cons_self)
      (.idle (pending expired List.mem_cons_self))) ?_ ?_
    · rintro longer _ grown ⟨_, quiet, kept⟩
      refine step (fun other member => (up other (List.mem_cons_of_mem _ member)).grow grown)
        (fun other member => kept other.1 ?_ (pending other (List.mem_cons_of_mem _ member)))
        distinct fun after ended => done after (quiet.trans ended)
      exact fun same => apart (same ▸ List.mem_map_of_mem member)
    · rintro _ _ _ ⟨impossible, _⟩
      cases impossible

theorem cleanupExpired_follows {post : Seen → Except ServiceError Unit → Prop}
    (done : ∀ after : Seen, Quiet trail after → post after (.ok ())) :
    Follows (gateway.rule request) gateway.cleanupExpired trail post := by
  refine Follows.perform trivial fun now _ => Follows.perform trivial fun handles _ => ?_
  refine Follows.bind_iff.mpr (expireDropped_follows Saw.newest fun first quiet => ?_)
  have clock : Saw first (.host .clock) now := Saw.grow (Saw.newest.grow ⟨[_], rfl⟩) quiet.grown
  refine Follows.perform trivial fun _ _ => ?_
  refine Follows.perform ⟨clock.grow ⟨[_], rfl⟩, rfl⟩ fun idle distinct => ?_
  refine expireIdle_follows ?_ ?_ distinct fun second ended => done second ?_
  · intro expired member
    exact ⟨expired.2, now, _, idle, member, .inl Saw.newest⟩
  · intro expired member
    exact List.any_eq_true.mpr ⟨expired, member, beq_self_eq_true _⟩
  · exact ((Quiet.steps [_, _] rfl).trans quiet).trans ((Quiet.steps [_, _] rfl).trans ended)

theorem enforceSessionQuota_follows {post : Seen → Except ServiceError Unit → Prop}
    (within : ∀ after : Seen, Quiet trail after → post after (.ok ()))
    (refused : ∀ (after : Seen) error, Quiet trail after → post after (.error error)) :
    Follows (gateway.rule request) (enforceSessionQuota principal) trail post := by
  refine Follows.perform trivial fun count _ => Follows.ensure_iff.mpr ⟨fun _ => ?_, fun _ => ?_⟩
  · exact within _ (Quiet.steps [_] rfl)
  · exact refused _ _ (Quiet.steps [_] rfl)

/-- An authorized target is configured under its name and allowed by the caller's policy. -/
theorem authorizedTarget_follows {name : String}
    {post : Seen → Except ServiceError ResolvedTarget → Prop}
    (authorized : ∀ target, principal.canUseTarget name = true → target.name = name →
      gateway.config.target name = some target → post trail (.ok target))
    (refused : ∀ error, post trail (.error error)) :
    Follows (gateway.rule request) (gateway.authorizedTarget principal name) trail post := by
  refine Follows.bind_iff.mpr (Follows.ensure_iff.mpr ⟨fun allowed => ?_, fun _ => refused _⟩)
  refine Follows.okOr_iff.mpr ⟨fun target found => ?_, fun _ => refused _⟩
  exact authorized target allowed (gateway.config.named name target found) found

theorem requireSessionOwner_follows (acts : request.principal = some principal)
    {post : Seen → Except ServiceError Unit → Prop}
    (owned : ∀ after : Seen, Quiet trail after → after.Touched principal.id id →
      post after (.ok ()))
    (refused : ∀ after : Seen, Quiet trail after → post after (.error sessionNotFound)) :
    Follows (gateway.rule request) (requireSessionOwner principal id) trail post := by
  refine Follows.perform ⟨principal, acts, rfl⟩ fun found _ => ?_
  refine Follows.ensure_iff.mpr ⟨fun yes => ?_, fun _ => refused _ (Quiet.steps [_] rfl)⟩
  subst yes
  exact owned _ (Quiet.steps [_] rfl) Saw.newest

/-- The user name of a session identifier comes from the target or the environment. -/
theorem sessionUser_follows {target : ResolvedTarget}
    {post : Seen → Except ServiceError String → Prop}
    (named : ∀ (after : Seen) username, Quiet trail after → post after (.ok username)) :
    Follows (gateway.rule request) (sessionUser target) trail post := by
  unfold sessionUser
  split
  · exact named _ _ Quiet.rfl
  · exact Follows.perform trivial fun user _ => named _ _ (Quiet.steps [_] rfl)

theorem createWithOverrides_follows {target : ResolvedTarget} {overrides : Registry String String}
    (called : request = .call principal operation) (fresh : ∀ id, ¬trail.Drew id)
    (configured : gateway.config.target target.name = some target)
    (allowed : principal.canUseTarget target.name = true)
    (given : operation.created = overrides)
    {post : Seen → Except ServiceError SessionSnapshot → Prop}
    (created : ∀ (after : Seen) session, Idle trail after → after.Drew session.id →
      after.Saw (.sessions (.insert session)) () → post after (.ok (snapshot session))) :
    Follows (gateway.rule request) (createWithOverrides target overrides) trail post := by
  refine Follows.bind_iff.mpr (sessionUser_follows fun named username quiet => ?_)
  refine Follows.perform ⟨⟨principal, operation, called⟩, ?_⟩ fun id _ => ?_
  · exact fun id drew => fresh id (quiet.drew id drew)
  have drew : Drew (⟨.sessions (.nextSessionId username), id⟩ :: named) id :=
    ⟨username, Saw.newest⟩
  refine Follows.perform ⟨principal, operation, called, ⟨username, named, rfl⟩, rfl, configured,
    allowed, given.symm⟩ fun _ _ => ?_
  exact created _ ⟨id, 1, target, overrides⟩ (quiet.toIdle.trans (Idle.steps [_, _] rfl))
    (drew.grow ⟨[_], rfl⟩) Saw.newest

/-- Reading a session of this node. -/
theorem session_follows (acts : request.principal = some principal)
    {post : Seen → Except ServiceError SessionSnapshot → Prop}
    (found : ∀ (after : Seen) found, Quiet trail after → after.Touched principal.id id →
      after.Saw (.sessions (.snapshot id)) (.ok found) → after.Holds principal.id found →
      post after (.ok found))
    (refused : ∀ (after : Seen) error, Quiet trail after →
      (after.Touched principal.id id ∨ error = sessionNotFound) → post after (.error error)) :
    Follows (gateway.rule request) (session principal id) trail post := by
  refine Follows.bind_iff.mpr (requireSessionOwner_follows acts (fun first one owned => ?_)
    fun first one => refused _ _ one (.inr rfl))
  refine Follows.perform ⟨principal, acts, owned⟩ fun reply possible => Follows.lift_iff.mpr ?_
  have quiet := one.trans (Quiet.steps [⟨.sessions (.snapshot id), reply⟩] rfl)
  cases reply with
  | ok snapshot =>
    have named := possible.1 snapshot rfl
    subst named
    exact found _ snapshot quiet (owned.grow ⟨[_], rfl⟩) Saw.newest
      (.cached snapshot (owned.grow ⟨[_], rfl⟩) Saw.newest)
  | error error => exact refused _ _ quiet (.inl (owned.grow ⟨[_], rfl⟩))

/-- Ending a session on this node. -/
theorem closeSession_follows (acts : request.principal = some principal)
    {post : Seen → Except ServiceError Unit → Prop}
    (closed : ∀ after : Seen, Quiet trail after → after.Touched principal.id id →
      after.Saw (.sessions (.close id)) (.ok ()) → after.Saw (.owners (.remove id)) () →
      post after (.ok ()))
    (refused : ∀ (after : Seen) error, Quiet trail after → post after (.error error)) :
    Follows (gateway.rule request) (closeSession principal id) trail post := by
  refine Follows.bind_iff.mpr (Follows.perform ⟨principal, acts, rfl⟩ fun found _ =>
    Follows.ensure_iff.mpr ⟨fun yes => ?_, fun _ => refused _ _ (Quiet.steps [_] rfl)⟩)
  subst yes
  have one : Quiet trail (⟨.owners (.touch principal.id id), true⟩ :: trail) :=
    Quiet.steps [_] rfl
  have owned : Touched (⟨.owners (.touch principal.id id), true⟩ :: trail) principal.id id :=
    Saw.newest
  refine Follows.perform (.owner principal trail acts rfl) fun _ _ => ?_
  refine Follows.perform (.owner principal acts (owned.grow ⟨[_], rfl⟩)) fun reply _ => ?_
  refine Follows.bind_iff.mpr (Follows.lift_iff.mpr ?_)
  cases reply with
  | error error => exact refused _ _ (one.trans (Quiet.steps [_, _] rfl))
  | ok =>
    refine Follows.perform (.owner principal acts (owned.grow ⟨[_, _], rfl⟩)) fun _ _ => ?_
    refine Follows.perform_iff.mpr ⟨⟨principal, acts, owned.grow ⟨[_, _, _], rfl⟩⟩, fun _ _ => ?_⟩
    exact closed _ (one.trans (Quiet.steps [_, _, _, _] rfl)) (owned.grow ⟨[_, _, _, _], rfl⟩)
      (Saw.newest.grow ⟨[_, _], rfl⟩) (Saw.newest.grow ⟨[_], rfl⟩)

section Creations

variable {name : String} {overrides : Registry String String}
  (called : request = .call principal operation) (fresh : ∀ id, ¬trail.Drew id)
  (given : operation.created = overrides)
  {post : Seen → Except ServiceError SessionSnapshot → Prop}
  (created : ∀ (after : Seen) session, Idle trail after → after.Drew session.id →
    after.Saw (.sessions (.insert session)) () → post after (.ok (snapshot session)))
  (refused : ∀ (after : Seen) error, Idle trail after → post after (.error error))

include called fresh given created refused

/-- Creating a session on this node. -/
theorem createSession_follows :
    Follows (gateway.rule request) (gateway.createSession principal name overrides) trail post := by
  refine Follows.bind_iff.mpr (ensureAvailable_follows (fun first one _ => ?_)
    fun first one _ => refused _ _ one.toIdle)
  refine Follows.bind_iff.mpr (cleanupExpired_follows fun second two => ?_)
  refine Follows.bind_iff.mpr (enforceSessionQuota_follows (fun third three => ?_)
    fun third error three => refused _ _ ((one.trans two).trans three).toIdle)
  have quiet := (one.trans two).trans three
  refine Follows.bind_iff.mpr (authorizedTarget_follows (fun target allowed same found => ?_)
    fun error => refused _ _ quiet.toIdle)
  subst same
  refine Follows.bind_iff.mpr (createWithOverrides_follows called
    (fun id drew => fresh id (quiet.drew id drew)) found allowed given ?_)
  intro fourth session four drew inserted
  refine Follows.perform ⟨principal, acts_of_call called, rfl, .inl ⟨session, inserted, rfl⟩⟩
    fun _ _ => ?_
  exact created _ session ((quiet.toIdle.trans four).trans (Idle.steps [_] rfl))
    (drew.grow ⟨[_], rfl⟩) (inserted.grow ⟨[_], rfl⟩)

/-- Creating a session and sharing it. -/
theorem createSessionClustered_follows :
    Follows (gateway.rule request) (gateway.createSessionClustered principal name overrides) trail
      post := by
  unfold createSessionClustered
  split
  · exact createSession_follows called fresh given created refused
  next clustered =>
  have clustered : gateway.cluster.isSome = true := by rw [clustered]; rfl
  refine Follows.bind_iff.mpr (ensureAvailable_follows (fun first one _ => ?_)
    fun first one _ => refused _ _ one.toIdle)
  refine Follows.perform ⟨clustered, trivial⟩
    fun granted _ => Follows.bind_iff.mpr (Follows.lift_iff.mpr ?_)
  cases granted with
  | error error => exact refused _ _ (one.trans (Quiet.steps [_] rfl)).toIdle
  | ok permit =>
    have two := one.trans (Quiet.steps
      [⟨.store (.acquireQuota principal.id "sessions" principal.maxSessions
        gateway.limits.sessionTtl), .ok permit⟩] rfl)
    refine Follows.bind_iff.mpr (Follows.attempt_iff.mpr (createSession_follows called
      (fun id drew => fresh id (two.drew id drew)) given ?_ ?_))
    · intro third session three drew inserted
      have idle := two.toIdle.trans three
      refine Follows.bind_iff.mpr (Follows.perform trivial fun now _ => ?_)
      refine Follows.perform ⟨clustered, .createSession principal operation session permit _ called
        (inserted.grow ⟨[_], rfl⟩)⟩ fun written _ => ?_
      cases written with
      | ok _ =>
        exact created _ session (idle.trans (Idle.steps [_, _] rfl)) (drew.grow ⟨[_, _], rfl⟩)
          (inserted.grow ⟨[_, _], rfl⟩)
      | error error =>
        have withdraw : ∀ after : Seen, Idle trail after → Follows (gateway.rule request) (do
            let _ ← Call.store (.releaseQuota permit)
            Prog.fail (clusterServiceError error)) after post := fun after quiet =>
          Follows.perform ⟨clustered, trivial⟩ fun _ _ =>
            refused _ _ (quiet.trans (Idle.steps [_] rfl))
        refine Follows.bind_iff.mpr (Follows.attempt_iff.mpr (closeSession_follows
          (acts_of_call called) (fun after quiet _ _ _ => withdraw after ?_)
          fun after _ quiet => withdraw after ?_))
        all_goals exact idle.trans ((Idle.steps [_, _] (by rfl)).trans quiet.toIdle)
    · intro third error three
      refine Follows.perform ⟨clustered, trivial⟩ fun _ _ => refused _ _ ?_
      exact (two.toIdle.trans three).trans (Idle.steps [_] rfl)

end Creations

theorem sessionClustered_follows (acts : request.principal = some principal)
    {post : Seen → Except ServiceError SessionSnapshot → Prop}
    (found : ∀ (after : Seen) found, Quiet trail after → after.Holds principal.id found →
      post after (.ok found))
    (refused : ∀ (after : Seen) error, post after (.error error)) :
    Follows (gateway.rule request) (gateway.sessionClustered principal id) trail post := by
  refine Follows.bind_iff.mpr (Follows.attempt_iff.mpr (session_follows acts
    (fun _ _ one _ _ holds => found _ _ one holds) fun first _ one _ => ?_))
  refine Follows.bind_iff.mpr (Follows.ensure_iff.mpr ⟨fun clustered => ?_, fun _ => refused _ _⟩)
  refine Follows.perform ⟨clustered, principal, acts, rfl⟩ fun reply _ => ?_
  have two := one.trans (Quiet.steps
    [⟨.store (.getResource "session" id principal.id), reply⟩] rfl)
  refine Follows.found (fun resource present => ?_) (refused _)
  subst present
  refine Follows.bind_iff.mpr (Follows.lift_iff.mpr ?_)
  have known : Read (⟨.store (.getResource "session" id principal.id), .ok (some resource)⟩ ::
    first) "session" id principal.id resource := Saw.newest
  cases shape : resource.payload with
  | query _ => exact refused _ _
  | prepared _ => exact refused _ _
  | session shared =>
    refine Follows.bind_iff.mpr (Follows.okOr_iff.mpr ⟨fun target configured => ?_,
      fun _ => refused _ _⟩)
    refine Follows.perform ⟨principal, id, resource, shared.quotaPermit, acts, ⟨first, rfl⟩,
      shape, configured⟩ fun restored _ => Follows.bind_iff.mpr (Follows.lift_iff.mpr ?_)
    cases restored with
    | error _ => exact refused _ _
    | ok =>
      refine Follows.perform ⟨principal, acts, rfl, .inr ⟨shared.snapshot, target, Saw.newest,
        rfl⟩⟩ fun _ _ => ?_
      exact found _ _ (two.trans (Quiet.steps [_, _] rfl))
        (.hydrated _ shared.quotaPermit resource id (known.grow ⟨[_, _], rfl⟩) shape)

/-- The first two steps of the local mutators: they are refused while shutting down, and to anyone
but the owner. -/
theorem availableOwner_follows {α : Type} (acts : request.principal = some principal)
    {next : Call α} {post : Seen → Except ServiceError α → Prop}
    (owned : ∀ after : Seen, after.Touched principal.id id →
      Follows (gateway.rule request) next after post)
    (refused : ∀ (after : Seen) error, post after (.error error)) :
    Follows (gateway.rule request) (do
      ensureAvailable
      requireSessionOwner principal id
      next) trail post := by
  refine Follows.bind_iff.mpr (ensureAvailable_follows (fun _ _ _ => ?_) fun _ _ _ => refused _ _)
  exact Follows.bind_iff.mpr (requireSessionOwner_follows acts
    (fun second _ touched => owned second touched) fun _ _ => refused _ _)

theorem updateSession_follows {version : Nat} {overrides : Registry String String}
    (called : request = .call principal (.updateSession id version overrides))
    {post : Seen → Except ServiceError SessionSnapshot → Prop}
    (changed : ∀ (after : Seen) changed,
      after.Saw (.sessions (.setOptions id version overrides)) (.ok changed) →
      post after (.ok changed))
    (refused : ∀ (after : Seen) error, post after (.error error)) :
    Follows (gateway.rule request) (updateSession principal id version overrides) trail post := by
  refine availableOwner_follows (acts_of_call called) (fun first owned => ?_) refused
  refine Follows.perform (.inl ⟨principal, called, owned⟩) fun reply _ => Follows.lift_iff.mpr ?_
  cases reply with
  | ok snapshot => exact changed _ snapshot Saw.newest
  | error _ => exact refused _ _

theorem switchTarget_follows {version : Nat} {name : String}
    (called : request = .call principal (.switchTarget id version name))
    {post : Seen → Except ServiceError SessionSnapshot → Prop}
    (changed : ∀ (after : Seen) target changed,
      after.Saw (.sessions (.switchTarget id version target)) (.ok changed) →
      post after (.ok changed))
    (refused : ∀ (after : Seen) error, post after (.error error)) :
    Follows (gateway.rule request) (gateway.switchTarget principal id version name) trail post := by
  refine availableOwner_follows (acts_of_call called) (fun first owned => ?_) refused
  refine Follows.bind_iff.mpr (authorizedTarget_follows (fun target allowed same found => ?_)
    fun _ => refused _ _)
  subst same
  refine Follows.perform ⟨principal, called, owned, found, allowed⟩
    fun reply _ => Follows.lift_iff.mpr ?_
  cases reply with
  | ok snapshot => exact changed _ target snapshot Saw.newest
  | error _ => exact refused _ _

theorem namedTarget_follows {name : Option String}
    {post : Seen → Except ServiceError (Option ResolvedTarget) → Prop}
    (authorized : ∀ target : Option ResolvedTarget, target.map ResolvedTarget.name = name →
      (∀ named, target = some named → gateway.config.target named.name = some named ∧
        principal.canUseTarget named.name = true) → post trail (.ok target))
    (refused : ∀ error, post trail (.error error)) :
    Follows (gateway.rule request) (gateway.namedTarget principal name) trail post := by
  cases name with
  | none => exact authorized none rfl (by simp)
  | some name =>
    refine Follows.bind_iff.mpr (authorizedTarget_follows (fun target allowed same found => ?_)
      fun error => refused error)
    subst same
    refine authorized (some target) rfl fun named same => ?_
    cases same
    exact ⟨found, allowed⟩

theorem shareMutation_follows {version : Nat} {target : Option ResolvedTarget}
    {values : Registry String (Option String)} {changed : SessionSnapshot}
    (called : request = .call principal operation) (clustered : gateway.cluster.isSome = true)
    (mutated : trail.Saw (.sessions (.mutate id version target values)) (.ok changed))
    {post : Seen → Except ServiceError Unit → Prop}
    (done : ∀ (after : Seen) outcome, trail <:+ after → post after outcome) :
    Follows (gateway.rule request) (gateway.shareMutation principal id changed) trail post := by
  refine Follows.perform ⟨clustered, principal, acts_of_call called, rfl⟩ fun reply _ => ?_
  refine Follows.found (fun resource present => ?_) fun _ => done _ _ ⟨[_], rfl⟩
  subst present
  refine Follows.bind_iff.mpr (Follows.lift_iff.mpr ?_)
  cases shape : resource.payload with
  | query _ => exact done _ _ ⟨[_], rfl⟩
  | prepared _ => exact done _ _ ⟨[_], rfl⟩
  | session found =>
    refine Follows.bind_iff.mpr (Follows.perform trivial fun now _ => ?_)
    refine Follows.perform ⟨clustered, .mutateSession principal operation id version now _ target
      values changed resource found called (mutated.grow ⟨[_, _], rfl⟩) ⟨_, rfl, _, rfl⟩ shape⟩
      fun reply _ => Follows.bind_iff.mpr (Follows.lift_iff.mpr ?_)
    cases reply with
    | error _ => exact done _ _ ⟨[_, _, _], rfl⟩
    | ok stored => exact done _ _ ⟨[_, _, _], rfl⟩

section Mutations

variable {version : Nat} {name : Option String} {values : Registry String (Option String)}
  (called : request = .call principal operation)
  (mutates : operation.mutation = some (id, version, name, values))
  {post : Seen → Except ServiceError SessionSnapshot → Prop}
  (changed : ∀ (after : Seen) (target : Option ResolvedTarget) changed,
    after.Saw (.sessions (.mutate id version target values)) (.ok changed) →
    post after (.ok changed))
  (refused : ∀ (after : Seen) error, post after (.error error))

include called mutates changed refused

theorem mutateSession_follows :
    Follows (gateway.rule request) (gateway.mutateSession principal id version name values) trail
      post := by
  refine availableOwner_follows (acts_of_call called) (fun first owned => ?_) refused
  refine Follows.bind_iff.mpr (namedTarget_follows (fun target named authorized => ?_)
    fun _ => refused _ _)
  subst named
  refine Follows.perform ⟨principal, operation, called, mutates, owned, authorized⟩
    fun reply _ => Follows.lift_iff.mpr ?_
  cases reply with
  | ok snapshot => exact changed _ target snapshot Saw.newest
  | error _ => exact refused _ _

/-- Changing a session in the cluster. -/
theorem mutateSessionClustered_follows :
    Follows (gateway.rule request)
      (gateway.mutateSessionClustered principal id version name values) trail post := by
  refine Follows.bind_iff.mpr (sessionClustered_follows (acts_of_call called)
    (fun first found _ _ => ?_) refused)
  refine Follows.bind_iff.mpr (mutateSession_follows called mutates
    (fun second target snapshot mutated => ?_) refused)
  cases alone : gateway.cluster with
  | none => exact changed _ target snapshot mutated
  | some _ =>
    have clustered : gateway.cluster.isSome = true := by rw [alone]; rfl
    refine Follows.bind_iff.mpr (shareMutation_follows called clustered mutated
      fun third outcome grown => ?_)
    cases outcome with
    | error _ => exact refused _ _
    | ok => exact changed _ target snapshot (mutated.grow grown)

end Mutations

theorem closingShare_follows (acts : request.principal = some principal)
    {post : Seen → Except ServiceError (Option SharedSession) → Prop}
    (read : ∀ (after : Seen) outcome, trail <:+ after → post after outcome) :
    Follows (gateway.rule request) (gateway.closingShare principal id) trail post := by
  unfold closingShare
  split
  · exact read _ _ List.suffix_rfl
  · next clustered =>
    refine Follows.perform ⟨by rw [clustered]; rfl, principal, acts, rfl⟩ fun reply _ => ?_
    refine Follows.bind_iff.mpr (Follows.lift_iff.mpr ?_)
    cases reply with
    | error _ => exact read _ _ ⟨[_], rfl⟩
    | ok found => exact read _ _ ⟨[_], rfl⟩

/-- Ending a session of the cluster. -/
theorem closeSessionClustered_follows
    (called : request = .call principal (.closeSessionClustered id))
    {post : Seen → Except ServiceError Unit → Prop}
    (done : ∀ (after : Seen) outcome, post after outcome) :
    Follows (gateway.rule request) (gateway.closeSessionClustered principal id) trail post := by
  have acts := acts_of_call called
  refine Follows.bind_iff.mpr (sessionClustered_follows acts (fun first found _ _ => ?_)
    fun _ _ => done _ _)
  refine Follows.bind_iff.mpr (closingShare_follows acts fun second outcome _ => ?_)
  cases outcome with
  | error error => exact done _ _
  | ok closing =>
    refine Follows.bind_iff.mpr (closeSession_follows acts (fun third _ _ ended removed => ?_)
      fun _ _ _ => done _ _)
    cases alone : gateway.cluster with
    | none => exact done _ _
    | some _ =>
      have clustered : gateway.cluster.isSome = true := by rw [alone]; rfl
      refine Follows.perform ⟨clustered, principal, rfl, .inl ⟨rfl, called, ended, removed⟩⟩
        fun reply _ => Follows.bind_iff.mpr (Follows.lift_iff.mpr ?_)
      cases reply with
      | error _ => exact done _ _
      | ok deleted =>
        cases closing with
        | none => exact done _ _
        | some share => exact Follows.perform ⟨clustered, trivial⟩ fun _ _ => done _ _

end Gateway

end ConfluxQuery
