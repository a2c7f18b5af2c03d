import ConfluxQuery.Service.Handler

/-!
# Session operations

The gateway's session operations, written as the source writes them: each `←` is one section under
a lock, one call of a store or one read of the clock, and another call may run between any two.
-/

namespace ConfluxQuery

/-- A gateway program. -/
abbrev Call (α : Type) : Type := Prog gatewayOps ServiceError α

namespace Call

/-- A section of the session manager. -/
def sessions (op : SessionOp) : Call op.Reply := Prog.perform (S := gatewayOps) (.sessions op)

/-- A section on session owners. -/
def owners (op : OwnerOp) : Call op.Reply := Prog.perform (S := gatewayOps) (.owners op)

/-- A section on query records. -/
def records (op : RecordOp) : Call op.Reply := Prog.perform (S := gatewayOps) (.records op)

/-- A section on prepared statements. -/
def prepared (op : PreparedOp) : Call op.Reply := Prog.perform (S := gatewayOps) (.prepared op)

/-- A call of the shared store. -/
def store (op : StoreOp) : Call (Except ClusterError op.Answer) :=
  Prog.perform (S := gatewayOps) (.store op)

/-- A call of the object store. -/
def objects (op : ObjectOp) : Call op.Reply := Prog.perform (S := gatewayOps) (.objects op)

/-- A call of an engine adapter. -/
def adapter (op : AdapterOp) : Call op.Reply := Prog.perform (S := gatewayOps) (.adapter op)

/-- A request to the process. -/
def host (op : HostOp) : Call op.Reply := Prog.perform (S := gatewayOps) (.host op)

/-- Go on with a core result. -/
def core {α : Type} (result : Except CoreError α) : Call α :=
  Prog.lift (result.mapError coreError)

end Call

/-- A store error as the gateway answers it. -/
def clusterServiceError (error : ClusterError) : ServiceError :=
  let kind : ServiceErrorKind :=
    if error.code = "forbidden" then .notFound
    else if error.code = "quota_exhausted" then .resourceExhausted
    else if error.code = "version_conflict" ∨ error.code = "lease_held" ∨
        error.code = "lease_lost" then .conflict
    else .internal
  ⟨kind, error.code, error.message⟩

/-- A payload that does not decode. -/
def jsonServiceError (message : String) : ServiceError := ⟨.internal, "shared_state_json", message⟩

/-- Go on with the reply of a store. -/
def Call.shared {α : Type} (result : Except ClusterError α) : Call α :=
  Prog.lift (result.mapError clusterServiceError)

/-- Go on with a decoded payload. -/
def Call.decode {α : Type} (result : Except String α) : Call α :=
  Prog.lift (result.mapError jsonServiceError)

open Call

/-- The time a duration from now ends. -/
def chronoDeadline (ttl : Nat) : Call Nat := do
  let now ← host .clock
  return now + ttl

namespace Gateway

variable (gateway : Gateway) (principal : AuthenticatedPrincipal)

/-- Refuse work while shutting down. -/
def ensureAvailable : Call Unit := do
  let stopping ← host .isShuttingDown
  Prog.ensure (!stopping) shuttingDown

/-- End a session whose time is up: cancel its queries, close it and forget its owner. -/
def expireSession (expired : String × String) : Call Unit := do
  records (.cancelSession expired.1)
  let _ ← sessions (.close expired.1)
  owners (.remove expired.1)

/-- Remove prepared statements, query records and sessions whose time is up. -/
def cleanupExpired : Call Unit := do
  let now ← host .clock
  let handles ← prepared (.retainUnexpired now gateway.limits.preparedStatementTtl)
  Prog.each expireSession handles
  records (.retainUnexpired now gateway.limits.resultTtl)
  let idle ← owners (.expired now gateway.limits.sessionTtl)
  Prog.each expireSession idle

/-- Refuse a principal that holds as many sessions as it may. -/
def enforceSessionQuota : Call Unit := do
  let count ← owners (.count principal.id)
  Prog.ensure (decide (count < principal.maxSessions))
    ⟨.resourceExhausted, "session_quota", "principal session quota reached"⟩

/-- A configured target the principal may use. -/
def authorizedTarget (name : String) : Call ResolvedTarget := do
  Prog.ensure (principal.canUseTarget name)
    ⟨.forbidden, "target_forbidden", "principal is not authorized for target '" ++ name ++ "'"⟩
  Prog.okOr ⟨.notFound, "target_not_found", "target '" ++ name ++ "' does not exist"⟩
    (gateway.config.target name)

/-- Use a session one owns; this renews it. -/
def requireSessionOwner (sessionId : String) : Call Unit := do
  let owned ← owners (.touch principal.id sessionId)
  Prog.ensure owned sessionNotFound

/-- The user name a session identifier carries. -/
def sessionUser (target : ResolvedTarget) : Call String :=
  match target.properties.lookup "user" with
  | some value => return value.expose
  | none => do
    let user ← host .environmentUser
    return user.getD "qcli"

/-- Create a version-one session on a target. -/
def createWithOverrides (target : ResolvedTarget) (overrides : Registry String String) :
    Call SessionSnapshot := do
  let username ← sessionUser target
  let id ← sessions (.nextSessionId username)
  let session : Session := ⟨id, 1, target, overrides⟩
  sessions (.insert session)
  return snapshot session

/-- Create a session on this node. -/
def createSession (targetName : String) (overrides : Registry String String) :
    Call SessionSnapshot := do
  ensureAvailable
  gateway.cleanupExpired
  enforceSessionQuota principal
  let target ← gateway.authorizedTarget principal targetName
  let created ← createWithOverrides target overrides
  owners (.insert created.id principal.id)
  return created

/-- The state of a session on this node. -/
def session (sessionId : String) : Call SessionSnapshot := do
  requireSessionOwner principal sessionId
  let result ← sessions (.snapshot sessionId)
  core result

/-- End a session on this node: cancel its queries, close it, forget its owner and drop its prepared
statements. -/
def closeSession (sessionId : String) : Call Unit := do
  requireSessionOwner principal sessionId
  records (.cancelSession sessionId)
  let closed ← sessions (.close sessionId)
  core closed
  owners (.remove sessionId)
  prepared (.dropSession sessionId)

/-- Create a session and share it with the cluster. -/
def createSessionClustered (targetName : String) (overrides : Registry String String) :
    Call SessionSnapshot := do
  match gateway.cluster with
  | none => gateway.createSession principal targetName overrides
  | some _ =>
    ensureAvailable
    let permit ← shared (← store (.acquireQuota principal.id "sessions" principal.maxSessions
      gateway.limits.sessionTtl))
    match ← (gateway.createSession principal targetName overrides).attempt with
    | .error error =>
      let _ ← store (.releaseQuota permit)
      Prog.fail error
    | .ok created =>
      let expiresAt ← chronoDeadline gateway.limits.sessionTtl
      let resource : Resource :=
        ⟨created.id, principal.id, "session", 0, .session ⟨created, permit⟩, expiresAt⟩
      match ← store (.putResource resource (some 0)) with
      | .error error =>
        let _ ← (closeSession principal created.id).attempt
        let _ ← store (.releaseQuota permit)
        Prog.fail (clusterServiceError error)
      | .ok _ => return created

/-- The state of a session anywhere in the cluster: this node's own copy, or else the shared one,
which is then hydrated here. -/
def sessionClustered (sessionId : String) : Call SessionSnapshot := do
  match ← (session principal sessionId).attempt with
  | .ok found => return found
  | .error _ =>
    Prog.ensure gateway.cluster.isSome sessionNotFound
    let resource ← Prog.okOr sessionNotFound
      (← shared (← store (.getResource "session" sessionId principal.id)))
    let found ← decode resource.payload.asSession
    let target ← Prog.okOr sessionNotFound (gateway.config.target found.snapshot.target)
    core (← sessions (.restore found.snapshot target))
    owners (.insert found.snapshot.id principal.id)
    return found.snapshot

/-- Set overrides of a session on this node. -/
def updateSession (sessionId : String) (expectedVersion : Nat)
    (overrides : Registry String String) : Call SessionSnapshot := do
  ensureAvailable
  requireSessionOwner principal sessionId
  core (← sessions (.setOptions sessionId expectedVersion overrides))

/-- Move a session of this node to another target. -/
def switchTarget (sessionId : String) (expectedVersion : Nat) (targetName : String) :
    Call SessionSnapshot := do
  ensureAvailable
  requireSessionOwner principal sessionId
  let target ← gateway.authorizedTarget principal targetName
  core (← sessions (.switchTarget sessionId expectedVersion target))

/-- The target a mutation names, if it names one. -/
def namedTarget : Option String → Call (Option ResolvedTarget)
  | none => return none
  | some name => do
    let target ← gateway.authorizedTarget principal name
    return some target

/-- Change the target and the overrides of a session on this node at once. -/
def mutateSession (sessionId : String) (expectedVersion : Nat) (targetName : Option String)
    (overrides : Registry String (Option String)) : Call SessionSnapshot := do
  ensureAvailable
  requireSessionOwner principal sessionId
  let target ← gateway.namedTarget principal targetName
  core (← sessions (.mutate sessionId expectedVersion target overrides))

/-- Write a session's new snapshot to the shared store, over the version read just before. -/
def shareMutation (sessionId : String) (changed : SessionSnapshot) : Call Unit := do
  let resource ← Prog.okOr sessionNotFound
    (← shared (← store (.getResource "session" sessionId principal.id)))
  let found ← decode resource.payload.asSession
  let expiresAt ← chronoDeadline gateway.limits.sessionTtl
  let _ ← shared (← store (.putResource
    { resource with
      payload := .session { found with snapshot := changed }, expiresAt := expiresAt }
    (some resource.version)))

/-- Change a session on this node, then share the change with the cluster. -/
def mutateSessionClustered (sessionId : String) (expectedVersion : Nat)
    (targetName : Option String) (overrides : Registry String (Option String)) :
    Call SessionSnapshot := do
  let _ ← gateway.sessionClustered principal sessionId
  let changed ← gateway.mutateSession principal sessionId expectedVersion targetName overrides
  match gateway.cluster with
  | none => return changed
  | some _ =>
    gateway.shareMutation principal sessionId changed
    return changed

/-- Set overrides of a session in the cluster. -/
def updateSessionClustered (sessionId : String) (expectedVersion : Nat)
    (overrides : Registry String String) : Call SessionSnapshot :=
  gateway.mutateSessionClustered principal sessionId expectedVersion none
    (Registry.mapValues (fun _ value => some value) overrides)

/-- Move a session of the cluster to another target. -/
def switchTargetClustered (sessionId : String) (expectedVersion : Nat) (targetName : String) :
    Call SessionSnapshot :=
  gateway.mutateSessionClustered principal sessionId expectedVersion (some targetName) ∅

/-- The shared session a close finds, when it decodes. -/
def closingShare (sessionId : String) : Call (Option SharedSession) := do
  match gateway.cluster with
  | none => return none
  | some _ =>
    let found ← shared (← store (.getResource "session" sessionId principal.id))
    return found.bind fun resource => resource.payload.asSession.toOption

/-- End a session of the cluster: on this node, then in the shared store. -/
def closeSessionClustered (sessionId : String) : Call Unit := do
  let _ ← gateway.sessionClustered principal sessionId
  let closing ← gateway.closingShare principal sessionId
  closeSession principal sessionId
  match gateway.cluster with
  | none => return ()
  | some _ =>
    let _ ← shared (← store (.deleteResource "session" sessionId principal.id))
    match closing with
    | none => return ()
    | some found =>
      let _ ← store (.releaseQuota found.quotaPermit)

/-- A metadata lookup for a principal. -/
def metadataRequest (target engine : String) (properties : Registry String String)
    (catalog schema pattern : Option String) : MetadataRequest :=
  ⟨principal.id, target, engine, properties, catalog, schema, pattern⟩

/-- Build a metadata lookup on a session's target. -/
def sessionMetadataRequest (sessionId : String) (catalog schema pattern : Option String) :
    Call MetadataRequest := do
  let found ← session principal sessionId
  return metadataRequest principal found.target found.engine found.properties catalog schema pattern

/-- Build a metadata lookup on a target. -/
def targetMetadataRequest (targetName : String) (catalog schema pattern : Option String) :
    Call MetadataRequest := do
  let target ← gateway.authorizedTarget principal targetName
  return metadataRequest principal target.name target.engine target.exposed catalog schema pattern

end Gateway

end ConfluxQuery
