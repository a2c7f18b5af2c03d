import ConfluxQuery.Lib.History
import ConfluxQuery.Service.Gateway

/-!
# The protocol of gateway calls

What a gateway call may do, judged by what it has seen so far: `Allowed` states for every operation
the evidence a call has in its own trail when it performs it (it has found itself the owner of the
session it changes, it has read the row it overwrites, it has inserted the record it starts to
collect), and `Explained` states what stands behind an answer. The protocol is what the source's
control flow guarantees about one call on its own; properties of the whole system follow from it by
induction on histories.
-/

namespace ConfluxQuery

/-- The principal a request acts for. -/
def Request.principal : Request → Option AuthenticatedPrincipal
  | call principal _ => some principal
  | task (.publishQueryCompletion principal _ _) _ => some principal
  | _ => none

/-- What a collector was started with. -/
structure Collection where
  reference : Nat
  sessionId : String
  sessionVersion : Nat
  run : AdapterRun
  /-- The session ends with the query. -/
  closeSession : Bool

/-- The collection a request performs, if it is a collector. -/
def Request.collection : Request → Option Collection
  | task (.collectQuery reference sessionId version run close) _ =>
    some ⟨reference, sessionId, version, run, close⟩
  | _ => none

/-- The request collects a record. -/
def Request.Collects (request : Request) (reference : Nat) : Prop :=
  ∃ collection, request.collection = some collection ∧ collection.reference = reference

namespace Operation

/-- Overrides of a session the operation creates. -/
def created : Operation → Registry String String
  | createSession _ overrides => overrides
  | createSessionClustered _ overrides => overrides
  | submitStatelessQuery _ overrides _ => overrides
  | submitStatelessQueryClustered _ overrides _ => overrides
  | _ => ∅

/-- The session an operation mutates, with the version it expects, the target it names and the
overrides it sets or removes. -/
def mutation : Operation →
    Option (String × Nat × Option String × Registry String (Option String))
  | mutateSession id version name values => some (id, version, name, values)
  | mutateSessionClustered id version name values => some (id, version, name, values)
  | updateSessionClustered id version values =>
    some (id, version, none, Registry.mapValues (fun _ value => some value) values)
  | switchTargetClustered id version name => some (id, version, some name, ∅)
  | _ => none

/-- The prepared statement an operation binds, with the parameters. -/
def binding : Operation → Option (String × List RecordBatch)
  | bindPreparedStatement handle parameters => some (handle, parameters)
  | bindPreparedStatementClustered handle parameters => some (handle, parameters)
  | _ => none

end Operation

/-- Session properties reported by the items of a run. -/
def updatesOf (items : List QueryItem) : Registry String String :=
  items.foldl (fun updates item => match item with
    | .event event => Registry.extend updates event.updates
    | .batch _ => updates) ∅

/-- Batches among the items of a run. -/
def batchesOf (items : List QueryItem) : List RecordBatch :=
  items.filterMap fun item => match item with
    | .batch batch => some batch
    | .event _ => none

/-- A call's trail. -/
abbrev Seen : Type := Trail gatewayOps

namespace Seen

/-- The call has performed an operation and got a reply. -/
def Saw (trail : Seen) (act : Op) (reply : act.Reply) : Prop :=
  (⟨act, reply⟩ : Σ act : gatewayOps.Op, gatewayOps.Reply act) ∈ trail

/-- The call has found a principal to own a session. -/
def Touched (trail : Seen) (principal id : String) : Prop :=
  trail.Saw (.owners (.touch principal id)) true

/-- The call has drawn a session identifier. -/
def Drew (trail : Seen) (id : String) : Prop :=
  ∃ username, trail.Saw (.sessions (.nextSessionId username)) id

/-- The call's last step was to draw a session identifier. -/
def JustDrew (trail : Seen) (id : String) : Prop :=
  ∃ username rest, trail = ⟨.sessions (.nextSessionId username), id⟩ :: rest

/-- The call has read a shared resource. -/
def Read (trail : Seen) (kind id principal : String) (resource : Resource) : Prop :=
  trail.Saw (.store (.getResource kind id principal)) (.ok (some resource))

/-- The call has the parameters a shared statement names: none, or those of the object it has got
and read. -/
inductive Loaded (trail : Seen) : Option String → List RecordBatch → Prop
  | none : Loaded trail none []
  | object (key : String) (file : IpcFile) (entries : FileReader) (parameters : List RecordBatch)
      (got : trail.Saw (.objects (.get key)) (.ok (some file)))
      (read : trail.Saw (.host (.readFile file)) (.ok entries))
      (decoded : entries.mapM id = .ok parameters) : Loaded trail (some key) parameters

/-- The call has found a session's time to be up. -/
def Expired (trail : Seen) (id : String) : Prop :=
  ∃ owner now ttl list, (id, owner) ∈ list ∧
    (trail.Saw (.owners (.expired now ttl)) list ∨
      trail.Saw (.prepared (.retainUnexpired now ttl)) list)

/-- The cleanup a call is in has found a session idle, and has not cancelled its queries yet. -/
def pending (id : String) : Seen → Bool
  | [] => false
  | ⟨.records (.cancelSession other), _⟩ :: rest => other != id && pending id rest
  | ⟨.sessions (.close _), _⟩ :: rest => pending id rest
  | ⟨.owners (.remove _), _⟩ :: rest => pending id rest
  | ⟨.owners (.expired _ _), idle⟩ :: _ => idle.any fun entry => entry.1 == id
  | _ :: _ => false

/-- The call has found a record of a principal. -/
def Found (trail : Seen) (principal : String) (reference : Nat) : Prop :=
  ∃ id, trail.Saw (.records (.findOwned principal id)) (some reference)

/-- The call has inserted a record. -/
def Inserted (trail : Seen) (record : QueryRecord) (reference : Nat) : Prop :=
  trail.Saw (.records (.insert record)) reference

/-- The call has obtained a snapshot of a session as its owner: from this node's copy, from the
shared record it hydrated, or by creating the session. -/
inductive Holds (trail : Seen) (principal : String) : SessionSnapshot → Prop
  | cached (found : SessionSnapshot) (owned : trail.Touched principal found.id)
      (read : trail.Saw (.sessions (.snapshot found.id)) (.ok found)) :
      Holds trail principal found
  | hydrated (found : SessionSnapshot) (permit : String) (resource : Resource) (id : String)
      (read : trail.Read "session" id principal resource)
      (payload : resource.payload = .session ⟨found, permit⟩) : Holds trail principal found
  | created (session : Session) (inserted : trail.Saw (.sessions (.insert session)) ()) :
      Holds trail principal (snapshot session)

/-- Batches the call has offered to a record, oldest first. -/
def collected (reference : Nat) : Seen → List RecordBatch
  | [] => []
  | ⟨.records (.collectBatch _ other batch), _⟩ :: rest =>
    if other = reference then collected reference rest ++ [batch] else collected reference rest
  | _ :: rest => collected reference rest

/-- The call has recorded the end of a query. -/
def Ended (trail : Seen) (reference : Nat) : Prop :=
  ∃ event, trail.Saw (.records (.pushEvent reference event true)) ()

/-- The call's last steps were to close a session and to forget its owner. -/
def JustClosed (trail : Seen) (id : String) : Prop :=
  ∃ reply rest, trail = ⟨.owners (.remove id), ()⟩ :: ⟨.sessions (.close id), reply⟩ :: rest

/-- The call's last step was to read a shared resource. -/
def JustRead (trail : Seen) (kind id principal : String) (found : Option Resource) : Prop :=
  ∃ rest, trail = ⟨.store (.getResource kind id principal), .ok found⟩ :: rest

/-- The call's last steps were to read a shared resource and then the clock. -/
def JustReadAt (trail : Seen) (kind id principal : String) (found : Resource) (now : Nat) : Prop :=
  ∃ rest, trail = ⟨.host .clock, now⟩ :: rest ∧ JustRead rest kind id principal (some found)

/-- The lease a call presents is the one it was started with, or one it has got by renewing. -/
def Presents (trail : Seen) (started lease : QueryLease) : Prop :=
  lease = started ∨ ∃ previous ttl,
    trail.Saw (.store (.renewQuery previous ttl)) (.ok lease)

/-- The call has inserted a record and then read it back. -/
def Submitted (trail : Seen) (reference : Nat) (stored : QueryRecord) : Prop :=
  (∃ record, trail.Inserted record reference) ∧
    trail.Saw (.records (.inspect reference)) stored

end Seen

/-- A call may end a session: its principal owns it, it drew the identifier itself, the session's
time is up, or the session was made for the query the call collects. -/
inductive Request.Ends (request : Request) (trail : Seen) (id : String) : Prop
  | owner (principal : AuthenticatedPrincipal) (acts : request.principal = some principal)
      (owned : trail.Touched principal.id id)
  | creator (drew : trail.Drew id)
  | expired (expired : trail.Expired id)
  | stateless (collection : Collection) (collects : request.collection = some collection)
      (named : collection.sessionId = id) (closes : collection.closeSession = true)

/-- A call may cancel the queries of a session: it has just found its principal to own the session,
the cleanup it is in has found the session idle, or the session belongs to a prepared statement
whose time is up. -/
inductive Request.Cancels (request : Request) (trail : Seen) (id : String) : Prop
  | owner (principal : AuthenticatedPrincipal) (rest : Seen)
      (acts : request.principal = some principal)
      (just : trail = ⟨.owners (.touch principal.id id), true⟩ :: rest)
  | idle (pending : trail.pending id = true)
  | dropped (owner : String) (now ttl : Nat) (handles : List (String × String))
      (member : (id, owner) ∈ handles)
      (saw : trail.Saw (.prepared (.retainUnexpired now ttl)) handles)

section

variable (gateway : Gateway) (request : Request) (trail : Seen)

/-- What a call has seen when it performs a section of the session manager. -/
@[reducible] def SessionOp.Allowed : SessionOp → Prop
  | restore shared target => ∃ principal id resource permit,
      request.principal = some principal ∧
      trail.JustRead "session" id principal.id (some resource) ∧
      resource.payload = .session ⟨shared, permit⟩ ∧
      gateway.config.target shared.target = some target
  | nextSessionId _ => (∃ principal operation, request = .call principal operation) ∧
      ∀ id, ¬trail.Drew id
  | insert session => ∃ principal operation, request = .call principal operation ∧
      trail.JustDrew session.id ∧ session.version = 1 ∧
      gateway.config.target session.target.name = some session.target ∧
      principal.canUseTarget session.target.name = true ∧
      session.overrides = operation.created
  | snapshot id => ∃ principal, request.principal = some principal ∧ trail.Touched principal.id id
  | setOptions id version values =>
      (∃ principal, request = .call principal (.updateSession id version values) ∧
        trail.Touched principal.id id) ∨
      ∃ collection, request.collection = some collection ∧ collection.closeSession = false ∧
        id = collection.sessionId ∧ version = collection.sessionVersion ∧
        values = updatesOf collection.run.items
  | switchTarget id version target => ∃ principal,
      request = .call principal (.switchTarget id version target.name) ∧
      trail.Touched principal.id id ∧
      gateway.config.target target.name = some target ∧
      principal.canUseTarget target.name = true
  | mutate id version target values => ∃ principal operation,
      request = .call principal operation ∧
      operation.mutation = some (id, version, target.map ResolvedTarget.name, values) ∧
      trail.Touched principal.id id ∧
      ∀ named, target = some named → gateway.config.target named.name = some named ∧
        principal.canUseTarget named.name = true
  | close id => request.Ends trail id

/-- What a call has seen when it performs a section on session owners. -/
@[reducible] def OwnerOp.Allowed : OwnerOp → Prop
  | touch owner _ => ∃ principal, request.principal = some principal ∧ owner = principal.id
  | insert id owner => ∃ principal, request.principal = some principal ∧ owner = principal.id ∧
      ((∃ session, trail.Saw (.sessions (.insert session)) () ∧ session.id = id) ∨
        ∃ shared target, trail.Saw (.sessions (.restore shared target)) (.ok ()) ∧
          shared.id = id)
  | remove id => request.Ends trail id
  | count _ => True
  | expired now ttl => trail.Saw (.host .clock) now ∧ ttl = gateway.limits.sessionTtl

/-- What a call has seen when it performs a section on query records. Only the collector of a
record fills it, in the order of the adapter's items; a cancelling call may add its event. -/
@[reducible] def RecordOp.Allowed : RecordOp → Prop
  | len | countActive _ | activeQueryCount | cancelActive | retainUnexpired _ _ => True
  | insert record => ∃ principal operation uuid rest found,
      request = .call principal operation ∧ trail = ⟨.host .uuid, uuid⟩ :: rest ∧
      trail.Holds principal.id found ∧
      record = ⟨"qcli_" ++ uuid, principal.id, found.id, found.version, found.target,
        found.engine, false, .submitted⟩
  | findOwned owner _ => ∃ principal, request.principal = some principal ∧ owner = principal.id
  | cancelSession id => request.Cancels trail id
  | cancel reference => request.Collects reference ∨
      ∃ principal, request.principal = some principal ∧ trail.Found principal.id reference
  | inspect reference => (∃ record, trail.Inserted record reference) ∨
      ∃ principal, request.principal = some principal ∧ trail.Found principal.id reference
  | pushEvent reference event terminal =>
      (∃ principal id, request = .call principal (.cancel id) ∧
        trail.Saw (.records (.findOwned principal.id id)) (some reference) ∧
        event = .state .cancelling ∧ terminal = false) ∨
      (request.Collects reference ∧ ¬trail.Ended reference ∧
        (∀ state, event = .state state → terminal = state.terminal) ∧
        (terminal = true → (∃ state, event = .state state) ∧
          ∃ reply, trail.Saw (.records (.finishResults reference)) reply ∧
            ∀ error, reply = .error error → trail.Saw (.records (.setError reference error)) ()))
  | setEngineQueryId reference _ => request.Collects reference
  | collectBatch limits reference batch => ∃ collection,
      request.collection = some collection ∧ collection.reference = reference ∧
      limits = gateway.limits ∧
      trail.collected reference ++ [batch] <+: batchesOf collection.run.items ∧
      ∀ reply, ¬trail.Saw (.records (.finishResults reference)) reply
  | finishResults reference => ∃ collection,
      request.collection = some collection ∧ collection.reference = reference ∧
      trail.collected reference = batchesOf collection.run.items ∧
      ∀ reply, ¬trail.Saw (.records (.finishResults reference)) reply
  | setError reference _ => request.Collects reference
  | setErrorIfNone reference _ => request.Collects reference

/-- What a call has seen when it performs a section on prepared statements. -/
@[reducible] def PreparedOp.Allowed : PreparedOp → Prop
  | retainUnexpired _ _ | acquire | release => True
  | create _ record => ∃ principal operation, request = .call principal operation ∧
      record.owner = principal.id ∧ record.ownsSession = false ∧
      trail.Touched principal.id record.sessionId
  | insert handle record => ∃ principal operation resource found,
      request = .call principal operation ∧ trail.Read "prepared" handle principal.id resource ∧
      resource.payload = .prepared found ∧ record.owner = principal.id ∧
      record.sessionId = found.sessionId ∧ record.ownsSession = false ∧
      trail.Loaded found.parametersKey record.parameters
  | touch owner _ | peek owner _ | remove owner _ => ∃ principal,
      request.principal = some principal ∧ owner = principal.id
  | ownSession handle => ∃ limit record created,
      trail.Saw (.prepared (.create limit record)) (some created) ∧ created.handle = handle
  | dropSession id => ∃ principal, request.principal = some principal ∧
      trail.Touched principal.id id
  | bind handle record => ∃ principal operation old parameterSchema parameters,
      request = .call principal operation ∧ operation.binding = some (handle, parameters) ∧
      trail.Saw (.prepared (.peek principal.id handle)) (some old) ∧
      record = { old with parameterSchema := parameterSchema, parameters := parameters }

/-- The lease a call writes a query's shared record under: one it has claimed for a query it has
submitted, or the one its publisher was started with, for the query it publishes. -/
inductive Request.Leases (request : Request) (trail : Seen) (id : String) : Nat → Prop
  | claimed (principal : AuthenticatedPrincipal) (operation : Operation) (node : String)
      (ttl reference : Nat) (stored : QueryRecord) (lease : QueryLease)
      (called : request = .call principal operation)
      (submitted : trail.Submitted reference stored) (named : id = stored.id)
      (claimed : trail.Saw (.store (.claimQuery id principal.id node ttl)) (.ok lease)) :
      Leases request trail id lease.fencingToken
  | published (principal : AuthenticatedPrincipal) (queryId : String) (lease : QueryLease)
      (polls reference : Nat) (stored : QueryRecord)
      (task : request = .task (.publishQueryCompletion principal queryId lease) polls)
      (found : trail.Saw (.records (.findOwned principal.id queryId)) (some reference))
      (read : trail.Saw (.records (.inspect reference)) stored) (named : id = stored.id) :
      Leases request trail id lease.fencingToken

/-- The writes of shared resources, with what the call has seen before each. -/
inductive Request.Writes (request : Request) (trail : Seen) : Resource → Option Nat → Prop
  | createSession (principal : AuthenticatedPrincipal) (operation : Operation)
      (session : Session) (permit : String) (expiresAt : Nat)
      (called : request = .call principal operation)
      (inserted : trail.Saw (.sessions (.insert session)) ()) :
      Writes request trail ⟨session.id, principal.id, "session", 0,
        .session ⟨snapshot session, permit⟩, expiresAt⟩ (some 0)
  | mutateSession (principal : AuthenticatedPrincipal) (operation : Operation) (id : String)
      (version now expiresAt : Nat) (target : Option ResolvedTarget)
      (values : Registry String (Option String)) (changed : SessionSnapshot)
      (resource : Resource) (found : SharedSession)
      (called : request = .call principal operation)
      (mutated : trail.Saw (.sessions (.mutate id version target values)) (.ok changed))
      (read : trail.JustReadAt "session" id principal.id resource now)
      (payload : resource.payload = .session found) :
      Writes request trail
        { resource with
          payload := .session { found with snapshot := changed }, expiresAt := expiresAt }
        (some resource.version)
  | shareQuery (principal : AuthenticatedPrincipal) (status : QueryStatus)
      (resultKey : Option String) (batchCount token expiresAt : Nat) (current : Option Resource)
      (acts : request.principal = some principal)
      (read : trail.JustRead "query" status.id principal.id current)
      (leased : request.Leases trail status.id token)
      (keyed : resultKey ≠ none → status.state = .completed) :
      Writes request trail ⟨status.id, principal.id, "query", 0,
        .query ⟨status, resultKey, batchCount, token⟩, expiresAt⟩
        ((current.map SharedResource.version).or (some 0))
  | recoverQuery (principal : AuthenticatedPrincipal) (id node : String) (ttl expiresAt : Nat)
      (resource : Resource) (found : SharedQuery) (error : QueryError) (lease : QueryLease)
      (called : request = .call principal (.recoverQueryClustered id))
      (read : [⟨.store (.claimQuery id principal.id node ttl), .ok lease⟩,
        ⟨.store (.getResource "query" id principal.id), .ok (some resource)⟩].Sublist trail)
      (payload : resource.payload = .query found)
      (running : found.status.state.terminal = false) :
      Writes request trail
        { resource with
          payload := .query { found with
            status := { found.status with state := .failed, error := some error }
            fencingToken := lease.fencingToken }
          expiresAt := expiresAt }
        (some resource.version)
  | createPrepared (principal : AuthenticatedPrincipal) (operation : Operation)
      (limit expiresAt : Nat) (record : PreparedStatementRecord)
      (created : PreparedStatementSnapshot) (sql : String)
      (called : request = .call principal operation)
      (inserted : trail.Saw (.prepared (.create limit record)) (some created)) :
      Writes request trail ⟨created.handle, principal.id, "prepared", 0,
        .prepared ⟨record.sessionId, sql, none⟩, expiresAt⟩ (some 0)
  | bindPrepared (principal : AuthenticatedPrincipal) (handle : String)
      (parameters : List RecordBatch) (now expiresAt : Nat) (resource : Resource)
      (found : SharedPrepared) (key : String)
      (called : request = .call principal (.bindPreparedStatementClustered handle parameters))
      (read : trail.JustReadAt "prepared" handle principal.id resource now)
      (payload : resource.payload = .prepared found) :
      Writes request trail
        { resource with
          payload := .prepared { found with parametersKey := some key }, expiresAt := expiresAt }
        (some resource.version)

/-- The calls that give up a lease: a publisher its own, and a recovery the one it has claimed,
right after its record of the lost query was accepted. -/
inductive Request.Relinquishes (request : Request) (trail : Seen) : QueryLease → Prop
  | publisher (principal : AuthenticatedPrincipal) (id : String) (started : QueryLease)
      (polls : Nat) (lease : QueryLease)
      (task : request = .task (.publishQueryCompletion principal id started) polls)
      (presents : trail.Presents started lease) : Relinquishes request trail lease
  | recovery (principal : AuthenticatedPrincipal) (node : String) (ttl : Nat)
      (lease : QueryLease) (resource stored : Resource) (expected : Option Nat)
      (found : SharedQuery) (rest : Seen)
      (called : request = .call principal (.recoverQueryClustered resource.resourceId))
      (claimed : trail.Saw (.store (.claimQuery resource.resourceId principal.id node ttl))
        (.ok lease))
      (wrote : trail = ⟨.store (.putResource resource expected), .ok stored⟩ :: rest)
      (kind : resource.kind = "query") (payload : resource.payload = .query found)
      (ended : found.status.state.terminal = true) : Relinquishes request trail lease

/-- What a call has seen when it calls the shared store. -/
@[reducible] def StoreOp.Allowed : StoreOp → Prop
  | putResource resource expected => request.Writes trail resource expected
  | getResource _ _ owner => ∃ principal, request.principal = some principal ∧ owner = principal.id
  | deleteResource kind id owner => ∃ principal, owner = principal.id ∧
      ((kind = "session" ∧ request = .call principal (.closeSessionClustered id) ∧
          trail.Saw (.sessions (.close id)) (.ok ()) ∧ trail.Saw (.owners (.remove id)) ()) ∨
        (kind = "prepared" ∧ request = .call principal (.closePreparedStatementClustered id)))
  | claimQuery id owner _ _ => ∃ principal operation, request = .call principal operation ∧
      owner = principal.id ∧
      ((∃ reference stored, trail.Submitted reference stored ∧ id = stored.id) ∨
        operation = .recoverQueryClustered id)
  | renewQuery lease _ => ∃ principal id started polls,
      request = .task (.publishQueryCompletion principal id started) polls ∧
      trail.Presents started lease
  | releaseQuery lease => request.Relinquishes trail lease
  | acquireQuota _ _ _ _ | releaseQuota _ => True

end

/-- What work for an engine says about the session it runs in. -/
structure WorkContext where
  sessionId : String
  sessionVersion : Nat
  target : String
  engine : String
  /-- Properties handed to the engine. -/
  properties : Registry String String

/-- The session a query runs in. -/
def QueryRequest.context (request : QueryRequest) : WorkContext :=
  ⟨request.sessionId, request.sessionVersion, request.target, request.engine, request.properties⟩

/-- The session an ingestion runs in. -/
def IngestRequest.context (request : IngestRequest) : WorkContext :=
  ⟨request.sessionId, request.sessionVersion, request.target, request.engine, request.properties⟩

/-- The session a snapshot was taken of. -/
def SessionSnapshot.context (found : SessionSnapshot) : WorkContext :=
  ⟨found.id, found.version, found.target, found.engine, found.properties⟩

/-- The session work for an engine runs in. -/
def AdapterOp.context : AdapterOp → WorkContext
  | execute request _ => request.context
  | prepare request => request.context
  | executeUpdate request => request.context
  | executePreparedUpdate request _ => request.context
  | ingest request _ => request.context

section

variable (gateway : Gateway) (request : Request) (trail : Seen)

/-- What a call has seen when it calls an engine adapter: it holds the snapshot of the session. -/
@[reducible] def AdapterOp.Allowed (op : AdapterOp) : Prop :=
  ∃ principal operation found, request = .call principal operation ∧
    trail.Holds principal.id found ∧ op.context = found.context

/-- What a call has seen when it starts background work: a collector for the record it has
inserted, a publisher for the lease it has claimed, each once. -/
@[reducible] def Task.Allowed : Task → Prop
  | collectQuery reference sessionId version run close => ∃ principal operation record,
      request = .call principal operation ∧ trail.Inserted record reference ∧
      record.sessionId = sessionId ∧ record.sessionVersion = version ∧
      (∃ sent parameters, trail.Saw (.adapter (.execute sent parameters)) run) ∧
      (close = true → trail.Drew sessionId) ∧
      ∀ sessionId version run close,
        ¬trail.Saw (.host (.spawn (.collectQuery reference sessionId version run close))) ()
  | publishQueryCompletion principal queryId lease => ∃ operation node ttl reference stored,
      request = .call principal operation ∧
      trail.Submitted reference stored ∧ queryId = stored.id ∧
      trail.Saw (.store (.claimQuery queryId principal.id node ttl)) (.ok lease) ∧
      ∀ principal queryId lease,
        ¬trail.Saw (.host (.spawn (.publishQueryCompletion principal queryId lease))) ()

/-- What a call has seen when it asks something of its process. -/
@[reducible] def HostOp.Allowed : HostOp → Prop
  | spawn task => task.Allowed request trail
  | beginShutdown => request = .beginShutdown
  | _ => True

/-- What a call has seen when it performs an operation. -/
@[reducible] def Op.Allowed : Op → Prop
  | sessions op => op.Allowed gateway request trail
  | owners op => op.Allowed gateway request trail
  | records op => op.Allowed gateway request trail
  | prepared op => op.Allowed request trail
  | store op => gateway.cluster.isSome = true ∧ op.Allowed request trail
  | objects _ => True
  | adapter op => op.Allowed request trail
  | host op => op.Allowed request trail

end

/-- Replies an operation can have, whatever the state it is performed on. -/
@[reducible] def Op.Possible : (op : Op) → op.Reply → Prop
  | .sessions (.snapshot id), reply =>
      (∀ found, reply = .ok found → found.id = id) ∧
        ∀ error, reply = .error error → error = .sessionNotFound id
  | .sessions (.close id), reply => ∀ error, reply = .error error → error = .sessionNotFound id
  | .sessions (.restore shared _), reply =>
      ∀ error, reply = .error error → error = .sessionNotFound shared.id
  | .sessions (.setOptions id version _), reply =>
      ∀ changed, reply = .ok changed → changed.id = id ∧ changed.version = version + 1
  | .sessions (.switchTarget id version _), reply =>
      ∀ changed, reply = .ok changed → changed.id = id ∧ changed.version = version + 1
  | .sessions (.mutate id version _ _), reply =>
      ∀ changed, reply = .ok changed → changed.id = id ∧ changed.version = version + 1
  | .owners (.expired _ _), idle => (idle.map Prod.fst).Nodup
  | .prepared (.create _ record), reply =>
      ∀ created, reply = some created → created.sessionId = record.sessionId
  | .prepared (.touch _ handle), reply => ∀ found, reply = some found → found.handle = handle
  | .prepared (.bind handle _), reply => reply.handle = handle
  | .store (.getResource kind id principal), reply => ∀ found, reply = .ok (some found) →
      found.kind = kind ∧ found.resourceId = id ∧ found.principalId = principal
  | .store (.claimQuery id principal _ _), reply => ∀ lease, reply = .ok lease →
      lease.queryId = id ∧ lease.principalId = principal
  | .store (.renewQuery lease _), reply => ∀ renewed, reply = .ok renewed →
      renewed.fencingToken = lease.fencingToken
  | .host (.readFile file), reply => ∀ reader, reply = .ok reader →
      file.intact = true → file.finished = true →
      List.Forall₂ (fun entry batch => ∀ value, entry = .ok value → value = batch) reader
        file.batches
  | _, _ => True

end ConfluxQuery
