import ConfluxQuery.Service.Types

/-!
# Session owners and prepared statements

The two smaller registries of a gateway: which principal owns a session, and the prepared
statements. The prepared registry is the one whose lock is held across sections of the others (while
a statement is bound), so its lock is part of the state: an operation that needs a lock another call
holds does not happen yet, and once a call has panicked under the lock no later one gets it.
-/

namespace ConfluxQuery

/-- The owner of a session. -/
structure SessionOwner where
  /-- Principal that owns the session. -/
  principal : String
  lastAccess : Nat
  deriving DecidableEq, Repr

/-- The sections on session owners that run under one lock. -/
inductive OwnerOp
  | touch (principal id : String)
  | insert (id principal : String)
  | remove (id : String)
  | count (principal : String)
  | expired (now ttl : Nat)

/-- Reply to a section on session owners. -/
@[reducible] def OwnerOp.Reply : OwnerOp → Type
  | touch _ _ => Bool
  | insert _ _ => Unit
  | remove _ => Unit
  | count _ => Nat
  | expired _ _ => List (String × String)

/-- A principal owns a session. -/
def owns (owners : Registry String SessionOwner) (principal id : String) : Bool :=
  (owners.lookup id).any fun owner => owner.principal == principal

/-- Perform a section on session owners. Using a session one owns renews it. -/
def OwnerOp.apply (now : Nat) (owners : Registry String SessionOwner) :
    (op : OwnerOp) → op.Reply × Registry String SessionOwner
  | touch principal id =>
    if owns owners principal id then
      (true, Registry.adjust id (fun owner => { owner with lastAccess := now }) owners)
    else (false, owners)
  | insert id principal => ((), owners.insert id ⟨principal, now⟩)
  | remove id => ((), owners.erase id)
  | count principal =>
    (Registry.count (fun _ owner => owner.principal == principal) owners, owners)
  | expired now ttl =>
    ((Registry.toList owners).filterMap fun entry =>
      if now - entry.2.lastAccess ≥ ttl then some (entry.1, entry.2.principal) else none, owners)

/-- A prepared statement. -/
structure PreparedStatementRecord where
  owner : String
  sessionId : String
  /-- The session was made for this statement alone. -/
  ownsSession : Bool
  sql : String
  datasetSchema : Schema
  parameterSchema : Schema
  parameters : List RecordBatch
  lastAccess : Nat
  deriving DecidableEq, Repr

/-- What a caller learns about a prepared statement. -/
structure PreparedStatementSnapshot where
  handle : String
  sessionId : String
  sql : String
  datasetSchema : Schema
  parameterSchema : Schema
  parameters : List RecordBatch
  deriving DecidableEq, Repr

/-- The public part of a prepared statement. -/
def preparedSnapshot (handle : String) (record : PreparedStatementRecord) :
    PreparedStatementSnapshot where
  handle := handle
  sessionId := record.sessionId
  sql := record.sql
  datasetSchema := record.datasetSchema
  parameterSchema := record.parameterSchema
  parameters := record.parameters

/-- The state of a lock. -/
inductive Lock
  | free | held | poisoned
  deriving DecidableEq, Repr

/-- The prepared statements of a gateway. -/
structure PreparedRegistry where
  statements : Registry String PreparedStatementRecord
  lock : Lock

/-- A registry without statements. -/
def PreparedRegistry.empty : PreparedRegistry := ⟨∅, .free⟩

/-- The statement of a handle, when it belongs to a principal. -/
def PreparedRegistry.findOwned (registry : PreparedRegistry) (principal handle : String) :
    Option PreparedStatementRecord :=
  (registry.statements.lookup handle).filter fun record => record.owner == principal

/-- The sections on prepared statements. `acquire` and `release` bracket the sections a caller
performs under the lock it holds, `peek` and `bind`; every other section takes the lock for
itself. -/
inductive PreparedOp
  | retainUnexpired (now ttl : Nat)
  | create (limit : Nat) (record : PreparedStatementRecord)
  | insert (handle : String) (record : PreparedStatementRecord)
  | touch (principal handle : String)
  | ownSession (handle : String)
  | remove (principal handle : String)
  | dropSession (sessionId : String)
  | acquire
  | peek (principal handle : String)
  | bind (handle : String) (record : PreparedStatementRecord)
  | release

/-- Reply to a section on prepared statements. -/
@[reducible] def PreparedOp.Reply : PreparedOp → Type
  | retainUnexpired _ _ => List (String × String)
  | create _ _ => Option PreparedStatementSnapshot
  | insert _ _ => Unit
  | touch _ _ => Option PreparedStatementSnapshot
  | ownSession _ => Bool
  | remove _ _ => Option PreparedStatementRecord
  | dropSession _ => Unit
  | acquire => Unit
  | peek _ _ => Option PreparedStatementRecord
  | bind _ _ => PreparedStatementSnapshot
  | release => Unit

namespace PreparedOp

/-- The section is performed by a caller that holds the lock. -/
def underLock : PreparedOp → Bool
  | peek _ _ | bind _ _ | release => true
  | _ => false

/-- Perform a section on prepared statements, once the lock allows it. New handles are `uuid`. -/
def perform (now : Nat) (uuid : String) (registry : PreparedRegistry) :
    (op : PreparedOp) → op.Reply × PreparedRegistry
  | retainUnexpired now ttl =>
    let keep (record : PreparedStatementRecord) : Bool := decide (now - record.lastAccess < ttl)
    ((Registry.toList registry.statements).filterMap fun entry =>
      if !keep entry.2 && entry.2.ownsSession then some (entry.2.sessionId, entry.2.owner)
      else none,
      { registry with statements := Registry.retain (fun _ => keep) registry.statements })
  | create limit record =>
    if Registry.size registry.statements ≥ limit then (none, registry)
    else
      let record := { record with lastAccess := now }
      (some (preparedSnapshot uuid record),
        { registry with statements := registry.statements.insert uuid record })
  | insert handle record =>
    ((), { registry with statements := registry.statements.insert handle record })
  | touch principal handle =>
    match registry.findOwned principal handle with
    | none => (none, registry)
    | some record =>
      let record := { record with lastAccess := now }
      (some (preparedSnapshot handle record),
        { registry with statements := registry.statements.insert handle record })
  | ownSession handle =>
    match registry.statements.lookup handle with
    | none => (false, { registry with lock := .poisoned })
    | some record =>
      (true, { registry with
        statements := registry.statements.insert handle { record with ownsSession := true } })
  | remove principal handle =>
    match registry.findOwned principal handle with
    | none => (none, registry)
    | some record =>
      (some record, { registry with statements := registry.statements.erase handle })
  | dropSession sessionId =>
    ((), { registry with
      statements := Registry.retain (fun _ record => record.sessionId != sessionId)
        registry.statements })
  | acquire => ((), { registry with lock := .held })
  | peek principal handle => (registry.findOwned principal handle, registry)
  | bind handle record =>
    let record := { record with lastAccess := now }
    (preparedSnapshot handle record,
      { registry with statements := registry.statements.insert handle record })
  | release => ((), { registry with lock := .free })

/-- Perform a section when the lock allows it. -/
def apply (now : Nat) (uuid : String) (registry : PreparedRegistry) (op : PreparedOp) :
    Option (op.Reply × PreparedRegistry) :=
  if registry.lock = (if op.underLock then .held else .free) then
    some (op.perform now uuid registry)
  else none

end PreparedOp

end ConfluxQuery
