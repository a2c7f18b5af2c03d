import ConfluxQuery.Lib.Registry

/-!
# The shared state store of a cluster

The coordination interface of `qcli-cluster` that gateways use: versioned resources, query leases
with fencing tokens, and quota permits. A call of the store is one step on its state. `LawfulStore`
says what every call does to the stored rows, for any implementation; `CompareAndSwapStore` adds the
contract a writer relies on when it presents a version. Node registration is left out: no modelled
operation reads it. Versions and tokens are natural numbers, so their wrap-around after `2 ^ 63`
writes or claims is left out; times are milliseconds of the Unix epoch, durations milliseconds.
-/

namespace ConfluxQuery

/-- An error of the shared store. -/
structure ClusterError where
  code : String
  message : String
  deriving DecidableEq, Repr

/-- A shared resource with an opaque payload. -/
structure SharedResource (ν : Type) where
  resourceId : String
  principalId : String
  kind : String
  /-- Version, raised by each accepted write. -/
  version : Nat
  payload : ν
  expiresAt : Nat
  deriving DecidableEq, Repr

/-- A node's claim on a query. -/
structure QueryLease where
  queryId : String
  principalId : String
  ownerNodeId : String
  /-- Token that orders successive claims. -/
  fencingToken : Nat
  leaseExpiresAt : Nat
  deriving DecidableEq, Repr

/-- A quota permit. -/
structure QuotaPermit where
  principalId : String
  quota : String
  expiresAt : Nat
  deriving DecidableEq, Repr

/-- The last millisecond of the dates of `chrono`, in the year 262142. -/
def maxUtc : Nat := 8210266876799999

/-- The time a duration ends, where a duration of more than `i64::MAX` milliseconds becomes a year.
There is none beyond the dates of `chrono`: the addition panics. -/
def deadline (now ttl : Nat) : Option Nat :=
  let time := now + if ttl < 2 ^ 63 then ttl else 365 * 24 * 60 * 60 * 1000
  if time ≤ maxUtc then some time else none

/-- A call that panics has no reply; here it has an error of its own. -/
def panicked (message : String) : ClusterError := ⟨"panic", message⟩

/-- The store's interface. Every call is a function of the store's state and, where the
implementation reads it, the store's clock. -/
class ClusterStateStore (S : Type) (ν : outParam Type) where
  /-- Write a resource, optionally only over a given version. -/
  putResource (now : Nat) (resource : SharedResource ν) (expectedVersion : Option Nat) (store : S) :
    Except ClusterError (SharedResource ν) × S
  /-- Read a resource of a principal. -/
  getResource (now : Nat) (kind resourceId principalId : String) (store : S) :
    Except ClusterError (Option (SharedResource ν))
  /-- Delete a resource of a principal. -/
  deleteResource (kind resourceId principalId : String) (store : S) : Except ClusterError Bool × S
  claimQuery (now : Nat) (queryId principalId nodeId : String) (ttl : Nat) (store : S) :
    Except ClusterError QueryLease × S
  renewQuery (now : Nat) (lease : QueryLease) (ttl : Nat) (store : S) :
    Except ClusterError QueryLease × S
  releaseQuery (lease : QueryLease) (store : S) : Except ClusterError Bool × S
  /-- Take a quota permit, under the identifier `permit` when it is granted. -/
  acquireQuota (now : Nat) (permit principalId quota : String) (limit ttl : Nat) (store : S) :
    Except ClusterError String × S
  releaseQuota (permitId : String) (store : S) : Except ClusterError Unit × S

/-- The version a writer has to present: zero when nothing is stored. -/
def storedVersion {ν : Type} (row : Option (SharedResource ν)) : Nat :=
  (row.map SharedResource.version).getD 0

open ClusterStateStore in
/-- What the calls of a store do to its rows and to its fencing tokens, whatever keeps them. -/
class LawfulStore (S : Type) {ν : outParam Type} [ClusterStateStore S ν] where
  /-- The stored row of a kind and an identifier, visible or not. -/
  row : S → String → String → Option (SharedResource ν)
  /-- An upper bound of the tokens issued so far. -/
  fence : S → Nat
  /-- A row is stored under its own kind and identifier. -/
  row_keyed : ∀ {store kind id held}, row store kind id = some held →
    held.kind = kind ∧ held.resourceId = id
  /-- A successful write stores the resource under the next version and nothing else; an existing
  row belongs to the same principal and has the version presented. -/
  put_ok : ∀ {now resource expected store stored after},
    putResource now resource expected store = (.ok stored, after) →
      let current := row store resource.kind resource.resourceId
      stored = { resource with version := storedVersion current + 1 } ∧
      (∀ kind id, row after kind id =
        if kind = resource.kind ∧ id = resource.resourceId then some stored
        else row store kind id) ∧
      (∀ held, current = some held → held.principalId = resource.principalId ∧
        ∀ version, expected = some version → version = held.version) ∧
      fence after = fence store
  /-- A refused write changes nothing. -/
  put_error : ∀ {now resource expected store error after},
    putResource now resource expected store = (.error error, after) →
      row after = row store ∧ fence after = fence store
  /-- A read returns the stored row of its own principal, while it is visible. -/
  get_some : ∀ {now kind id principal store found},
    getResource now kind id principal store = .ok (some found) →
      row store kind id = some found ∧ found.principalId = principal ∧ now < found.expiresAt
  /-- A read that finds nothing has no visible row to find. -/
  get_none : ∀ {now kind id principal store},
    getResource now kind id principal store = .ok none →
      ∀ held, row store kind id = some held → held.expiresAt ≤ now
  /-- A read is refused only for a row of another principal. -/
  get_error : ∀ {now kind id principal store error},
    getResource now kind id principal store = .error error →
      error.code = "forbidden" ∧
        ∃ held, row store kind id = some held ∧ held.principalId ≠ principal
  /-- A successful delete leaves no row of the principal under that key, and other rows as they
  were. -/
  delete_ok : ∀ {kind id principal store deleted after},
    deleteResource kind id principal store = (.ok deleted, after) →
      (∀ held, row store kind id = some held → held.principalId = principal →
        row after kind id = none) ∧
      (∀ held, row store kind id = some held → held.principalId ≠ principal →
        row after kind id = some held) ∧
      (row store kind id = none → row after kind id = none) ∧
      (∀ kind' id', ¬(kind' = kind ∧ id' = id) → row after kind' id' = row store kind' id') ∧
      fence after = fence store
  /-- A refused delete changes nothing. -/
  delete_error : ∀ {kind id principal store error after},
    deleteResource kind id principal store = (.error error, after) →
      row after = row store ∧ fence after = fence store
  /-- A claim issues a token above every earlier one. -/
  claim_ok : ∀ {now query principal node ttl store lease after},
    claimQuery now query principal node ttl store = (.ok lease, after) →
      row after = row store ∧ lease.queryId = query ∧ lease.principalId = principal ∧
        lease.ownerNodeId = node ∧
        fence store < lease.fencingToken ∧ lease.fencingToken ≤ fence after
  /-- A refused claim issues no token. -/
  claim_error : ∀ {now query principal node ttl store error after},
    claimQuery now query principal node ttl store = (.error error, after) →
      row after = row store ∧ fence store ≤ fence after
  /-- Renewal keeps rows and tokens, and the token of the lease. -/
  renew_rows : ∀ {now lease ttl store reply after},
    renewQuery now lease ttl store = (reply, after) →
      row after = row store ∧ fence after = fence store ∧
        ∀ renewed, reply = .ok renewed → renewed.fencingToken = lease.fencingToken
  /-- Release keeps rows and tokens. -/
  release_rows : ∀ {lease store reply after},
    releaseQuery lease store = (reply, after) → row after = row store ∧ fence after = fence store
  /-- Quotas do not touch rows and tokens. -/
  acquire_rows : ∀ {now permit principal quota limit ttl store reply after},
    acquireQuota now permit principal quota limit ttl store = (reply, after) →
      row after = row store ∧ fence after = fence store
  /-- Releasing a permit does not touch rows and tokens. -/
  permit_rows : ∀ {permit store reply after},
    releaseQuota permit store = (reply, after) → row after = row store ∧ fence after = fence store

open ClusterStateStore in
/-- The compare-and-swap contract: a write that presents a version succeeds only over that version,
zero standing for an absent row. -/
class CompareAndSwapStore (S : Type) {ν : outParam Type} [ClusterStateStore S ν]
    [LawfulStore S] : Prop where
  /-- A write over an absent row presents version zero, or none. -/
  put_absent : ∀ {now resource version} {store after : S} {stored},
    putResource now resource (some version) store = (.ok stored, after) →
      LawfulStore.row store resource.kind resource.resourceId = none → version = 0

end ConfluxQuery
