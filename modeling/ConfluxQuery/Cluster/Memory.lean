import ConfluxQuery.Cluster.Store

/-!
# The in-memory store

`MemoryClusterStateStore`: the reference implementation, one mutex over hash maps. It keeps the
compare-and-swap contract. A call whose deadline cannot be represented panics and leaves the mutex
poisoned, so that every later call panics as well; a run of the model is one of the source up to
the first such call.
-/

namespace ConfluxQuery

/-- The tables of the in-memory store. -/
structure MemoryState (ν : Type) where
  /-- Resources by kind and identifier. -/
  resources : Registry (String × String) (SharedResource ν)
  leases : Registry String QueryLease
  permits : Registry String QuotaPermit
  /-- Last fencing token issued. -/
  nextFence : Nat
  /-- A resource is stored under its own key. -/
  keyed : Registry.Forall (fun key resource => (resource.kind, resource.resourceId) = key) resources

/-- A store that holds nothing. -/
def MemoryState.empty {ν : Type} : MemoryState ν := ⟨∅, ∅, ∅, 0, Registry.forall_empty _⟩

/-- A resource of another principal. -/
def resourceForbidden : ClusterError := ⟨"forbidden", "resource belongs to another principal"⟩

/-- A deadline beyond the dates of `chrono`. -/
def deadlineOverflow : ClusterError := panicked "`DateTime + TimeDelta` overflowed"

namespace MemoryState

variable {ν : Type}

/-- Write a resource. -/
def putResource (resource : SharedResource ν) (expectedVersion : Option Nat)
    (state : MemoryState ν) : Except ClusterError (SharedResource ν) × MemoryState ν :=
  let key := (resource.kind, resource.resourceId)
  let current := state.resources.lookup key
  if current.any fun value => value.principalId != resource.principalId then
    (.error resourceForbidden, state)
  else
    let version := storedVersion current
    if expectedVersion.any fun expected => expected != version then
      (.error ⟨"version_conflict", "resource version changed"⟩, state)
    else
      let resource := { resource with version := version + 1 }
      (.ok resource, { state with
        resources := state.resources.insert key resource, keyed := state.keyed.insert rfl })

/-- Read a resource. -/
def getResource (now : Nat) (kind resourceId principalId : String) (state : MemoryState ν) :
    Except ClusterError (Option (SharedResource ν)) :=
  match state.resources.lookup (kind, resourceId) with
  | none => .ok none
  | some resource =>
    if resource.principalId ≠ principalId then .error resourceForbidden
    else if now < resource.expiresAt then .ok (some resource) else .ok none

/-- Delete a resource. -/
def deleteResource (kind resourceId principalId : String) (state : MemoryState ν) :
    Except ClusterError Bool × MemoryState ν :=
  let key := (kind, resourceId)
  if (state.resources.lookup key).any fun resource => resource.principalId != principalId then
    (.error resourceForbidden, state)
  else
    (.ok (state.resources.lookup key).isSome,
      { state with resources := state.resources.erase key, keyed := state.keyed.erase key })

/-- Issue a lease under the next token. -/
def issue (now : Nat) (queryId principalId nodeId : String) (ttl : Nat) (state : MemoryState ν) :
    Except ClusterError QueryLease × MemoryState ν :=
  match deadline now ttl with
  | none => (.error deadlineOverflow, state)
  | some expiry =>
    let lease : QueryLease := ⟨queryId, principalId, nodeId, state.nextFence + 1, expiry⟩
    (.ok lease, { state with
      leases := state.leases.insert queryId lease, nextFence := state.nextFence + 1 })

/-- Claim a query. -/
def claimQuery (now : Nat) (queryId principalId nodeId : String) (ttl : Nat)
    (state : MemoryState ν) : Except ClusterError QueryLease × MemoryState ν :=
  match state.leases.lookup queryId with
  | none => state.issue now queryId principalId nodeId ttl
  | some lease =>
    if lease.principalId ≠ principalId then
      (.error ⟨"forbidden", "query belongs to another principal"⟩, state)
    else if now < lease.leaseExpiresAt ∧ lease.ownerNodeId ≠ nodeId then
      (.error ⟨"lease_held", "query lease is held by another live node"⟩, state)
    else state.issue now queryId principalId nodeId ttl

/-- Two leases are the same claim. -/
def sameClaim (current lease : QueryLease) : Bool :=
  current.ownerNodeId == lease.ownerNodeId && current.fencingToken == lease.fencingToken

/-- Extend a lease. -/
def renewQuery (now : Nat) (lease : QueryLease) (ttl : Nat) (state : MemoryState ν) :
    Except ClusterError QueryLease × MemoryState ν :=
  match state.leases.lookup lease.queryId with
  | none => (.error ⟨"lease_lost", "query lease does not exist"⟩, state)
  | some current =>
    if sameClaim current lease then
      match deadline now ttl with
      | none => (.error deadlineOverflow, state)
      | some expiry =>
        let renewed := { current with leaseExpiresAt := expiry }
        (.ok renewed, { state with leases := state.leases.insert lease.queryId renewed })
    else (.error ⟨"lease_lost", "query fencing token is stale"⟩, state)

/-- Give a lease up. -/
def releaseQuery (lease : QueryLease) (state : MemoryState ν) :
    Except ClusterError Bool × MemoryState ν :=
  if (state.leases.lookup lease.queryId).any (sameClaim · lease) then
    (.ok true, { state with leases := state.leases.erase lease.queryId })
  else (.ok false, state)

/-- Take a quota permit. -/
def acquireQuota (now : Nat) (permit principalId quota : String) (limit ttl : Nat)
    (state : MemoryState ν) : Except ClusterError String × MemoryState ν :=
  let state := { state with
    permits := Registry.retain (fun _ held => decide (now < held.expiresAt)) state.permits }
  let used := Registry.count
    (fun _ held => held.principalId == principalId && held.quota == quota) state.permits
  if used ≥ limit then
    (.error ⟨"quota_exhausted", "distributed quota exhausted"⟩, state)
  else
    match deadline now ttl with
    | none => (.error deadlineOverflow, state)
    | some expiry =>
      (.ok permit, { state with
        permits := state.permits.insert permit ⟨principalId, quota, expiry⟩ })

/-- Give a permit up. -/
def releaseQuota (permitId : String) (state : MemoryState ν) :
    Except ClusterError Unit × MemoryState ν :=
  (.ok (), { state with permits := state.permits.erase permitId })

end MemoryState

instance {ν : Type} : ClusterStateStore (MemoryState ν) ν where
  putResource _ := MemoryState.putResource
  getResource := MemoryState.getResource
  deleteResource := MemoryState.deleteResource
  claimQuery := MemoryState.claimQuery
  renewQuery := MemoryState.renewQuery
  releaseQuery := MemoryState.releaseQuery
  acquireQuota := MemoryState.acquireQuota
  releaseQuota := MemoryState.releaseQuota

namespace MemoryState

variable {ν : Type}

/-- What a write can do: it is refused and changes nothing, or it stores the resource over a row of
the same principal and the version presented. -/
theorem putResource_cases (resource : SharedResource ν) (expected : Option Nat)
    (state : MemoryState ν) :
    (∃ error, putResource resource expected state = (.error error, state)) ∨
    (let current := state.resources.lookup (resource.kind, resource.resourceId)
     let stored := { resource with version := storedVersion current + 1 }
     putResource resource expected state = (.ok stored, { state with
        resources := state.resources.insert (resource.kind, resource.resourceId) stored
        keyed := state.keyed.insert rfl }) ∧
      (∀ held, current = some held → held.principalId = resource.principalId) ∧
      ∀ version, expected = some version → version = storedVersion current) := by
  simp only [putResource]
  split
  · exact .inl ⟨_, rfl⟩
  · next same =>
    split
    · exact .inl ⟨_, rfl⟩
    · next agrees =>
      refine .inr ⟨rfl, ?_, ?_⟩
      · intro held present
        simpa [present] using same
      · intro version presented
        simpa [presented] using agrees

/-- What a claim can do: it is refused and changes nothing, or it stores a lease under the next
token that lasts until its deadline. -/
theorem claimQuery_cases (now : Nat) (query principal node : String) (ttl : Nat)
    (state : MemoryState ν) :
    (∃ error, claimQuery now query principal node ttl state = (.error error, state)) ∨
    ∃ expiry, deadline now ttl = some expiry ∧
      let lease : QueryLease := ⟨query, principal, node, state.nextFence + 1, expiry⟩
      claimQuery now query principal node ttl state = (.ok lease, { state with
        leases := state.leases.insert query lease, nextFence := state.nextFence + 1 }) := by
  simp only [claimQuery, issue]
  cases deadline now ttl with
  | none =>
    refine .inl ?_
    split
    · exact ⟨_, rfl⟩
    · split
      · exact ⟨_, rfl⟩
      · split <;> exact ⟨_, rfl⟩
  | some expiry =>
    split
    · exact .inr ⟨expiry, rfl, rfl⟩
    · split
      · exact .inl ⟨_, rfl⟩
      · split
        · exact .inl ⟨_, rfl⟩
        · exact .inr ⟨expiry, rfl, rfl⟩

/-- A renewal is refused and changes nothing, or it extends the stored claim to its deadline. -/
theorem renewQuery_cases (now : Nat) (lease : QueryLease) (ttl : Nat) (state : MemoryState ν) :
    (∃ error, renewQuery now lease ttl state = (.error error, state)) ∨
    ∃ held expiry, state.leases.lookup lease.queryId = some held ∧ sameClaim held lease = true ∧
      deadline now ttl = some expiry ∧
      let renewed := { held with leaseExpiresAt := expiry }
      renewQuery now lease ttl state = (.ok renewed, { state with
        leases := state.leases.insert lease.queryId renewed }) := by
  simp only [renewQuery]
  split
  · exact .inl ⟨_, rfl⟩
  · next held present =>
    split
    · next same =>
      cases deadline now ttl with
      | none => exact .inl ⟨_, rfl⟩
      | some expiry => exact .inr ⟨held, expiry, present, same, rfl, rfl⟩
    · exact .inl ⟨_, rfl⟩

/-- Taking a permit changes the permits alone. -/
theorem acquireQuota_frame (now : Nat) (permit principal quota : String) (limit ttl : Nat)
    (state : MemoryState ν) : ∃ permits,
    (acquireQuota now permit principal quota limit ttl state).2 = { state with permits } := by
  simp only [acquireQuota]
  split
  · exact ⟨_, rfl⟩
  · split <;> exact ⟨_, rfl⟩

end MemoryState

instance {ν : Type} : LawfulStore (MemoryState ν) where
  row store kind id := store.resources.lookup (kind, id)
  fence store := store.nextFence
  row_keyed {store kind id held} present := by
    have same := store.keyed (kind, id) held present
    simpa using same
  put_ok {now resource expected store stored after} wrote := by
    change MemoryState.putResource resource expected store = _ at wrote
    rcases MemoryState.putResource_cases resource expected store with ⟨error, refused⟩ |
      ⟨accepted, owner, version⟩
    · rw [refused] at wrote
      cases wrote
    · rw [accepted] at wrote
      cases wrote
      refine ⟨rfl, ?_, ?_, rfl⟩
      · intro kind id
        simp [Registry.lookup_insert_ite]
      · intro held present
        refine ⟨owner held present, fun expected presented => ?_⟩
        rw [version expected presented, present]
        rfl
  put_error {now resource expected store error after} refused := by
    change MemoryState.putResource resource expected store = _ at refused
    rcases MemoryState.putResource_cases resource expected store with ⟨reason, same⟩ | ⟨wrote, _⟩
    · rw [same] at refused
      cases refused
      exact ⟨rfl, rfl⟩
    · rw [wrote] at refused
      cases refused
  get_some {now kind id principal store found} read := by
    simp only [ClusterStateStore.getResource, MemoryState.getResource] at read
    split at read
    · cases read
    · next resource present =>
      split at read
      · cases read
      · next owner =>
        split at read
        · next visible =>
          cases read
          exact ⟨present, by simpa using owner, visible⟩
        · cases read
  get_none {now kind id principal store} read held present := by
    simp only [ClusterStateStore.getResource, MemoryState.getResource, present] at read
    split at read
    · cases read
    · split at read
      · cases read
      · next hidden => exact Nat.le_of_not_lt hidden
  get_error {now kind id principal store error} read := by
    simp only [ClusterStateStore.getResource, MemoryState.getResource] at read
    split at read
    · cases read
    · next resource present =>
      split at read
      · next other =>
        cases read
        exact ⟨rfl, resource, present, other⟩
      · split at read <;> cases read
  delete_ok {kind id principal store deleted after} done := by
    simp only [ClusterStateStore.deleteResource, MemoryState.deleteResource] at done
    split at done
    · cases done
    · next owner =>
      cases done
      refine ⟨?_, ?_, ?_, ?_, rfl⟩
      · intro held present same
        simp
      · intro held present other
        simp [present, other] at owner
      · intro absent
        simp
      · intro kind' id' different
        simpa [Registry.lookup_erase_ite] using fun same other => absurd ⟨same, other⟩ different
  delete_error {kind id principal store error after} refused := by
    simp only [ClusterStateStore.deleteResource, MemoryState.deleteResource] at refused
    split at refused
    · cases refused
      exact ⟨rfl, rfl⟩
    · cases refused
  claim_ok {now query principal node ttl store lease after} claimed := by
    change MemoryState.claimQuery now query principal node ttl store = _ at claimed
    rcases MemoryState.claimQuery_cases now query principal node ttl store with
      ⟨error, refused⟩ | ⟨expiry, _, issued⟩
    · rw [refused] at claimed
      cases claimed
    · rw [issued] at claimed
      cases claimed
      exact ⟨rfl, rfl, rfl, rfl, Nat.lt_succ_self _, le_rfl⟩
  claim_error {now query principal node ttl store error after} refused := by
    change MemoryState.claimQuery now query principal node ttl store = _ at refused
    rcases MemoryState.claimQuery_cases now query principal node ttl store with
      ⟨reason, same⟩ | ⟨expiry, _, issued⟩
    · rw [same] at refused
      cases refused
      exact ⟨rfl, le_rfl⟩
    · rw [issued] at refused
      cases refused
  renew_rows {now lease ttl store reply after} renewed := by
    change MemoryState.renewQuery now lease ttl store = _ at renewed
    rcases MemoryState.renewQuery_cases now lease ttl store with
      ⟨error, refused⟩ | ⟨held, expiry, _, same, _, granted⟩
    · rw [refused] at renewed
      cases renewed
      exact ⟨rfl, rfl, by simp⟩
    · rw [granted] at renewed
      cases renewed
      refine ⟨rfl, rfl, fun lease' agrees => ?_⟩
      cases agrees
      simp only [MemoryState.sameClaim, Bool.and_eq_true, beq_iff_eq] at same
      exact same.2
  release_rows {lease store reply after} released := by
    simp only [ClusterStateStore.releaseQuery, MemoryState.releaseQuery] at released
    split at released <;> (cases released; exact ⟨rfl, rfl⟩)
  acquire_rows {now permit principal quota limit ttl store reply after} acquired := by
    obtain ⟨permits, changed⟩ :=
      MemoryState.acquireQuota_frame now permit principal quota limit ttl store
    cases (congrArg Prod.snd acquired).symm.trans changed
    exact ⟨rfl, rfl⟩
  permit_rows {permit store reply after} released := by
    cases released
    exact ⟨rfl, rfl⟩

instance {ν : Type} : CompareAndSwapStore (MemoryState ν) where
  put_absent {now resource version store after stored} wrote absent := by
    change MemoryState.putResource resource (some version) store = _ at wrote
    change store.resources.lookup (resource.kind, resource.resourceId) = none at absent
    rcases MemoryState.putResource_cases resource (some version) store with ⟨error, refused⟩ |
      ⟨accepted, owner, agrees⟩
    · rw [refused] at wrote
      cases wrote
    · rw [agrees version rfl, absent]
      rfl

end ConfluxQuery
