import ConfluxQuery.Cluster.Store

/-!
# The PostgreSQL store

`PostgresClusterStateStore`: every call is one SQL statement, here one step on the tables. The
statements differ from the in-memory store in places: a write inserts version one over an absent row
whatever version is presented, an expired row is invisible before its owner is checked, a delete of
another principal's row succeeds without effect, and the fencing sequence advances also for claims
that are refused.
-/

namespace ConfluxQuery

/-- The tables of the PostgreSQL store and its fencing sequence. -/
structure PostgresState (ν : Type) where
  /-- Table `qcli_resources`, keyed by kind and identifier. -/
  resources : Registry (String × String) (SharedResource ν)
  /-- Table `qcli_query_leases`, keyed by query. -/
  leases : Registry String QueryLease
  /-- Table `qcli_quota_permits`, keyed by permit. -/
  permits : Registry String QuotaPermit
  /-- Last value of the sequence `qcli_fencing_token`. -/
  fencingToken : Nat
  keyed : Registry.Forall (fun key row => (row.kind, row.resourceId) = key) resources

theorem PostgresState.keyed_empty {ν : Type} : Registry.Forall
    (fun key (row : SharedResource ν) => (row.kind, row.resourceId) = key) ∅ :=
  Registry.forall_empty _

/-- A migrated database that holds nothing. -/
def PostgresState.empty {ν : Type} : PostgresState ν := ⟨∅, ∅, ∅, 0, keyed_empty⟩

/-- Durations and limits are passed as signed 64-bit numbers. -/
def fitsBigint (number : Nat) : Bool := decide (number < 2 ^ 63)

/-- The first millisecond after the timestamps of PostgreSQL, in the year 294277. -/
def endTimestamp : Nat := 9224318016000000

/-- `clock_timestamp() + $n::bigint * interval '1 millisecond'`; a statement fails on a time beyond
the timestamps of PostgreSQL. -/
def expiryTimestamp (now ttl : Nat) : Option Nat :=
  if now + ttl < endTimestamp then some (now + ttl) else none

/-- A statement that fails on a timestamp. -/
def timestampOutOfRange : ClusterError := ⟨"postgres", "db error: ERROR: timestamp out of range"⟩

/-- Read the lease of a row; a timestamp beyond the dates of `chrono` panics. -/
def leaseFromRow (row : QueryLease) : Except ClusterError QueryLease :=
  if row.leaseExpiresAt ≤ maxUtc then .ok row else .error (panicked "value too large to decode")

/-- A duration too long for the store. -/
def invalidTtl : ClusterError := ⟨"invalid_ttl", "lease TTL is too large"⟩

namespace PostgresState

variable {ν : Type}

/-- `INSERT … ON CONFLICT … DO UPDATE … WHERE principal and version match`. -/
def putResource (resource : SharedResource ν) (expectedVersion : Option Nat)
    (state : PostgresState ν) : Except ClusterError (SharedResource ν) × PostgresState ν :=
  let key := (resource.kind, resource.resourceId)
  let store (version : Nat) : Except ClusterError (SharedResource ν) × PostgresState ν :=
    let stored := { resource with version := version }
    (.ok stored, { state with
      resources := state.resources.insert key stored, keyed := state.keyed.insert rfl })
  match state.resources.lookup key with
  | none => store 1
  | some current =>
    if current.principalId = resource.principalId ∧
        (expectedVersion = none ∨ expectedVersion = some current.version) then
      store (current.version + 1)
    else (.error ⟨"version_conflict", "resource owner or version changed"⟩, state)

/-- `SELECT … WHERE expires_at > clock_timestamp()`, then the owner check. -/
def getResource (now : Nat) (kind resourceId principalId : String) (state : PostgresState ν) :
    Except ClusterError (Option (SharedResource ν)) :=
  match (state.resources.lookup (kind, resourceId)).filter fun row => decide (now < row.expiresAt)
  with
  | none => .ok none
  | some resource =>
    if resource.principalId ≠ principalId then
      .error ⟨"forbidden", "resource belongs to another principal"⟩
    else .ok (some resource)

/-- `DELETE … WHERE` key and principal match. -/
def deleteResource (kind resourceId principalId : String) (state : PostgresState ν) :
    Except ClusterError Bool × PostgresState ν :=
  if (state.resources.lookup (kind, resourceId)).any fun row => row.principalId == principalId then
    (.ok true, { state with
      resources := state.resources.erase (kind, resourceId)
      keyed := state.keyed.erase (kind, resourceId) })
  else (.ok false, state)

/-- Store a lease under a token of the sequence, then read it from the row. -/
def issue (queryId principalId nodeId : String) (token expiry : Nat) (state : PostgresState ν) :
    Except ClusterError QueryLease × PostgresState ν :=
  let lease : QueryLease := ⟨queryId, principalId, nodeId, token, expiry⟩
  (leaseFromRow lease,
    { state with leases := state.leases.insert queryId lease, fencingToken := token })

/-- `INSERT … nextval … ON CONFLICT … DO UPDATE … nextval …`: the inserted values draw one token
even when the row exists or the statement fails on its timestamp, and the update draws another. -/
def claimQuery (now : Nat) (queryId principalId nodeId : String) (ttl : Nat)
    (state : PostgresState ν) : Except ClusterError QueryLease × PostgresState ν :=
  if fitsBigint ttl then
    match expiryTimestamp now ttl, state.leases.lookup queryId with
    | none, _ =>
      (.error timestampOutOfRange, { state with fencingToken := state.fencingToken + 1 })
    | some expiry, none =>
      state.issue queryId principalId nodeId (state.fencingToken + 1) expiry
    | some expiry, some lease =>
      if lease.principalId = principalId ∧
          (lease.ownerNodeId = nodeId ∨ lease.leaseExpiresAt ≤ now) then
        state.issue queryId principalId nodeId (state.fencingToken + 2) expiry
      else
        (.error ⟨"lease_held", "query lease is held by another live node"⟩,
          { state with fencingToken := state.fencingToken + 1 })
  else (.error invalidTtl, state)

/-- The row of a lease that is the same claim. -/
def claimRow (lease : QueryLease) (state : PostgresState ν) : Option QueryLease :=
  (state.leases.lookup lease.queryId).filter fun row =>
    row.ownerNodeId == lease.ownerNodeId && row.fencingToken == lease.fencingToken

/-- `UPDATE … WHERE` query, owner and token match. -/
def renewQuery (now : Nat) (lease : QueryLease) (ttl : Nat) (state : PostgresState ν) :
    Except ClusterError QueryLease × PostgresState ν :=
  if fitsBigint ttl then
    match state.claimRow lease with
    | none => (.error ⟨"lease_lost", "query fencing token is stale"⟩, state)
    | some row =>
      match expiryTimestamp now ttl with
      | none => (.error timestampOutOfRange, state)
      | some expiry =>
        let renewed := { row with leaseExpiresAt := expiry }
        (leaseFromRow renewed, { state with
          leases := state.leases.insert lease.queryId renewed })
  else (.error invalidTtl, state)

/-- `DELETE … WHERE` query, owner and token match. -/
def releaseQuery (lease : QueryLease) (state : PostgresState ν) :
    Except ClusterError Bool × PostgresState ν :=
  if (state.claimRow lease).isSome then
    (.ok true, { state with leases := state.leases.erase lease.queryId })
  else (.ok false, state)

/-- One statement that deletes lapsed permits, counts those of the principal and inserts one more.
The count reads the table as it was when the statement began, lapsed permits included. -/
def acquireQuota (now : Nat) (permit principalId quota : String) (limit ttl : Nat)
    (state : PostgresState ν) : Except ClusterError String × PostgresState ν :=
  if !fitsBigint ttl then (.error invalidTtl, state)
  else if !fitsBigint limit then
    (.error ⟨"invalid_quota", "quota limit is too large"⟩, state)
  else
    let used := Registry.count
      (fun _ held => held.principalId == principalId && held.quota == quota) state.permits
    let cleaned := Registry.retain (fun _ held => decide (now < held.expiresAt)) state.permits
    if used < limit then
      match expiryTimestamp now ttl with
      | none => (.error timestampOutOfRange, state)
      | some expiry =>
        (.ok permit, { state with
          permits := cleaned.insert permit ⟨principalId, quota, expiry⟩ })
    else
      (.error ⟨"quota_exhausted", "distributed quota exhausted"⟩, { state with permits := cleaned })

/-- `DELETE` of a permit. -/
def releaseQuota (permitId : String) (state : PostgresState ν) :
    Except ClusterError Unit × PostgresState ν :=
  (.ok (), { state with permits := state.permits.erase permitId })

end PostgresState

instance {ν : Type} : ClusterStateStore (PostgresState ν) ν where
  putResource _ := PostgresState.putResource
  getResource := PostgresState.getResource
  deleteResource := PostgresState.deleteResource
  claimQuery := PostgresState.claimQuery
  renewQuery := PostgresState.renewQuery
  releaseQuery := PostgresState.releaseQuery
  acquireQuota := PostgresState.acquireQuota
  releaseQuota := PostgresState.releaseQuota

namespace PostgresState

variable {ν : Type}

/-- A row that can be read is read as it is. -/
theorem leaseFromRow_eq_ok {row lease : QueryLease} (read : leaseFromRow row = .ok lease) :
    lease = row := by
  unfold leaseFromRow at read
  split at read <;> cases read
  rfl

/-- What a claim can do: it is refused and at most draws a token, or it stores a lease under a new
token over none, or over one of the same principal that the node may take, and reads it back. -/
theorem claimQuery_cases (now : Nat) (query principal node : String) (ttl : Nat)
    (state : PostgresState ν) :
    (∃ error token, state.fencingToken ≤ token ∧
      claimQuery now query principal node ttl state =
        (.error error, { state with fencingToken := token })) ∨
    ∃ token expiry, state.fencingToken < token ∧ fitsBigint ttl = true ∧
      expiryTimestamp now ttl = some expiry ∧
      (∀ held, state.leases.lookup query = some held → held.principalId = principal ∧
        (held.ownerNodeId = node ∨ held.leaseExpiresAt ≤ now)) ∧
      claimQuery now query principal node ttl state =
        state.issue query principal node token expiry := by
  simp only [claimQuery]
  split
  · next fits =>
    split
    · exact .inl ⟨_, _, Nat.le_succ _, rfl⟩
    · next expiry timed absent =>
      refine .inr ⟨_, expiry, Nat.lt_succ_self _, fits, timed, ?_, rfl⟩
      intro held present
      rw [absent] at present
      cases present
    · next expiry lease timed present =>
      split
      · next free =>
        refine .inr ⟨_, expiry, Nat.lt_add_of_pos_right (by decide), fits, timed, ?_, rfl⟩
        intro held same
        rw [present] at same
        cases same
        exact free
      · exact .inl ⟨_, _, Nat.le_succ _, rfl⟩
  · exact .inl ⟨_, state.fencingToken, Nat.le_refl _, rfl⟩

/-- A renewal is refused and changes nothing, or it extends the row of its claim and reads it
back. -/
theorem renewQuery_cases (now : Nat) (lease : QueryLease) (ttl : Nat) (state : PostgresState ν) :
    (∃ error, renewQuery now lease ttl state = (.error error, state)) ∨
    ∃ row expiry, state.claimRow lease = some row ∧ fitsBigint ttl = true ∧
      expiryTimestamp now ttl = some expiry ∧
      let renewed := { row with leaseExpiresAt := expiry }
      renewQuery now lease ttl state = (leaseFromRow renewed, { state with
        leases := state.leases.insert lease.queryId renewed }) := by
  simp only [renewQuery]
  split
  · next fits =>
    split
    · exact .inl ⟨_, rfl⟩
    · next row found =>
      split
      · exact .inl ⟨_, rfl⟩
      · next expiry timed => exact .inr ⟨row, expiry, found, fits, timed, rfl⟩
  · exact .inl ⟨_, rfl⟩

/-- Taking a permit changes the permits alone. -/
theorem acquireQuota_frame (now : Nat) (permit principal quota : String) (limit ttl : Nat)
    (state : PostgresState ν) : ∃ permits,
    (acquireQuota now permit principal quota limit ttl state).2 = { state with permits } := by
  simp only [acquireQuota]
  split
  · exact ⟨_, rfl⟩
  · split
    · exact ⟨_, rfl⟩
    · split
      · split <;> exact ⟨_, rfl⟩
      · exact ⟨_, rfl⟩

end PostgresState

instance {ν : Type} : LawfulStore (PostgresState ν) where
  row store kind id := store.resources.lookup (kind, id)
  fence store := store.fencingToken
  row_keyed {store kind id held} present := by
    have same := store.keyed (kind, id) held present
    simpa using same
  put_ok {now resource expected store stored after} wrote := by
    simp only [ClusterStateStore.putResource, PostgresState.putResource] at wrote
    split at wrote
    · next absent =>
      cases wrote
      refine ⟨by simp [absent, storedVersion], ?_, by simp [absent], rfl⟩
      intro kind id
      simp [Registry.lookup_insert_ite]
    · next current present =>
      split at wrote
      · next agrees =>
        cases wrote
        refine ⟨by simp [present, storedVersion], ?_, ?_, rfl⟩
        · intro kind id
          simp [Registry.lookup_insert_ite]
        · intro held same
          rw [present] at same
          cases same
          refine ⟨agrees.1, fun version presented => ?_⟩
          simpa [presented] using agrees.2
      · cases wrote
  put_error {now resource expected store error after} refused := by
    simp only [ClusterStateStore.putResource, PostgresState.putResource] at refused
    split at refused
    · cases refused
    · split at refused
      · cases refused
      · cases refused
        exact ⟨rfl, rfl⟩
  get_some {now kind id principal store found} read := by
    simp only [ClusterStateStore.getResource, PostgresState.getResource] at read
    split at read
    · cases read
    · next resource present =>
      obtain ⟨stored, visible⟩ := Option.filter_eq_some_iff.mp present
      split at read
      · cases read
      · next owner =>
        cases read
        exact ⟨stored, by simpa using owner, by simpa using visible⟩
  get_none {now kind id principal store} read held present := by
    simp only [ClusterStateStore.getResource, PostgresState.getResource, present] at read
    by_contra visible
    rw [Option.filter_some_pos (by simpa using visible)] at read
    simp only at read
    split at read <;> cases read
  get_error {now kind id principal store error} read := by
    simp only [ClusterStateStore.getResource, PostgresState.getResource] at read
    split at read
    · cases read
    · next resource present =>
      split at read
      · next other =>
        cases read
        exact ⟨rfl, resource, (Option.filter_eq_some_iff.mp present).1, other⟩
      · cases read
  delete_ok {kind id principal store deleted after} done := by
    simp only [ClusterStateStore.deleteResource, PostgresState.deleteResource] at done
    split at done
    · next owner =>
      cases done
      refine ⟨?_, ?_, ?_, ?_, rfl⟩
      · intro held present same
        simp
      · intro held present other
        simp [present, other] at owner
      · intro absent
        simp
      · intro kind' id' different
        simpa [Registry.lookup_erase_ite] using fun same other => absurd ⟨same, other⟩ different
    · next owner =>
      cases done
      refine ⟨?_, fun _ present _ => present, fun absent => absent, fun _ _ _ => rfl, rfl⟩
      intro held present same
      simp [present, same] at owner
  delete_error {kind id principal store error after} refused := by
    simp only [ClusterStateStore.deleteResource, PostgresState.deleteResource] at refused
    split at refused <;> cases refused
  claim_ok {now query principal node ttl store lease after} claimed := by
    change PostgresState.claimQuery now query principal node ttl store = _ at claimed
    rcases PostgresState.claimQuery_cases now query principal node ttl store with
      ⟨error, token, _, refused⟩ | ⟨token, expiry, above, _, _, _, issued⟩
    · rw [refused] at claimed
      cases claimed
    · rw [issued] at claimed
      obtain ⟨read, rfl⟩ := Prod.mk.inj claimed
      cases PostgresState.leaseFromRow_eq_ok read
      exact ⟨rfl, rfl, rfl, rfl, above, le_rfl⟩
  claim_error {now query principal node ttl store error after} refused := by
    change PostgresState.claimQuery now query principal node ttl store = _ at refused
    rcases PostgresState.claimQuery_cases now query principal node ttl store with
      ⟨error, token, above, failed⟩ | ⟨token, expiry, above, _, _, _, issued⟩
    · rw [failed] at refused
      cases refused
      exact ⟨rfl, above⟩
    · rw [issued] at refused
      obtain ⟨_, rfl⟩ := Prod.mk.inj refused
      exact ⟨rfl, Nat.le_of_lt above⟩
  renew_rows {now lease ttl store reply after} renewed := by
    change PostgresState.renewQuery now lease ttl store = _ at renewed
    rcases PostgresState.renewQuery_cases now lease ttl store with
      ⟨error, refused⟩ | ⟨row, expiry, found, _, _, extended⟩
    · rw [refused] at renewed
      cases renewed
      exact ⟨rfl, rfl, by simp⟩
    · rw [extended] at renewed
      obtain ⟨read, rfl⟩ := Prod.mk.inj renewed
      refine ⟨rfl, rfl, fun lease' agrees => ?_⟩
      cases PostgresState.leaseFromRow_eq_ok (read.trans agrees)
      have same := (Option.filter_eq_some_iff.mp found).2
      simp only [Bool.and_eq_true, beq_iff_eq] at same
      exact same.2
  release_rows {lease store reply after} released := by
    simp only [ClusterStateStore.releaseQuery, PostgresState.releaseQuery] at released
    split at released <;> (cases released; exact ⟨rfl, rfl⟩)
  acquire_rows {now permit principal quota limit ttl store reply after} acquired := by
    obtain ⟨permits, changed⟩ :=
      PostgresState.acquireQuota_frame now permit principal quota limit ttl store
    cases (congrArg Prod.snd acquired).symm.trans changed
    exact ⟨rfl, rfl⟩
  permit_rows {permit store reply after} released := by
    cases released
    exact ⟨rfl, rfl⟩

end ConfluxQuery
