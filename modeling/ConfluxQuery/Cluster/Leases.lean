import ConfluxQuery.Cluster.Memory
import ConfluxQuery.Cluster.Postgres

/-!
# Lease safety

The three calls on query leases, over any run of them by any nodes and principals. `LeaseStore` says
what each call does to the leases of a store; the in-memory map and the conditional upserts both
satisfy it, so the fencing discipline is proved once for both.
-/

namespace ConfluxQuery

open ClusterStateStore

/-- Two leases are one claim: the same node under the same token. -/
def QueryLease.SameClaim (held presented : QueryLease) : Prop :=
  held.ownerNodeId = presented.ownerNodeId ∧ held.fencingToken = presented.fencingToken

/-- One claim, presented either way. -/
theorem QueryLease.SameClaim.symm {first second : QueryLease} (same : first.SameClaim second) :
    second.SameClaim first := ⟨same.1.symm, same.2.symm⟩

theorem QueryLease.SameClaim.trans {first second third : QueryLease}
    (left : first.SameClaim second) (right : second.SameClaim third) : first.SameClaim third :=
  ⟨left.1.trans right.1, left.2.trans right.2⟩

/-- What the calls on leases do to the leases of a store. -/
class LeaseStore (S : Type) {ν : outParam Type} [ClusterStateStore S ν] [LawfulStore S] where
  /-- The lease stored for a query. -/
  lease : S → String → Option QueryLease
  /-- A renewal at a time for a duration is not refused because of them. -/
  accepts : Nat → Nat → Bool
  /-- A claim that succeeds finds no lease, or one of the same principal that the same node holds
  or that has expired, and stores the lease it answers with. -/
  claim_granted : ∀ {now query principal node ttl} {store after : S} {granted},
    claimQuery now query principal node ttl store = (.ok granted, after) →
      (∀ held, lease store query = some held → held.principalId = principal ∧
        (held.ownerNodeId = node ∨ held.leaseExpiresAt ≤ now)) ∧
      ∀ other, lease after other = if other = query then some granted else lease store other
  /-- A claim that is refused keeps every lease, where its deadline is a date. -/
  claim_refused : ∀ {now query principal node ttl} {store after : S} {error},
    (deadline now ttl).isSome = true →
    claimQuery now query principal node ttl store = (.error error, after) →
      lease after = lease store
  /-- A claim keeps the leases of other queries, and all when its query is another principal's. -/
  claim_frame : ∀ {now query principal node ttl} {store : S} {other},
    (other ≠ query ∨ ∃ held, lease store query = some held ∧ held.principalId ≠ principal) →
      lease (claimQuery now query principal node ttl store).2 other = lease store other
  /-- A renewal that succeeds presents the stored claim and changes its expiry alone. -/
  renew_granted : ∀ {now presented ttl} {store after : S} {renewed},
    renewQuery now presented ttl store = (.ok renewed, after) →
      accepts now ttl = true ∧ ∃ held, lease store presented.queryId = some held ∧
        held.SameClaim presented ∧
        renewed = { held with leaseExpiresAt := renewed.leaseExpiresAt } ∧
        ∀ other, lease after other =
          if other = presented.queryId then some renewed else lease store other
  /-- A renewal that is refused presents another claim, or a duration the store refuses. -/
  renew_refused : ∀ {now presented ttl} {store after : S} {error},
    renewQuery now presented ttl store = (.error error, after) → accepts now ttl = true →
      ∀ held, lease store presented.queryId = some held → ¬held.SameClaim presented
  /-- A renewal that is refused keeps every lease, where its deadline is a date. -/
  renew_kept : ∀ {now presented ttl} {store after : S} {error},
    (deadline now ttl).isSome = true →
    renewQuery now presented ttl store = (.error error, after) → lease after = lease store
  /-- A release answers whether it presents the stored claim, and removes it then. -/
  release_answers : ∀ (presented : QueryLease) (store : S), ∃ removed,
    (releaseQuery presented store).1 = .ok removed ∧
      (removed = true ↔
        ∃ held, lease store presented.queryId = some held ∧ held.SameClaim presented) ∧
      ∀ other, lease (releaseQuery presented store).2 other =
        if removed = true ∧ other = presented.queryId then none else lease store other

theorem MemoryState.sameClaim_iff {held presented : QueryLease} :
    MemoryState.sameClaim held presented = true ↔ held.SameClaim presented := by
  simp [MemoryState.sameClaim, QueryLease.SameClaim]

/-- A claim keeps the leases of other queries, and all of them where the query is another
principal's. -/
theorem MemoryState.claimQuery_frame {ν : Type} {now : Nat} {query principal node : String}
    {ttl : Nat} {store : MemoryState ν} {other : String}
    (apart : other ≠ query ∨ ∃ held, store.leases.lookup query = some held ∧
      held.principalId ≠ principal) :
    (MemoryState.claimQuery now query principal node ttl store).2.leases.lookup other =
      store.leases.lookup other := by
  rcases apart with apart | ⟨held, present, foreign⟩
  · rcases MemoryState.claimQuery_cases now query principal node ttl store with
      ⟨reason, refused⟩ | ⟨expiry, _, issued⟩
    · rw [refused]
    · simp [issued, apart]
  · simp [MemoryState.claimQuery, present, foreign]

/-- A renewal that presents the stored claim is granted where its deadline is a date. -/
theorem MemoryState.renewQuery_isOk {ν : Type} {now ttl expiry : Nat} {presented held : QueryLease}
    {store : MemoryState ν} (timed : deadline now ttl = some expiry)
    (present : store.leases.lookup presented.queryId = some held)
    (same : held.SameClaim presented) :
    (MemoryState.renewQuery now presented ttl store).1.isOk = true := by
  simp [MemoryState.renewQuery, present, MemoryState.sameClaim_iff.mpr same, timed, Except.isOk,
    Except.toBool]

/-- A query that is claimed was held by the principal, at the node or no longer. -/
theorem MemoryState.claimQuery_free {ν : Type} {now ttl : Nat} {query principal node : String}
    {store after : MemoryState ν} {granted held : QueryLease}
    (claimed : MemoryState.claimQuery now query principal node ttl store = (.ok granted, after))
    (present : store.leases.lookup query = some held) :
    held.principalId = principal ∧ (held.ownerNodeId = node ∨ held.leaseExpiresAt ≤ now) := by
  simp only [MemoryState.claimQuery, present] at claimed
  split at claimed
  · cases claimed
  · next owner =>
    split at claimed
    · cases claimed
    · next free =>
      refine ⟨not_not.mp owner, ?_⟩
      by_cases lapsed : held.leaseExpiresAt ≤ now
      · exact .inr lapsed
      · exact .inl (not_not.mp fun other => free ⟨by omega, other⟩)

instance {ν : Type} : LeaseStore (MemoryState ν) where
  lease store query := store.leases.lookup query
  accepts now ttl := (deadline now ttl).isSome
  claim_granted {now query principal node ttl store after granted} claimed := by
    change MemoryState.claimQuery now query principal node ttl store = _ at claimed
    refine ⟨fun held => MemoryState.claimQuery_free claimed, fun other => ?_⟩
    rcases MemoryState.claimQuery_cases now query principal node ttl store with
      ⟨reason, refused⟩ | ⟨expiry, _, issued⟩
    · rw [refused] at claimed
      cases claimed
    · rw [issued] at claimed
      cases claimed
      exact Registry.lookup_insert_ite _ _ _ _
  claim_refused {now query principal node ttl store after error} _ refused := by
    change MemoryState.claimQuery now query principal node ttl store = _ at refused
    rcases MemoryState.claimQuery_cases now query principal node ttl store with
      ⟨reason, same⟩ | ⟨expiry, _, issued⟩
    · rw [same] at refused
      cases refused
      rfl
    · rw [issued] at refused
      cases refused
  claim_frame apart := MemoryState.claimQuery_frame apart
  renew_granted {now presented ttl store after renewed} granted := by
    change MemoryState.renewQuery now presented ttl store = _ at granted
    rcases MemoryState.renewQuery_cases now presented ttl store with
      ⟨error, refused⟩ | ⟨held, expiry, present, same, timed, extended⟩
    · rw [refused] at granted
      cases granted
    · rw [extended] at granted
      cases granted
      exact ⟨Option.isSome_of_eq_some timed, held, present, MemoryState.sameClaim_iff.mp same, rfl,
        fun other => Registry.lookup_insert_ite _ _ _ _⟩
  renew_refused {now presented ttl store after error} refused accepted held present same := by
    obtain ⟨expiry, timed⟩ := Option.isSome_iff_exists.mp accepted
    have granted := MemoryState.renewQuery_isOk timed present same
    change MemoryState.renewQuery now presented ttl store = _ at refused
    rw [refused] at granted
    cases granted
  renew_kept {now presented ttl store after error} _ refused := by
    change MemoryState.renewQuery now presented ttl store = _ at refused
    rcases MemoryState.renewQuery_cases now presented ttl store with
      ⟨reason, same⟩ | ⟨held, expiry, _, _, _, extended⟩
    · rw [same] at refused
      cases refused
      rfl
    · rw [extended] at refused
      cases refused
  release_answers presented store := by
    have matches_iff : (store.leases.lookup presented.queryId).any
        (MemoryState.sameClaim · presented) = true ↔
          ∃ held, store.leases.lookup presented.queryId = some held ∧
            held.SameClaim presented := by
      simp [Option.any_eq_true, MemoryState.sameClaim_iff]
    simp only [releaseQuery, MemoryState.releaseQuery]
    split
    · next same =>
      refine ⟨true, rfl, iff_of_true rfl (matches_iff.mp same), fun other => ?_⟩
      simp [Registry.lookup_erase_ite]
    · next different =>
      refine ⟨false, rfl, iff_of_false (by simp) (mt matches_iff.mpr different), fun other => ?_⟩
      simp

theorem PostgresState.claimRow_eq_some {ν : Type} {presented row : QueryLease}
    {store : PostgresState ν} :
    store.claimRow presented = some row ↔
      store.leases.lookup presented.queryId = some row ∧ row.SameClaim presented := by
  simp [PostgresState.claimRow, Option.filter_eq_some_iff, QueryLease.SameClaim]

/-- Where the deadline of a duration that fits the columns is a date, PostgreSQL has its timestamp
and the row can be read. -/
theorem expiryTimestamp_of_deadline {now ttl : Nat} (fits : fitsBigint ttl = true)
    (dated : (deadline now ttl).isSome = true) :
    expiryTimestamp now ttl = some (now + ttl) ∧ now + ttl ≤ maxUtc := by
  have short : ttl < 2 ^ 63 := of_decide_eq_true fits
  simp only [deadline, short, ↓reduceIte, Option.isSome_ite] at dated
  refine ⟨if_pos ?_, dated⟩
  simp only [maxUtc, endTimestamp] at dated ⊢
  omega

/-- A row of a date is read. -/
theorem leaseFromRow_of_le {row : QueryLease} (dated : row.leaseExpiresAt ≤ maxUtc) :
    leaseFromRow row = .ok row := if_pos dated

/-- A row that is read has a date that was computed from a duration, so its deadline is one. -/
theorem deadline_of_leaseFromRow {now ttl expiry : Nat} {row lease : QueryLease}
    (fits : fitsBigint ttl = true) (timed : expiryTimestamp now ttl = some expiry)
    (read : leaseFromRow { row with leaseExpiresAt := expiry } = .ok lease) :
    (deadline now ttl).isSome = true := by
  have short : ttl < 2 ^ 63 := of_decide_eq_true fits
  unfold expiryTimestamp at timed
  split at timed <;> cases timed
  unfold leaseFromRow at read
  split at read
  · next dated => simpa only [deadline, if_pos short, Option.isSome_ite] using dated
  · cases read

instance {ν : Type} : LeaseStore (PostgresState ν) where
  lease store query := store.leases.lookup query
  accepts now ttl := fitsBigint ttl && (deadline now ttl).isSome
  claim_granted {now query principal node ttl store after granted} claimed := by
    change PostgresState.claimQuery now query principal node ttl store = _ at claimed
    rcases PostgresState.claimQuery_cases now query principal node ttl store with
      ⟨error, token, _, refused⟩ | ⟨token, expiry, _, _, _, free, issued⟩
    · rw [refused] at claimed
      cases claimed
    · rw [issued] at claimed
      obtain ⟨read, rfl⟩ := Prod.mk.inj claimed
      cases PostgresState.leaseFromRow_eq_ok read
      exact ⟨free, fun other => Registry.lookup_insert_ite _ _ _ _⟩
  claim_refused {now query principal node ttl store after error} dated refused := by
    change PostgresState.claimQuery now query principal node ttl store = _ at refused
    rcases PostgresState.claimQuery_cases now query principal node ttl store with
      ⟨error, token, _, failed⟩ | ⟨token, expiry, _, fits, timed, _, issued⟩
    · rw [failed] at refused
      cases refused
      rfl
    · obtain ⟨stamped, readable⟩ := expiryTimestamp_of_deadline fits dated
      cases timed.symm.trans stamped
      rw [issued, PostgresState.issue, leaseFromRow_of_le readable] at refused
      cases refused
  claim_frame {now query principal node ttl store other} apart := by
    change (PostgresState.claimQuery now query principal node ttl store).2.leases.lookup other = _
    rcases PostgresState.claimQuery_cases now query principal node ttl store with
      ⟨error, token, _, refused⟩ | ⟨token, expiry, _, _, _, free, issued⟩
    · rw [refused]
    · have apart : other ≠ query := apart.resolve_right fun ⟨held, present, foreign⟩ =>
        foreign (free held present).1
      simp [issued, PostgresState.issue, apart]
  renew_granted {now presented ttl store after renewed} granted := by
    change PostgresState.renewQuery now presented ttl store = _ at granted
    rcases PostgresState.renewQuery_cases now presented ttl store with
      ⟨error, refused⟩ | ⟨row, expiry, found, fits, timed, extended⟩
    · rw [refused] at granted
      cases granted
    · rw [extended] at granted
      obtain ⟨read, rfl⟩ := Prod.mk.inj granted
      have dated := deadline_of_leaseFromRow fits timed read
      cases PostgresState.leaseFromRow_eq_ok read
      obtain ⟨present, same⟩ := PostgresState.claimRow_eq_some.mp found
      exact ⟨by simp [fits, dated], row, present, same, rfl,
        fun other => Registry.lookup_insert_ite _ _ _ _⟩
  renew_refused {now presented ttl store after error} refused accepted held present same := by
    obtain ⟨fits, dated⟩ := Bool.and_eq_true_iff.mp accepted
    obtain ⟨stamped, readable⟩ := expiryTimestamp_of_deadline fits dated
    have found := PostgresState.claimRow_eq_some.mpr ⟨present, same⟩
    simp [renewQuery, PostgresState.renewQuery, fits, found, stamped,
      leaseFromRow, readable] at refused
  renew_kept {now presented ttl store after error} dated refused := by
    change PostgresState.renewQuery now presented ttl store = _ at refused
    rcases PostgresState.renewQuery_cases now presented ttl store with
      ⟨reason, same⟩ | ⟨row, expiry, _, fits, timed, extended⟩
    · rw [same] at refused
      cases refused
      rfl
    · obtain ⟨stamped, readable⟩ := expiryTimestamp_of_deadline fits dated
      cases timed.symm.trans stamped
      rw [extended, leaseFromRow_of_le readable] at refused
      cases refused
  release_answers presented store := by
    have matches_iff : (store.claimRow presented).isSome = true ↔
        ∃ held, store.leases.lookup presented.queryId = some held ∧ held.SameClaim presented := by
      simp only [Option.isSome_iff_exists, PostgresState.claimRow_eq_some]
    simp only [releaseQuery, PostgresState.releaseQuery]
    split
    · next same =>
      refine ⟨true, rfl, iff_of_true rfl (matches_iff.mp same), fun other => ?_⟩
      simp [Registry.lookup_erase_ite]
    · next different =>
      refine ⟨false, rfl, iff_of_false (by simp) (mt matches_iff.mpr different), fun other => ?_⟩
      simp

/-- Calls about rows and quotas keep every lease. -/
class LeaseFrame (S : Type) {ν : outParam Type} [ClusterStateStore S ν] [LawfulStore S]
    [LeaseStore S] : Prop where
  /-- A write keeps them. -/
  put_leases : ∀ (now : Nat) (resource : SharedResource ν) (expected : Option Nat) (store : S),
    LeaseStore.lease (putResource now resource expected store).2 = LeaseStore.lease store
  /-- A delete keeps them. -/
  delete_leases : ∀ (kind id principal : String) (store : S),
    LeaseStore.lease (deleteResource kind id principal store).2 = LeaseStore.lease store
  /-- Taking a permit keeps them. -/
  acquire_leases : ∀ (now : Nat) (permit principal quota : String) (limit ttl : Nat) (store : S),
    LeaseStore.lease (acquireQuota now permit principal quota limit ttl store).2 =
      LeaseStore.lease store
  /-- Giving a permit up keeps them. -/
  permit_leases : ∀ (permit : String) (store : S),
    LeaseStore.lease (releaseQuota permit store).2 = LeaseStore.lease store

instance {ν : Type} : LeaseFrame (MemoryState ν) where
  put_leases _ _ _ _ := by
    simp only [putResource, MemoryState.putResource]
    split
    · rfl
    · split <;> rfl
  delete_leases _ _ _ _ := by
    simp only [deleteResource, MemoryState.deleteResource]
    split <;> rfl
  acquire_leases now permit principal quota limit ttl store := by
    obtain ⟨_, changed⟩ :=
      MemoryState.acquireQuota_frame now permit principal quota limit ttl store
    simp only [acquireQuota, LeaseStore.lease, changed]
  permit_leases _ _ := rfl

instance {ν : Type} : LeaseFrame (PostgresState ν) where
  put_leases _ _ _ _ := by
    simp only [putResource, PostgresState.putResource]
    split
    · rfl
    · split <;> rfl
  delete_leases _ _ _ _ := by
    simp only [deleteResource, PostgresState.deleteResource]
    split <;> rfl
  acquire_leases now permit principal quota limit ttl store := by
    obtain ⟨_, changed⟩ :=
      PostgresState.acquireQuota_frame now permit principal quota limit ttl store
    simp only [acquireQuota, LeaseStore.lease, changed]
  permit_leases _ _ := rfl

/-- A store that can be reached grants a write of one's own row over the version that is stored. -/
class ServingStore (S : Type) {ν : outParam Type} [ClusterStateStore S ν] [LawfulStore S] :
    Prop where
  /-- A write over the stored version is accepted. -/
  put_current : ∀ (now : Nat) {resource : SharedResource ν} {store : S},
    (∀ held, LawfulStore.row store resource.kind resource.resourceId = some held →
      held.principalId = resource.principalId) →
    ∃ stored after, putResource now resource
      (some (storedVersion (LawfulStore.row store resource.kind resource.resourceId))) store =
        (.ok stored, after)

instance {ν : Type} : ServingStore (MemoryState ν) where
  put_current now resource store own := by
    have mine : ((store.resources.lookup (resource.kind, resource.resourceId)).any fun value =>
        value.principalId != resource.principalId) = false := by
      cases present : store.resources.lookup (resource.kind, resource.resourceId) with
      | none => rfl
      | some held => simpa using own held present
    simp [LawfulStore.row, putResource, MemoryState.putResource, mine]

instance {ν : Type} : ServingStore (PostgresState ν) where
  put_current now resource store own := by
    simp only [LawfulStore.row, putResource, PostgresState.putResource]
    cases present : store.resources.lookup (resource.kind, resource.resourceId) with
    | none => exact ⟨_, _, rfl⟩
    | some held =>
      have same : held.principalId = resource.principalId := own held present
      simp [same, storedVersion]

/-- Calls on query leases. -/
inductive LeaseCall
  | claim (query principal node : String) (ttl : Nat)
  | renew (lease : QueryLease) (ttl : Nat)
  | release (lease : QueryLease)
  deriving DecidableEq, Repr

/-- What a call on leases answers: a lease, or whether one was removed. -/
inductive LeaseAnswer
  | leased (lease : QueryLease)
  | released (removed : Bool)
  deriving DecidableEq, Repr

/-- A call on leases that was made, with the store's clock and the reply. -/
structure LeaseEvent where
  now : Nat
  call : LeaseCall
  reply : Except ClusterError LeaseAnswer

/-- The call was a claim of a query, and it was granted. -/
def LeaseEvent.Grants (event : LeaseEvent) (query : String) (granted : QueryLease) : Prop :=
  (∃ principal node ttl, event.call = .claim query principal node ttl) ∧
    event.reply = .ok (.leased granted)

/-- The call gave up a claim of a query. -/
def LeaseEvent.Releases (event : LeaseEvent) (query : String) (held : QueryLease) : Prop :=
  ∃ presented, event.call = .release presented ∧ presented.queryId = query ∧
    held.SameClaim presented ∧ event.reply = .ok (.released true)

section

variable {S ν : Type} [ClusterStateStore S ν]

/-- The deadline of a call, where it has one, is a date of `chrono`. -/
def LeaseCall.Dated (now : Nat) : LeaseCall → Prop
  | claim _ _ _ ttl | renew _ ttl => (deadline now ttl).isSome = true
  | release _ => True

/-- Perform a call on leases. -/
def LeaseCall.perform (now : Nat) (store : S) : LeaseCall → Except ClusterError LeaseAnswer × S
  | claim query principal node ttl =>
    Prod.map (Except.map .leased) id (claimQuery now query principal node ttl store)
  | renew lease ttl => Prod.map (Except.map .leased) id (renewQuery now lease ttl store)
  | release lease => Prod.map (Except.map .released) id (releaseQuery lease store)

/-- The event of a call on a store. -/
def LeaseCall.event (now : Nat) (store : S) (call : LeaseCall) : LeaseEvent :=
  ⟨now, call, (call.perform now store).1⟩

/-- Runs of calls on leases from a store, the newest first, by any callers at any times, whose
deadlines are dates. -/
inductive LeaseRun (start : S) : List LeaseEvent → S → Prop
  | idle : LeaseRun start [] start
  | next {events : List LeaseEvent} {store : S} (now : Nat) (call : LeaseCall)
      (dated : call.Dated now) (run : LeaseRun start events store) :
      LeaseRun start (call.event now store :: events) (call.perform now store).2

/-- What one call does to the lease of one query. -/
inductive LeaseEffect (event : LeaseEvent) (query : String) (before after : Option QueryLease) :
    Prop
  | kept (same : after = before) (ungranted : ∀ lease, ¬event.Grants query lease)
  | granted (lease : QueryLease) (grants : event.Grants query lease) (stored : after = some lease)
  | renewed (held lease : QueryLease) (present : before = some held) (stored : after = some lease)
      (same : lease.SameClaim held) (ungranted : ∀ lease, ¬event.Grants query lease)
  | released (held : QueryLease) (present : before = some held)
      (releases : event.Releases query held) (ungranted : ∀ lease, ¬event.Grants query lease)

variable [LawfulStore S] [LeaseStore S]

/-- A claim grants the lease of its own query, keeps it when refused, and keeps all others. -/
theorem claim_effect (now : Nat) (store : S) (claimed principal node : String) (ttl : Nat)
    (dated : (deadline now ttl).isSome = true) (query : String) :
    LeaseEffect ((LeaseCall.claim claimed principal node ttl).event now store) query
      (LeaseStore.lease store query)
      (LeaseStore.lease ((LeaseCall.claim claimed principal node ttl).perform now store).2
        query) := by
  simp only [LeaseCall.event, LeaseCall.perform]
  rcases replied : claimQuery now claimed principal node ttl store with ⟨error | granted, after⟩
  · refine .kept (congrFun (LeaseStore.claim_refused dated replied) query) fun lease grants => ?_
    cases grants.2
  · have stored := (LeaseStore.claim_granted replied).2 query
    by_cases same : query = claimed
    · subst same
      exact .granted granted ⟨⟨principal, node, ttl, rfl⟩, rfl⟩ (by simpa using stored)
    · refine .kept (by simpa [same] using stored) fun lease grants => ?_
      obtain ⟨⟨_, _, _, call⟩, _⟩ := grants
      cases call
      exact same rfl

/-- A renewal extends the lease it presents and keeps all others. -/
theorem renew_effect (now : Nat) (store : S) (presented : QueryLease) (ttl : Nat)
    (dated : (deadline now ttl).isSome = true) (query : String) :
    LeaseEffect ((LeaseCall.renew presented ttl).event now store) query
      (LeaseStore.lease store query)
      (LeaseStore.lease ((LeaseCall.renew presented ttl).perform now store).2 query) := by
  have ungranted : ∀ lease,
      ¬((LeaseCall.renew presented ttl).event now store).Grants query lease := by
    rintro lease ⟨⟨_, _, _, call⟩, _⟩
    cases call
  simp only [LeaseCall.perform]
  rcases replied : renewQuery now presented ttl store with ⟨error | renewed, after⟩
  · exact .kept (congrFun (LeaseStore.renew_kept dated replied) query) ungranted
  · obtain ⟨_, held, present, _, extended, stored⟩ := LeaseStore.renew_granted replied
    have stored := stored query
    by_cases same : query = presented.queryId
    · subst same
      refine .renewed held renewed present (by simpa using stored) ?_ ungranted
      rw [extended]
      exact ⟨rfl, rfl⟩
    · exact .kept (by simpa [same] using stored) ungranted

/-- A release removes the lease it presents and keeps all others. -/
theorem release_effect (now : Nat) (store : S) (presented : QueryLease) (query : String) :
    LeaseEffect ((LeaseCall.release presented).event now store) query
      (LeaseStore.lease store query)
      (LeaseStore.lease ((LeaseCall.release presented).perform now store).2 query) := by
  have ungranted : ∀ lease,
      ¬((LeaseCall.release presented).event now store).Grants query lease := by
    rintro lease ⟨⟨_, _, _, call⟩, _⟩
    cases call
  obtain ⟨removed, replied, matched, stored⟩ := LeaseStore.release_answers presented store
  by_cases gone : removed = true ∧ query = presented.queryId
  · obtain ⟨rfl, rfl⟩ := gone
    obtain ⟨held, present, same⟩ := matched.mp rfl
    refine .released held present ⟨presented, rfl, rfl, same, ?_⟩ ungranted
    simp [LeaseCall.event, LeaseCall.perform, replied, Except.map]
  · exact .kept ((stored query).trans (if_neg gone)) ungranted

/-- Every call on leases has one of the four effects on each query. -/
theorem LeaseCall.effect (now : Nat) (store : S) (call : LeaseCall) (dated : call.Dated now)
    (query : String) :
    LeaseEffect (call.event now store) query (LeaseStore.lease store query)
      (LeaseStore.lease (call.perform now store).2 query) := by
  cases call with
  | claim claimed principal node ttl =>
    exact claim_effect now store claimed principal node ttl dated query
  | renew presented ttl => exact renew_effect now store presented ttl dated query
  | release presented => exact release_effect now store presented query

omit [LeaseStore S] in
/-- Tokens only grow, and a granted lease has one above all before it. -/
theorem LeaseCall.fenced (now : Nat) (store : S) (call : LeaseCall) :
    LawfulStore.fence store ≤ LawfulStore.fence (call.perform now store).2 ∧
      ∀ query lease, (call.event now store).Grants query lease →
        LawfulStore.fence store < lease.fencingToken ∧
          lease.fencingToken ≤ LawfulStore.fence (call.perform now store).2 := by
  cases call with
  | claim claimed principal node ttl =>
    simp only [LeaseCall.event, LeaseCall.perform]
    rcases replied : claimQuery now claimed principal node ttl store with ⟨error | granted, after⟩
    · refine ⟨(LawfulStore.claim_error replied).2, fun query lease grants => ?_⟩
      cases grants.2
    · obtain ⟨_, _, _, _, above, below⟩ := LawfulStore.claim_ok replied
      refine ⟨Nat.le_trans (Nat.le_of_lt above) below, fun query lease grants => ?_⟩
      cases grants.2
      exact ⟨above, below⟩
  | renew presented ttl =>
    have kept := (LawfulStore.renew_rows
      (show renewQuery now presented ttl store = (_, _) from rfl)).2.1
    refine ⟨Nat.le_of_eq kept.symm, ?_⟩
    rintro query lease ⟨⟨_, _, _, call⟩, _⟩
    cases call
  | release presented =>
    have kept := (LawfulStore.release_rows
      (show releaseQuery presented store = (_, _) from rfl)).2
    refine ⟨Nat.le_of_eq kept.symm, ?_⟩
    rintro query lease ⟨⟨_, _, _, call⟩, _⟩
    cases call

omit [LeaseStore S] in
theorem LeaseRun.granted_le {start store : S} {events : List LeaseEvent}
    (run : LeaseRun start events store) {event : LeaseEvent} (member : event ∈ events)
    {query : String} {lease : QueryLease} (grants : event.Grants query lease) :
    lease.fencingToken ≤ LawfulStore.fence store := by
  induction run with
  | idle => exact absurd member List.not_mem_nil
  | next now call _ _ step =>
    rcases List.mem_cons.mp member with newest | earlier
    · subst newest
      exact ((call.fenced now _).2 query lease grants).2
    · exact Nat.le_trans (step earlier) (call.fenced now _).1

omit [LeaseStore S] in
theorem LeaseRun.tokens_increase {start store : S} {events : List LeaseEvent}
    (run : LeaseRun start events store) {first second : LeaseEvent}
    (ordered : [second, first].Sublist events) {query : String} {earlier later : QueryLease}
    (granted : first.Grants query earlier) (again : second.Grants query later) :
    earlier.fencingToken < later.fencingToken := by
  induction run with
  | idle => cases ordered
  | next now call _ run step =>
    cases ordered with
    | cons _ older => exact step older
    | cons_cons _ older =>
      have below := run.granted_le (List.singleton_sublist.mp older) granted
      exact Nat.lt_of_le_of_lt below ((call.fenced now _).2 query later again).1

/-- The last claim of a query that was granted is still the stored one, or was given up since. -/
theorem LeaseRun.last_grant {start store : S} {events : List LeaseEvent}
    (run : LeaseRun start events store) {newer older : List LeaseEvent} {grant : LeaseEvent}
    (split : events = newer ++ grant :: older) {query : String} {earlier : QueryLease}
    (granted : grant.Grants query earlier)
    (last : ∀ event ∈ newer, ∀ lease, ¬event.Grants query lease) :
    (∃ event ∈ newer, event.Releases query earlier) ∨
      ∃ held, LeaseStore.lease store query = some held ∧ held.SameClaim earlier := by
  induction run generalizing newer with
  | idle => simp at split
  | @next events before now call dated run step =>
    have effect := call.effect now before dated query
    cases newer with
    | nil =>
      -- the grant is the newest call: what it granted is what is stored
      cases split
      cases effect with
      | kept _ ungranted => exact absurd granted (ungranted earlier)
      | renewed _ _ _ _ _ ungranted => exact absurd granted (ungranted earlier)
      | released _ _ _ ungranted => exact absurd granted (ungranted earlier)
      | granted lease grants stored =>
        cases grants.2.symm.trans granted.2
        exact .inr ⟨earlier, stored, rfl, rfl⟩
    | cons newest newer =>
      obtain ⟨rfl, rest⟩ := List.cons.inj split
      have quiet := last _ List.mem_cons_self
      rcases step rest fun event member => last event (List.mem_cons_of_mem _ member) with
        ⟨event, member, releases⟩ | ⟨held, present, same⟩
      · exact .inl ⟨event, List.mem_cons_of_mem _ member, releases⟩
      · cases effect with
        | kept unchanged _ => exact .inr ⟨held, unchanged.trans present, same⟩
        | granted lease grants _ => exact absurd grants (quiet lease)
        | renewed found lease found_present stored renewed _ =>
          cases found_present.symm.trans present
          exact .inr ⟨lease, stored, renewed.trans same⟩
        | released found found_present releases _ =>
          cases found_present.symm.trans present
          obtain ⟨presented, called, named, claim, replied⟩ := releases
          exact .inl ⟨_, List.mem_cons_self, presented, called, named, same.symm.trans claim,
            replied⟩

variable (S) in
/-- The fencing discipline of a store that accepts some durations at some times, over runs whose
deadlines are dates. -/
structure LeaseSafe (accepts : Nat → Nat → Bool) : Prop where
  /-- Tokens of successive granted claims of one query increase. -/
  tokens : ∀ {start store : S} {events : List LeaseEvent}, LeaseRun start events store →
    ∀ {first second : LeaseEvent} {query : String} {earlier later : QueryLease},
      [second, first].Sublist events → first.Grants query earlier → second.Grants query later →
        earlier.fencingToken < later.fencingToken
  /-- A renewal of an accepted duration succeeds exactly when it presents the stored claim. -/
  renews : ∀ (store : S) (now : Nat) (presented : QueryLease) (ttl : Nat),
    (renewQuery now presented ttl store).1.isOk = true ↔ accepts now ttl = true ∧
      ∃ held, LeaseStore.lease store presented.queryId = some held ∧ held.SameClaim presented
  /-- A release succeeds exactly when it presents the stored claim. -/
  releases : ∀ (store : S) (presented : QueryLease),
    (releaseQuery presented store).1 = .ok true ↔
      ∃ held, LeaseStore.lease store presented.queryId = some held ∧ held.SameClaim presented
  /-- A claim by another node succeeds only if the last granted claim was given up or has
  expired. -/
  taken : ∀ {start store : S} {events : List LeaseEvent}, LeaseRun start events store →
    ∀ {newer older : List LeaseEvent} {grant : LeaseEvent} {query : String}
      {earlier : QueryLease}, events = newer ++ grant :: older → grant.Grants query earlier →
      (∀ event ∈ newer, ∀ lease, ¬event.Grants query lease) →
      ∀ now principal node ttl, node ≠ earlier.ownerNodeId →
        (claimQuery now query principal node ttl store).1.isOk = true →
        (∃ event ∈ newer, event.Releases query earlier) ∨
          ∃ held, LeaseStore.lease store query = some held ∧ held.SameClaim earlier ∧
            held.leaseExpiresAt ≤ now
  /-- A claim by another principal is refused and leaves every lease as it was. -/
  owned : ∀ (store : S) (now : Nat) (query principal node : String) (ttl : Nat)
    (held : QueryLease), LeaseStore.lease store query = some held →
      held.principalId ≠ principal →
      (claimQuery now query principal node ttl store).1.isOk = false ∧
        LeaseStore.lease (claimQuery now query principal node ttl store).2 =
          LeaseStore.lease store

variable (S) in
/-- Whatever keeps leases as `LeaseStore` says is safe. -/
theorem leaseSafe : LeaseSafe S (LeaseStore.accepts S) where
  tokens {_ _ _} run {_ _ _ _ _} ordered granted again := run.tokens_increase ordered granted again
  renews store now presented ttl := by
    rcases replied : renewQuery now presented ttl store with ⟨error | renewed, after⟩
    · have refused := LeaseStore.renew_refused replied
      refine iff_of_false (by simp [Except.isOk, Except.toBool]) ?_
      rintro ⟨accepted, held, present, same⟩
      exact refused accepted held present same
    · obtain ⟨accepted, held, present, same, _⟩ := LeaseStore.renew_granted replied
      exact iff_of_true rfl ⟨accepted, held, present, same⟩
  releases store presented := by
    obtain ⟨removed, replied, matched, _⟩ := LeaseStore.release_answers presented store
    rw [replied, ← matched, Except.ok.injEq]
  taken {_ store _} run {_ _ _ query _} split granted last now principal node ttl other
      claimed := by
    rcases run.last_grant split granted last with released | ⟨held, present, same⟩
    · exact .inl released
    · rcases replied : claimQuery now query principal node ttl store with ⟨error | lease, after⟩
      · rw [replied] at claimed
        cases claimed
      · rcases ((LeaseStore.claim_granted replied).1 held present).2 with own | expired
        · exact absurd (own.symm.trans same.1) other
        · exact .inr ⟨held, present, same, expired⟩
  owned store now query principal node ttl held present other := by
    refine ⟨?_, funext fun query' => LeaseStore.claim_frame (.inr ⟨held, present, other⟩)⟩
    rcases replied : claimQuery now query principal node ttl store with ⟨error | lease, after⟩
    · rfl
    · exact absurd ((LeaseStore.claim_granted replied).1 held present).1 other

end

/-- Both stores keep the fencing discipline. They accept the durations whose deadline is a date of
`chrono`, and the PostgreSQL one only those whose milliseconds fit a signed 64-bit number. -/
theorem stores_lease_safe (ν : Type) :
    LeaseSafe (MemoryState ν) (fun now ttl => (deadline now ttl).isSome) ∧
      LeaseSafe (PostgresState ν) (fun now ttl => fitsBigint ttl && (deadline now ttl).isSome) :=
  ⟨leaseSafe (MemoryState ν), leaseSafe (PostgresState ν)⟩

/-- The PostgreSQL store refuses to renew a lease for an overlong duration, though the stored lease
has the node and the token presented. -/
theorem overlong_renewal_refused :
    let claimed :=
      claimQuery 0 "query" "alice" "node" 1000 (PostgresState.empty : PostgresState Unit)
    let lease : QueryLease := ⟨"query", "alice", "node", 1, 1000⟩
    claimed.1.toOption = some lease ∧ LeaseStore.lease claimed.2 "query" = some lease ∧
      (renewQuery 0 lease (2 ^ 63) claimed.2).1.isOk = false := by
  decide

end ConfluxQuery
