import ConfluxQuery.Cluster.Leases

/-!
# Principals and expired rows in the shared stores

Both stores keep the rows and leases of a principal from the calls of others: such a call neither
returns nor changes them, whatever it presents. What expires is treated less evenly. A read passes
over an expired row, but a write meets it, so a key whose row has expired looks absent to a reader
and cannot be written as an absent one.
-/

namespace ConfluxQuery

open ClusterStateStore

section

variable {S ν : Type} [ClusterStateStore S ν]

/-- Calls a store serves for a principal. -/
inductive PrincipalCall (ν : Type)
  | put (resource : SharedResource ν) (expectedVersion : Option Nat)
  | get (kind resourceId principalId : String)
  | delete (kind resourceId principalId : String)
  | claim (queryId principalId nodeId : String) (ttl : Nat)

/-- The principal a call is made for. -/
def PrincipalCall.principal : PrincipalCall ν → String
  | put resource _ => resource.principalId
  | get _ _ principalId => principalId
  | delete _ _ principalId => principalId
  | claim _ principalId _ _ => principalId

/-- What such a call answers. -/
inductive PrincipalAnswer (ν : Type)
  | stored (resource : SharedResource ν)
  | found (resource : Option (SharedResource ν))
  | deleted (removed : Bool)
  | granted (lease : QueryLease)

/-- The rows and leases an answer returns belong to a principal. -/
def PrincipalAnswer.BelongsTo (principal : String) : PrincipalAnswer ν → Prop
  | stored resource => resource.principalId = principal
  | found resource => ∀ row, resource = some row → row.principalId = principal
  | deleted _ => True
  | granted lease => lease.principalId = principal

/-- Perform such a call. -/
def PrincipalCall.perform (now : Nat) (store : S) :
    PrincipalCall ν → Except ClusterError (PrincipalAnswer ν) × S
  | put resource expected =>
    Prod.map (Except.map .stored) id (putResource now resource expected store)
  | get kind resourceId principalId =>
    ((getResource now kind resourceId principalId store).map .found, store)
  | delete kind resourceId principalId =>
    Prod.map (Except.map .deleted) id (deleteResource kind resourceId principalId store)
  | claim queryId principalId nodeId ttl =>
    Prod.map (Except.map .granted) id (claimQuery now queryId principalId nodeId ttl store)

/-- One call of a run: the store before it, the call, its reply and the store after it. -/
structure PrincipalEvent (S ν : Type) where
  before : S
  call : PrincipalCall ν
  reply : Except ClusterError (PrincipalAnswer ν)
  after : S

/-- A call as it is performed on a store. -/
def PrincipalCall.event (now : Nat) (store : S) (call : PrincipalCall ν) : PrincipalEvent S ν :=
  let done := call.perform now store
  ⟨store, call, done.1, done.2⟩

/-- A run of calls, each at a time of the store's clock. -/
def principalRun (store : S) : List (Nat × PrincipalCall ν) → List (PrincipalEvent S ν)
  | [] => []
  | (now, call) :: rest =>
    let event := call.event now store
    event :: principalRun event.after rest

/-- The store after a run. -/
def storeAfter (store : S) : List (Nat × PrincipalCall ν) → S
  | [] => store
  | (now, call) :: rest => storeAfter (call.event now store).after rest

variable [LawfulStore S] [LeaseStore S]

/-- A call keeps to its principal: all it returns belongs to that principal, and the rows and leases
of others are the same after it as before. -/
structure PrincipalEvent.Isolated (event : PrincipalEvent S ν) : Prop where
  returned : ∀ answer, event.reply = .ok answer → answer.BelongsTo event.call.principal
  rows : ∀ kind id row, LawfulStore.row event.before kind id = some row →
    row.principalId ≠ event.call.principal → LawfulStore.row event.after kind id = some row
  leases : ∀ query lease, LeaseStore.lease event.before query = some lease →
    lease.principalId ≠ event.call.principal → LeaseStore.lease event.after query = some lease

/-- A write keeps to its principal. -/
theorem put_isolated [LeaseFrame S] (now : Nat) (resource : SharedResource ν)
    (expected : Option Nat) (store : S) :
    ((PrincipalCall.put resource expected).event now store).Isolated := by
  have leases := LeaseFrame.put_leases now resource expected store
  rcases written : putResource now resource expected store with ⟨_ | stored, after⟩
  · rw [written] at leases
    simp only [PrincipalCall.event, PrincipalCall.perform, written]
    refine ⟨nofun, fun kind id row present _ => ?_, fun query lease held _ => ?_⟩
    · exact (congrFun (congrFun (LawfulStore.put_error written).1 kind) id).trans present
    · exact (congrFun leases query).trans held
  · rw [written] at leases
    obtain ⟨same, rows, owner, _⟩ := LawfulStore.put_ok written
    simp only [PrincipalCall.event, PrincipalCall.perform, written]
    refine ⟨fun answer answered => ?_, fun kind id row present foreign => ?_,
      fun query lease held _ => (congrFun leases query).trans held⟩
    · cases answered
      show stored.principalId = resource.principalId
      rw [same]
    · show LawfulStore.row after kind id = some row
      rw [rows, if_neg]
      · exact present
      · rintro ⟨rfl, rfl⟩
        exact foreign (owner row present).1

/-- A read keeps to its principal. -/
theorem get_isolated (now : Nat) (kind id principal : String) (store : S) :
    ((PrincipalCall.get kind id principal).event now store).Isolated := by
  refine ⟨fun answer answered => ?_, fun _ _ _ present _ => present, fun _ _ held _ => held⟩
  simp only [PrincipalCall.event, PrincipalCall.perform] at answered
  cases read : getResource now kind id principal store with
  | error error =>
    rw [read] at answered
    cases answered
  | ok found =>
    rw [read] at answered
    cases answered
    rintro row rfl
    exact (LawfulStore.get_some read).2.1

/-- A delete keeps to its principal. -/
theorem delete_isolated [LeaseFrame S] (now : Nat) (kind id principal : String) (store : S) :
    ((PrincipalCall.delete kind id principal).event now store).Isolated := by
  have leases := LeaseFrame.delete_leases kind id principal store
  rcases deleted : deleteResource kind id principal store with ⟨_ | removed, after⟩
  · rw [deleted] at leases
    simp only [PrincipalCall.event, PrincipalCall.perform, deleted]
    refine ⟨nofun, fun kind id row present _ => ?_, fun query lease held _ => ?_⟩
    · exact (congrFun (congrFun (LawfulStore.delete_error deleted).1 kind) id).trans present
    · exact (congrFun leases query).trans held
  · rw [deleted] at leases
    obtain ⟨_, foreigners, _, others, _⟩ := LawfulStore.delete_ok deleted
    simp only [PrincipalCall.event, PrincipalCall.perform, deleted]
    refine ⟨fun answer answered => ?_, fun kind' id' row present foreign => ?_,
      fun query lease held _ => (congrFun leases query).trans held⟩
    · cases answered
      trivial
    · show LawfulStore.row after kind' id' = some row
      by_cases here : kind' = kind ∧ id' = id
      · obtain ⟨rfl, rfl⟩ := here
        exact foreigners row present foreign
      · exact (others kind' id' here).trans present

/-- A claim returns a lease of its own principal and keeps the rows and the leases of others. -/
theorem claim_isolated (now : Nat) (query principal node : String) (ttl : Nat) (store : S) :
    ((PrincipalCall.claim query principal node ttl).event now store).Isolated := by
  have leases : ∀ other lease, LeaseStore.lease store other = some lease →
      lease.principalId ≠ principal →
      LeaseStore.lease (claimQuery now query principal node ttl store).2 other = some lease := by
    intro other lease present foreign
    by_cases same : other = query
    · subst same
      exact (LeaseStore.claim_frame (.inr ⟨lease, present, foreign⟩)).trans present
    · exact (LeaseStore.claim_frame (.inl same)).trans present
  rcases claimed : claimQuery now query principal node ttl store with ⟨_ | granted, after⟩
  · rw [claimed] at leases
    simp only [PrincipalCall.event, PrincipalCall.perform, claimed]
    refine ⟨nofun, fun kind id row present _ => ?_, leases⟩
    exact (congrFun (congrFun (LawfulStore.claim_error claimed).1 kind) id).trans present
  · rw [claimed] at leases
    obtain ⟨rows, _, owner, _⟩ := LawfulStore.claim_ok claimed
    simp only [PrincipalCall.event, PrincipalCall.perform, claimed]
    refine ⟨fun answer answered => ?_, fun kind id row present _ => ?_, leases⟩
    · cases answered
      exact owner
    · exact (congrFun (congrFun rows kind) id).trans present

/-- Every call keeps to its principal. -/
theorem PrincipalCall.isolated [LeaseFrame S] (now : Nat) (store : S) (call : PrincipalCall ν) :
    (call.event now store).Isolated := by
  cases call with
  | put resource expected => exact put_isolated now resource expected store
  | get kind id principal => exact get_isolated now kind id principal store
  | delete kind id principal => exact delete_isolated now kind id principal store
  | claim query principal node ttl => exact claim_isolated now query principal node ttl store

/-- A store isolates principals: in every run each call keeps to its principal, and what a principal
has before calls of others alone it has after them. -/
structure Isolates (S : Type) {ν : outParam Type} [ClusterStateStore S ν] [LawfulStore S]
    [LeaseStore S] : Prop where
  calls : ∀ (start : S) (run : List (Nat × PrincipalCall ν)),
    ∀ event ∈ principalRun start run, event.Isolated
  /-- The rows of a principal after a run of calls of others. -/
  rows : ∀ (start : S) (run : List (Nat × PrincipalCall ν)) (principal : String),
    (∀ call ∈ run, call.2.principal ≠ principal) → ∀ kind id row,
      LawfulStore.row start kind id = some row → row.principalId = principal →
        LawfulStore.row (storeAfter start run) kind id = some row
  /-- The leases of a principal after a run of calls of others. -/
  leases : ∀ (start : S) (run : List (Nat × PrincipalCall ν)) (principal : String),
    (∀ call ∈ run, call.2.principal ≠ principal) → ∀ query lease,
      LeaseStore.lease start query = some lease → lease.principalId = principal →
        LeaseStore.lease (storeAfter start run) query = some lease

/-- A store whose calls keep to their principals isolates principals. -/
theorem isolates [LeaseFrame S] : Isolates S where
  calls start run event member := by
    induction run generalizing start with
    | nil => cases member
    | cons head rest step =>
      rcases List.mem_cons.mp member with rfl | later
      · exact head.2.isolated head.1 start
      · exact step _ later
  rows start run principal foreign kind id row present owner := by
    induction run generalizing start with
    | nil => exact present
    | cons head rest step =>
      have other := foreign head List.mem_cons_self
      refine step _ (fun call member => foreign call (List.mem_cons_of_mem _ member)) ?_
      exact (head.2.isolated head.1 start).rows kind id row present (owner ▸ other.symm)
  leases start run principal foreign query lease held owner := by
    induction run generalizing start with
    | nil => exact held
    | cons head rest step =>
      have other := foreign head List.mem_cons_self
      refine step _ (fun call member => foreign call (List.mem_cons_of_mem _ member)) ?_
      exact (head.2.isolated head.1 start).leases query lease held (owner ▸ other.symm)

end

/-- Both stores isolate principals. -/
theorem stores_isolate_principals (ν : Type) :
    Isolates (MemoryState ν) ∧ Isolates (PostgresState ν) :=
  ⟨isolates, isolates⟩

section

variable {S ν : Type} [ClusterStateStore S ν]

/-- A writer that has just read the key of its resource can write it: what reads as absent is
written over version zero, and what is read over the version that was read. -/
def WritesWhatItReads (now : Nat) (resource : SharedResource ν) (store : S) : Prop :=
  let read := getResource now resource.kind resource.resourceId resource.principalId store
  (read = .ok none → (putResource now resource (some 0) store).1.isOk = true) ∧
    ∀ found, read = .ok (some found) →
      (putResource now resource (some found.version) store).1.isOk = true

/-- A writer that has read nothing depends on the write of an absent row alone. -/
theorem writesWhatItReads_absent {now : Nat} {resource : SharedResource ν} {store : S}
    (absent : getResource now resource.kind resource.resourceId resource.principalId store =
      .ok none) :
    WritesWhatItReads now resource store ↔
      (putResource now resource (some 0) store).1.isOk = true := by
  simp [WritesWhatItReads, absent]

variable [LawfulStore S]

/-- A writer of its own row can always write what it reads, unless the row has expired. -/
theorem writesWhatItReads_of_visible [ServingStore S] {now : Nat} {resource : SharedResource ν}
    {store : S}
    (visible : ∀ held, LawfulStore.row store resource.kind resource.resourceId = some held →
      now < held.expiresAt) :
    WritesWhatItReads now resource store := by
  refine ⟨fun absent => ?_, fun found present => ?_⟩
  · have nothing : LawfulStore.row store resource.kind resource.resourceId = none := by
      cases stored : LawfulStore.row store resource.kind resource.resourceId with
      | none => rfl
      | some held =>
        have lapsed := LawfulStore.get_none absent held stored
        have := visible held stored
        omega
    obtain ⟨stored, after, accepted⟩ : ∃ stored after,
        putResource now resource (some (storedVersion (LawfulStore.row store resource.kind
          resource.resourceId))) store = (.ok stored, after) :=
      ServingStore.put_current now (by simp [nothing])
    rw [nothing] at accepted
    have accepted : putResource now resource (some 0) store = (.ok stored, after) := accepted
    rw [accepted]
    rfl
  · obtain ⟨stored, owner, _⟩ := LawfulStore.get_some present
    obtain ⟨written, after, accepted⟩ : ∃ written after,
        putResource now resource (some (storedVersion (LawfulStore.row store resource.kind
          resource.resourceId))) store = (.ok written, after) :=
      ServingStore.put_current now (by simp [stored, owner])
    rw [stored] at accepted
    have accepted : putResource now resource (some found.version) store = (.ok written, after) :=
      accepted
    rw [accepted]
    rfl

end

/-- In the in-memory store the row of a key is not an expired row of the writer, unless it has
never been written. -/
def MemoryState.writable {ν : Type} (now : Nat) (resource : SharedResource ν)
    (state : MemoryState ν) : Bool :=
  (LawfulStore.row state resource.kind resource.resourceId).all fun held =>
    now < held.expiresAt || held.principalId != resource.principalId || held.version == 0

/-- In the PostgreSQL store the row of a key is not an expired row, of the writer or of another,
unless it is the writer's and has never been written. -/
def PostgresState.writable {ν : Type} (now : Nat) (resource : SharedResource ν)
    (state : PostgresState ν) : Bool :=
  (LawfulStore.row state resource.kind resource.resourceId).all fun held =>
    now < held.expiresAt || (held.principalId == resource.principalId && held.version == 0)

/-- The in-memory store lets a writer write what it reads just where no expired row of its own is
stored. -/
theorem MemoryState.writesWhatItReads_iff {ν : Type} (now : Nat) (resource : SharedResource ν)
    (state : MemoryState ν) :
    WritesWhatItReads now resource state ↔ state.writable now resource = true := by
  by_cases visible : ∀ held, LawfulStore.row state resource.kind resource.resourceId = some held →
      now < held.expiresAt
  · refine iff_of_true (writesWhatItReads_of_visible visible) ?_
    rw [writable, Option.all_eq_true_iff_get]
    intro stored
    simp [visible _ (Option.some_get stored).symm]
  · push Not at visible
    obtain ⟨held, present, lapsed⟩ := visible
    have stored : state.resources.lookup (resource.kind, resource.resourceId) = some held := present
    by_cases owner : held.principalId = resource.principalId
    · -- the read answers nothing for an owner, and the write then meets the row's version
      have absent : ClusterStateStore.getResource now resource.kind resource.resourceId
          resource.principalId state = .ok none := by
        simp [ClusterStateStore.getResource, MemoryState.getResource, stored, owner, lapsed]
      rw [writesWhatItReads_absent absent]
      by_cases unwritten : held.version = 0
      · simp [ClusterStateStore.putResource, MemoryState.putResource, stored, owner, present,
          storedVersion, unwritten, writable, Except.isOk, Except.toBool]
      · simp [ClusterStateStore.putResource, MemoryState.putResource, stored, owner, present,
          storedVersion, unwritten, Ne.symm unwritten, writable, lapsed, Except.isOk, Except.toBool]
    · have refused : ClusterStateStore.getResource now resource.kind resource.resourceId
          resource.principalId state = .error resourceForbidden := by
        simp [ClusterStateStore.getResource, MemoryState.getResource, stored, owner]
      simp [WritesWhatItReads, refused, writable, present, owner]

/-- The PostgreSQL store lets a writer write what it reads just where no expired row is stored. -/
theorem PostgresState.writesWhatItReads_iff {ν : Type} (now : Nat) (resource : SharedResource ν)
    (state : PostgresState ν) :
    WritesWhatItReads now resource state ↔ state.writable now resource = true := by
  by_cases visible : ∀ held, LawfulStore.row state resource.kind resource.resourceId = some held →
      now < held.expiresAt
  · refine iff_of_true (writesWhatItReads_of_visible visible) ?_
    rw [writable, Option.all_eq_true_iff_get]
    intro stored
    simp [visible _ (Option.some_get stored).symm]
  · push Not at visible
    obtain ⟨held, present, lapsed⟩ := visible
    have stored : state.resources.lookup (resource.kind, resource.resourceId) = some held := present
    -- the statement filters by expiry before the owner is looked at
    have absent : ClusterStateStore.getResource now resource.kind resource.resourceId
        resource.principalId state = .ok none := by
      simp [ClusterStateStore.getResource, PostgresState.getResource, stored, Option.filter,
        Nat.not_lt.mpr lapsed]
    rw [writesWhatItReads_absent absent]
    by_cases fits : held.principalId = resource.principalId ∧ held.version = 0
    · simp [ClusterStateStore.putResource, PostgresState.putResource, stored, fits, present,
        writable, Except.isOk, Except.toBool]
    · have refused : ¬(held.principalId = resource.principalId ∧ 0 = held.version) :=
        fun both => fits ⟨both.1, both.2.symm⟩
      simp [ClusterStateStore.putResource, PostgresState.putResource, stored, refused, present,
        fits, writable, lapsed, Except.isOk, Except.toBool]

/-- A writer can write what it reads just where no expired row stands in its way, in both stores. -/
theorem writes_after_reads_iff (ν : Type) (now : Nat) (resource : SharedResource ν) :
    (∀ state : MemoryState ν,
      WritesWhatItReads now resource state ↔ state.writable now resource = true) ∧
    (∀ state : PostgresState ν,
      WritesWhatItReads now resource state ↔ state.writable now resource = true) :=
  ⟨MemoryState.writesWhatItReads_iff now resource, PostgresState.writesWhatItReads_iff now resource⟩

namespace Sample

/-- A session of a principal, written once and visible until a time. -/
def lapsing (expiresAt : Nat) : SharedResource Unit :=
  ⟨"session-1", "alice", "session", 0, (), expiresAt⟩

/-- A written resource reads as absent from the moment it expires, and the write of an absent one is
then refused, in both stores. -/
theorem expired_row_refuses_writer :
    (let state := (ClusterStateStore.putResource 0 (lapsing 10) (some 0)
      (MemoryState.empty : MemoryState Unit)).2
    getResource 10 "session" "session-1" "alice" state = .ok none ∧
      (ClusterStateStore.putResource 10 (lapsing 20) (some 0) state).1 =
        .error ⟨"version_conflict", "resource version changed"⟩) ∧
    (let state := (ClusterStateStore.putResource 0 (lapsing 10) (some 0)
      (PostgresState.empty : PostgresState Unit)).2
    getResource 10 "session" "session-1" "alice" state = .ok none ∧
      (ClusterStateStore.putResource 10 (lapsing 20) (some 0) state).1 =
        .error ⟨"version_conflict", "resource owner or version changed"⟩) := by
  decide +kernel

end Sample

end ConfluxQuery
