import ConfluxQuery.Cluster.Quota
import ConfluxQuery.Verif.Admission
import ConfluxQuery.Verif.StoreHistory

/-!
# Shared sessions of a principal

A shared session is created under a permit of the quota `sessions`, and its record names that
permit. The permit expires a fixed time after it was taken, while every change of the session
extends its record, so a record can outlive its permit and no longer counts against the quota. The
sessions of a principal stay within its limit in runs in which a permit is taken only while every
unexpired record of the principal names a permit that is held, and a record is written under a
permit that is held, or that the record it replaces names, and that no other record names.
-/

namespace ConfluxQuery

/-- The permit a shared session names. -/
def sessionPermit (resource : Resource) : Option String :=
  match resource.payload with
  | .session shared => some shared.quotaPermit
  | _ => none

/-- The row is an unexpired session of a principal. -/
def openSession (now : Nat) (principal : String) (resource : Resource) : Bool :=
  resource.kind == "session" && resource.principalId == principal &&
    decide (now < resource.expiresAt)

section

variable {S : Type} [ClusterStateStore S Payload] [LawfulStore S] [QuotaStore S]

/-- Number of a principal's unexpired shared sessions. -/
def sharedSessions (now : Nat) (principal : String) (store : S) : Nat :=
  Registry.count (fun _ row => openSession now principal row) (QuotaStore.rows store)

/-- Keys of a principal's unexpired shared sessions. -/
def sessionKeys (now : Nat) (principal : String) (store : S) : Finset (String × String) :=
  Registry.keysWhere (fun _ row => openSession now principal row) (QuotaStore.rows store)

/-- The permit named under a key. -/
def permitAt (store : S) (key : String × String) : Option String :=
  ((QuotaStore.rows store).lookup key).bind sessionPermit

/-- Permits of a principal for sessions that are neither given up nor expired. -/
def heldPermits (now : Nat) (principal : String) (store : S) : Finset String :=
  Registry.keysWhere
    (fun _ held => held.countsFor principal "sessions" && decide (now < held.expiresAt))
    (QuotaStore.permits store)

/-- Permits that a principal holds or that its unexpired sessions name. -/
def sessionClaims (now : Nat) (principal : String) (store : S) : Finset (Option String) :=
  (sessionKeys now principal store).image (permitAt store) ∪
    (heldPermits now principal store).image some

/-- A principal's unexpired sessions name different permits, and these and the permits it holds are
within its limit. -/
structure Covered (limit now : Nat) (principal : String) (store : S) : Prop where
  /-- No permit is named twice. -/
  distinct : Set.InjOn (permitAt store) (sessionKeys now principal store)
  /-- The permits are within the limit. -/
  bounded : (sessionClaims now principal store).card ≤ limit

/-- A key of an unexpired session. -/
theorem mem_sessionKeys {now : Nat} {principal : String} {store : S} {key : String × String} :
    key ∈ sessionKeys now principal store ↔
      ∃ row, (QuotaStore.rows store).lookup key = some row ∧ openSession now principal row = true :=
  Registry.mem_keysWhere

/-- A permit that is held. -/
theorem mem_heldPermits {now : Nat} {principal : String} {store : S} {name : String} :
    name ∈ heldPermits now principal store ↔ ∃ held,
      (QuotaStore.permits store).lookup name = some held ∧
        held.countsFor principal "sessions" = true ∧ now < held.expiresAt := by
  simp [heldPermits, Registry.mem_keysWhere]

/-- The permits that are held are counted by the quota. -/
theorem card_heldPermits (now : Nat) (principal : String) (store : S) :
    (heldPermits now principal store).card =
      livePermits now principal "sessions" (QuotaStore.permits store) :=
  Registry.card_keysWhere _ _

namespace Covered

variable {limit now : Nat} {principal : String} {store after : S}

theorem sessions (covered : Covered limit now principal store) :
    sharedSessions now principal store ≤ limit := by
  calc
    sharedSessions now principal store
      = (sessionKeys now principal store).card := (Registry.card_keysWhere _ _).symm
    _ = ((sessionKeys now principal store).image (permitAt store)).card :=
      (Finset.card_image_of_injOn covered.distinct).symm
    _ ≤ (sessionClaims now principal store).card :=
      Finset.card_le_card Finset.subset_union_left
    _ ≤ limit := covered.bounded

/-- Sessions stay covered while rows only go and the permits stay within what was claimed. -/
theorem of_fewer (covered : Covered limit now principal store) {later : Nat}
    (fewer : ∀ key row, (QuotaStore.rows after).lookup key = some row →
      openSession later principal row = true →
      (QuotaStore.rows store).lookup key = some row ∧ openSession now principal row = true)
    (held : heldPermits later principal after ⊆ heldPermits now principal store) :
    Covered limit later principal after := by
  have kept : ∀ key ∈ sessionKeys later principal after,
      key ∈ sessionKeys now principal store ∧ permitAt after key = permitAt store key := by
    intro key member
    obtain ⟨row, present, live⟩ := mem_sessionKeys.mp member
    obtain ⟨before, open_⟩ := fewer key row present live
    exact ⟨mem_sessionKeys.mpr ⟨row, before, open_⟩, by rw [permitAt, permitAt, present, before]⟩
  refine ⟨fun one first other second same => ?_, Nat.le_trans (Finset.card_le_card ?_)
    covered.bounded⟩
  · obtain ⟨first, one_⟩ := kept one first
    obtain ⟨second, other_⟩ := kept other second
    exact covered.distinct first second (one_ ▸ other_ ▸ same)
  · refine Finset.union_subset_union (fun name member => ?_) (Finset.image_subset_image held)
    obtain ⟨key, inside, rfl⟩ := Finset.mem_image.mp member
    obtain ⟨before, same⟩ := kept key inside
    exact same ▸ Finset.mem_image_of_mem _ before

theorem later (covered : Covered limit now principal store) {time : Nat} (order : now ≤ time) :
    Covered limit time principal store := by
  refine covered.of_fewer (fun key row present live => ⟨present, ?_⟩) fun name member => ?_
  · simp only [openSession, Bool.and_eq_true, decide_eq_true_eq] at live ⊢
    exact ⟨live.1, Nat.lt_of_le_of_lt order live.2⟩
  · obtain ⟨held, present, counts, live⟩ := mem_heldPermits.mp member
    exact mem_heldPermits.mpr ⟨held, present, counts, Nat.lt_of_le_of_lt order live⟩

/-- A permit that is taken keeps sessions covered, when every unexpired session names a permit that
is held. -/
theorem acquire (named : ∀ key ∈ sessionKeys now principal store, ∃ name,
      permitAt store key = some name ∧ name ∈ heldPermits now principal store)
    (covered : Covered limit now principal store) (uuid : String)
    (same : ∀ key, (QuotaStore.rows after).lookup key = (QuotaStore.rows store).lookup key)
    (held : ∀ name ∈ heldPermits now principal after, name ∈ heldPermits now principal store ∨
      name = uuid ∧ (heldPermits now principal store).card < limit) :
    Covered limit now principal after := by
  by_cases old : heldPermits now principal after ⊆ heldPermits now principal store
  · exact covered.of_fewer (fun key row present live => ⟨same key ▸ present, live⟩) old
  -- A permit is new, so its quota had room.
  obtain ⟨name, new, absent⟩ := Finset.not_subset.mp old
  obtain ⟨rfl, room⟩ := (held name new).resolve_left absent
  have keys : sessionKeys now principal after = sessionKeys now principal store := by
    ext key
    simp only [mem_sessionKeys, same]
  have names : permitAt after = permitAt store := by
    funext key
    rw [permitAt, permitAt, same]
  refine ⟨by rw [keys, names]; exact covered.distinct, ?_⟩
  have within : sessionClaims now principal after ⊆
      insert (some name) ((heldPermits now principal store).image some) := by
    rw [sessionClaims, keys, names]
    refine Finset.union_subset (fun found member => ?_) (fun found member => ?_)
    · obtain ⟨key, inside, rfl⟩ := Finset.mem_image.mp member
      obtain ⟨permit, at_, live⟩ := named key inside
      exact Finset.mem_insert_of_mem (at_ ▸ Finset.mem_image_of_mem some live)
    · obtain ⟨permit, live, rfl⟩ := Finset.mem_image.mp member
      rcases held permit live with before | ⟨rfl, _⟩
      · exact Finset.mem_insert_of_mem (Finset.mem_image_of_mem some before)
      · exact Finset.mem_insert_self _ _
  calc
    _ ≤ (insert (some name) ((heldPermits now principal store).image some)).card :=
      Finset.card_le_card within
    _ ≤ ((heldPermits now principal store).image some).card + 1 := Finset.card_insert_le _ _
    _ ≤ (heldPermits now principal store).card + 1 :=
      Nat.succ_le_succ Finset.card_image_le
    _ ≤ limit := room

/-- A session that is written keeps sessions covered, when the permit it names is claimed and no
other session names it. -/
theorem put (covered : Covered limit now principal store) {key : String × String}
    {permit : Option String} (claimed : permit ∈ sessionClaims now principal store)
    (alone : ∀ other ∈ sessionKeys now principal store, permitAt store other = permit →
      other = key)
    (held : heldPermits now principal after ⊆ heldPermits now principal store)
    (rows : ∀ other row, (QuotaStore.rows after).lookup other = some row →
      (QuotaStore.rows store).lookup other = some row ∨ other = key ∧ sessionPermit row = permit) :
    Covered limit now principal after := by
  have kept : ∀ other ∈ sessionKeys now principal after,
      (other ∈ sessionKeys now principal store ∧ permitAt after other = permitAt store other) ∨
        other = key ∧ permitAt after other = permit := by
    intro other member
    obtain ⟨row, present, live⟩ := mem_sessionKeys.mp member
    rcases rows other row present with before | ⟨here, names⟩
    · exact .inl ⟨mem_sessionKeys.mpr ⟨row, before, live⟩, by
        rw [permitAt, permitAt, present, before]⟩
    · exact .inr ⟨here, by rw [permitAt, present]; exact names⟩
  refine ⟨fun one first other second same => ?_, Nat.le_trans (Finset.card_le_card ?_)
    covered.bounded⟩
  · rcases kept one first with ⟨before, one_⟩ | ⟨rfl, one_⟩ <;>
      rcases kept other second with ⟨earlier, other_⟩ | ⟨rfl, other_⟩
    · exact covered.distinct before earlier (one_ ▸ other_ ▸ same)
    · exact alone one before (one_ ▸ other_ ▸ same)
    · exact (alone other earlier (one_ ▸ other_ ▸ same.symm)).symm
    · rfl
  · refine Finset.union_subset (fun name member => ?_)
      (Finset.Subset.trans (Finset.image_subset_image held) Finset.subset_union_right)
    obtain ⟨other, inside, rfl⟩ := Finset.mem_image.mp member
    rcases kept other inside with ⟨before, same⟩ | ⟨_, same⟩
    · exact same ▸ Finset.mem_union_left _ (Finset.mem_image_of_mem _ before)
    · exact same ▸ claimed

end Covered

section

variable {now : Nat} {uuid : String} {store : S} {op : StoreOp}

/-- What a store holds under a key after a call it has held before, or it is the resource
written. -/
theorem rows_of_perform {key : String × String} {row : Resource}
    (present : (QuotaStore.rows (op.perform now uuid store).2).lookup key = some row) :
    (QuotaStore.rows store).lookup key = some row ∨ ∃ resource expected version,
      op = .putResource resource expected ∧ key = (resource.kind, resource.resourceId) ∧
        row = { resource with version := version } := by
  obtain ⟨kind, id⟩ := key
  rw [QuotaStore.rows_lookup] at present ⊢
  rcases row_of_perform present with before | ⟨resource, expected, version, wrote, rfl, rfl, shape⟩
  · exact .inl before
  · exact .inr ⟨resource, expected, version, wrote, rfl, shape⟩

/-- A permit that is held after a call was held before, or it was granted while its quota had
room. -/
theorem heldPermits_of_perform {principal name : String}
    (live : name ∈ heldPermits now principal (op.perform now uuid store).2) :
    name ∈ heldPermits now principal store ∨ ∃ limit ttl,
      op = .acquireQuota principal "sessions" limit ttl ∧ name = uuid ∧
        (heldPermits now principal store).card < limit := by
  obtain ⟨held, present, counts, unexpired⟩ := mem_heldPermits.mp live
  rcases permit_of_perform present with before | ⟨_, _, limit, ttl, rfl, rfl, rfl, rfl, room, _⟩
  · exact .inl (mem_heldPermits.mpr ⟨held, before, counts, unexpired⟩)
  · simp only [QuotaPermit.countsFor, Bool.and_eq_true, beq_iff_eq] at counts
    obtain ⟨rfl, counted⟩ := counts
    rw [counted] at room ⊢
    exact .inr ⟨limit, ttl, rfl, rfl, card_heldPermits now _ store ▸ room⟩

/-- What a call that takes a permit for a principal's sessions, or writes one of its sessions, finds
in the store: every unexpired session names a permit that is held; the permit of the session it
writes is held or named by the session it replaces, and no other unexpired session names it. -/
def StoreOp.covers (principal : String) (now : Nat) (store : S) : StoreOp → Bool
  | acquireQuota owner quota _ _ =>
    !(owner == principal && quota == "sessions") ||
      decide (∀ key ∈ sessionKeys now principal store,
        ∃ name ∈ heldPermits now principal store, permitAt store key = some name)
  | putResource resource _ =>
    !(resource.kind == "session" && resource.principalId == principal) ||
      decide (sessionPermit resource ∈ sessionClaims now principal store ∧
        ∀ key ∈ sessionKeys now principal store, permitAt store key = sessionPermit resource →
          key = (resource.kind, resource.resourceId))
  | _ => true

variable {limit : Nat} {principal : String}

/-- A call that finds this keeps the sessions of the principal covered. -/
theorem covered_of_perform (covered : Covered limit now principal store)
    (covers : op.covers principal now store = true)
    (limited : ∀ most ttl, op = .acquireQuota principal "sessions" most ttl → most = limit) :
    Covered limit now principal (op.perform now uuid store).2 := by
  by_cases acquires : ∃ most ttl, op = .acquireQuota principal "sessions" most ttl
  · obtain ⟨most, ttl, rfl⟩ := acquires
    simp only [StoreOp.covers, beq_self_eq_true, Bool.and_self, Bool.not_true, Bool.false_or,
      decide_eq_true_eq] at covers
    refine Covered.acquire (fun key member => ?_) covered uuid (fun key => ?_) fun name live => ?_
    · obtain ⟨name, held, at_⟩ := covers key member
      exact ⟨name, at_, held⟩
    · have rows : LawfulStore.row (ClusterStateStore.acquireQuota now uuid principal "sessions" most
          ttl store).2 = LawfulStore.row store := (LawfulStore.acquire_rows rfl).1
      rw [QuotaStore.rows_lookup, QuotaStore.rows_lookup]
      exact congrFun (congrFun rows key.1) key.2
    · rcases heldPermits_of_perform live with before | ⟨_, _, same, named, room⟩
      · exact .inl before
      · cases same
        exact .inr ⟨named, limited _ _ rfl ▸ room⟩
  have held : heldPermits now principal (op.perform now uuid store).2 ⊆
      heldPermits now principal store := by
    intro name live
    rcases heldPermits_of_perform live with before | ⟨most, ttl, same, _⟩
    · exact before
    · exact absurd ⟨most, ttl, same⟩ acquires
  by_cases puts : ∃ resource expected, op = .putResource resource expected ∧
      resource.kind = "session" ∧ resource.principalId = principal
  · obtain ⟨resource, expected, rfl, session, own⟩ := puts
    simp only [StoreOp.covers, session, own, beq_self_eq_true, Bool.and_self, Bool.not_true,
      Bool.false_or, decide_eq_true_eq] at covers
    refine covered.put covers.1 (session ▸ covers.2) held fun key row present => ?_
    rcases rows_of_perform present with before | ⟨other, _, _, same, here, rfl⟩
    · exact .inl before
    · cases same
      exact .inr ⟨here, rfl⟩
  · refine covered.of_fewer (fun key row present live => ⟨?_, live⟩) held
    rcases rows_of_perform present with before | ⟨resource, expected, _, same, _, rfl⟩
    · exact before
    · simp only [openSession, Bool.and_eq_true, beq_iff_eq] at live
      exact absurd ⟨resource, expected, same, live.1⟩ puts

end

/-- The clock of the shared store does not go back, the principal carries one limit, and whoever
takes a permit for its sessions or writes one of them finds its sessions covered. -/
def PermitsCover (principal : String) (limit : Nat) (world : World S) (past : Past S) :
    Upcoming gatewayOps Nat Reading Request ServiceError Answer → Bool
  | .performs caller (.store op) reading =>
    decide (storeClock past ≤ reading.now) &&
      (caller.request.principal.all fun acting =>
        acting.id != principal || acting.maxSessions == limit) &&
      op.covers principal reading.now world.store
  | _ => true

variable {gateways : Nat → Gateway} {store : S} {world : World S} {past : Past S} {limit : Nat}
  {principal : String}

theorem sessions_covered (start : Covered limit 0 principal store)
    (history : History (gatewayMachine S gateways) (admissionProtocol gateways)
      (PermitsCover principal limit · · ·) (World.initial store) world past) :
    Covered limit (storeClock past) principal world.store := by
  induction history with
  | initial => exact start
  | arrives _ _ _ _ _ step => exact step
  | returns _ _ _ _ _ _ _ step => exact step
  | @performs before older caller act reading outcome held known _ allowed handled met step =>
    have handled : handle caller.place reading act before = some outcome := handled
    rw [storeClock_begun]
    cases act with
    | store op =>
      simp only [PermitsCover, Bool.and_eq_true, decide_eq_true_eq] at met
      obtain ⟨⟨order, called⟩, covers⟩ := met
      have now : storeClock (.did caller (.store op) reading outcome.reply before :: older) =
          reading.now := Nat.max_eq_left order
      rw [now, (handle_store handled).2]
      rcases op.apply_state reading.now reading.uuid reading.fault before.store with same | done
      · rw [same]
        exact step.later order
      · rw [done]
        refine covered_of_perform (step.later order) covers fun most ttl same => ?_
        subst same
        obtain ⟨acting, operation, request, owner, _, rfl⟩ := allowed
        simpa [request, Request.principal, ← owner] using called
    | sessions | owners | records | prepared | objects | adapter | host =>
      rw [(handle_framed handled).store (by simp)]
      exact step

/-- In a run over an empty store whose clock does not go back, in which a permit for the principal's
sessions is taken only while each of its unexpired sessions names a permit that is held, and a
session is written only under a permit that is held or named by the session it replaces and by no
other one, the unexpired shared sessions of the principal stay within its limit. -/
theorem cluster_session_quota (gateways : Nat → Gateway) (store : S) (schedule : Schedule)
    (principal : String) (limit : Nat) (rows : QuotaStore.rows store = ∅)
    (permits : QuotaStore.permits store = ∅)
    (met : RunMeets gateways (PermitsCover principal limit · · ·) store schedule) :
    ∀ now, storeClock (gatewayRun gateways store schedule).past ≤ now →
      sharedSessions now principal (gatewayRun gateways store schedule).world.store ≤ limit := by
  intro now order
  have start : Covered limit 0 principal store := by
    have keys : sessionKeys 0 principal store = ∅ := by
      rw [sessionKeys, rows]
      rfl
    have held : heldPermits 0 principal store = ∅ := by
      rw [heldPermits, permits]
      rfl
    exact ⟨by simp [keys], by simp [sessionClaims, keys, held]⟩
  have history := Machine.run_history (admission_obeys gateways) schedule met
  exact ((sessions_covered start history).later order).sessions

end

namespace Sample

/-- A shared session at the first node, which is changed a second later. -/
def extendedSession : Schedule :=
  arrivesAt 0 (.createSessionClustered "demo" ∅) ++ steps 0 15 reading ++
    arrivesAt 0 (.updateSessionClustered "qcli_20260101_0000_01" 1 ∅) ++
    steps 1 9 { reading with now := 1000 }

/-- The date has no underscore. -/
theorem later_plain : '_' ∉ "20260101".toList := by decide

/-- The time has four digits. -/
theorem later_width : "0030".toList.length = 4 := by decide

/-- Half an hour later. -/
def later : Reading :=
  { reading with
    now := 1800500
    minute := ⟨"20260101".toList, "0030".toList, later_plain, later_width⟩
    uuid := "2" }

/-- A shared session at the second node. -/
def secondSession (thread : Nat) : Schedule :=
  arrivesAt 1 (.createSessionClustered "demo" ∅) ++ steps thread 15 later

end Sample

set_option maxRecDepth 20000 in
/-- A session that is closed before the next one is created meets the condition of
`cluster_session_quota`. -/
theorem closed_session_meets :
    let pool := gatewayRun Sample.pair (.empty : MemoryState Payload) (Sample.extendedSession ++
      Sample.arrivesAt 0 (.closeSessionClustered "qcli_20260101_0000_01") ++
      Sample.steps 2 12 { Sample.reading with now := 2000 } ++ Sample.secondSession 3)
    sharedSessions 1800500 "alice" pool.world.store = 1 ∧
      ∀ now, storeClock pool.past ≤ now → sharedSessions now "alice" pool.world.store ≤ 1 :=
  ⟨by decide +kernel,
    cluster_session_quota _ _ _ "alice" 1 rfl rfl (by decide +kernel)⟩

set_option maxRecDepth 20000 in
/-- A session whose permit has expired while its record was extended no longer counts: another one
is created beside it. -/
theorem extended_session_exceeds_quota :
    let pool := gatewayRun Sample.pair (.empty : MemoryState Payload) (Sample.extendedSession ++
      Sample.secondSession 2)
    storeClock pool.past = 1800500 ∧
      Sample.limited.maxSessions < sharedSessions 1800500 Sample.limited.id pool.world.store := by
  decide +kernel

end ConfluxQuery
