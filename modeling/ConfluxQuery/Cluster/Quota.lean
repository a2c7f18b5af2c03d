import ConfluxQuery.Cluster.Memory
import ConfluxQuery.Cluster.Postgres

/-!
# Distributed quotas

Permits that are taken and given up by any number of callers on one clock. The in-memory store drops
expired permits, counts and inserts under one lock. The PostgreSQL store does the same in one
statement, all of whose parts read the snapshot taken when the statement starts: the count sees the
permits the statement itself deletes, and it does not see those that other statements commit while
it waits for the advisory lock. Here such a statement is two steps, its start and its end.
-/

namespace ConfluxQuery

/-- A permit counts against a quota of a principal. -/
def QuotaPermit.countsFor (principal quota : String) (held : QuotaPermit) : Bool :=
  held.principalId == principal && held.quota == quota

/-- Number of permits of a quota that are neither given up nor expired. -/
def livePermits (now : Nat) (principal quota : String) (permits : Registry String QuotaPermit) :
    Nat :=
  Registry.count (fun _ held => held.countsFor principal quota && decide (now < held.expiresAt))
    permits

/-- Fewer permits are live later on. -/
theorem livePermits_later {now later : Nat} (order : now ≤ later) (principal quota : String)
    (permits : Registry String QuotaPermit) :
    livePermits later principal quota permits ≤ livePermits now principal quota permits := by
  refine Registry.count_le_count permits fun _ held live => ?_
  simp only [Bool.and_eq_true, decide_eq_true_eq] at live ⊢
  exact ⟨live.1, by omega⟩

/-- Dropping expired permits and counting the rest counts the live ones. -/
theorem count_unexpired (now : Nat) (principal quota : String)
    (permits : Registry String QuotaPermit) :
    Registry.count (fun _ held => held.principalId == principal && held.quota == quota)
        (Registry.retain (fun _ held => decide (now < held.expiresAt)) permits) =
      livePermits now principal quota permits := by
  rw [Registry.count_retain]
  rfl

theorem livePermits_unexpired (now : Nat) (principal quota : String)
    (permits : Registry String QuotaPermit) :
    livePermits now principal quota
        (Registry.retain (fun _ held => decide (now < held.expiresAt)) permits) =
      livePermits now principal quota permits := by
  rw [livePermits, Registry.count_retain]
  simp only [livePermits, Bool.and_assoc, Bool.and_self]

/-- From a time on, every quota of every principal is within its limit. -/
def WithinLimits (limits : String → String → Nat) (clock : Nat)
    (permits : Registry String QuotaPermit) : Prop :=
  ∀ now, clock ≤ now → ∀ principal quota,
    livePermits now principal quota permits ≤ limits principal quota

namespace WithinLimits

variable {limits : String → String → Nat} {clock : Nat} {permits : Registry String QuotaPermit}

/-- Limits that are kept stay kept while the clock advances. -/
theorem later (within : WithinLimits limits clock permits) {now : Nat} (order : clock ≤ now) :
    WithinLimits limits now permits := fun time after principal quota =>
  within time (Nat.le_trans order after) principal quota

/-- Dropping permits keeps the limits. -/
theorem retain (within : WithinLimits limits clock permits) (keep : String → QuotaPermit → Bool) :
    WithinLimits limits clock (Registry.retain keep permits) := by
  intro now after principal quota
  refine Nat.le_trans ?_ (within now after principal quota)
  rw [livePermits, Registry.count_retain]
  exact Registry.count_le_count permits fun _ held both => (Bool.and_eq_true _ _ ▸ both).1

/-- Giving a permit up keeps the limits. -/
theorem erase (within : WithinLimits limits clock permits) (permit : String) :
    WithinLimits limits clock (permits.erase permit) := fun now after principal quota =>
  Nat.le_trans (Registry.count_erase_le _ permits permit) (within now after principal quota)

/-- One more permit keeps the limits when its quota has room. -/
theorem insert (within : WithinLimits limits clock permits) {principal quota : String}
    (room : livePermits clock principal quota permits < limits principal quota) (permit : String)
    (expiresAt : Nat) :
    WithinLimits limits clock (permits.insert permit ⟨principal, quota, expiresAt⟩) := by
  intro now after other name
  by_cases same : other = principal ∧ name = quota
  · obtain ⟨rfl, rfl⟩ := same
    have added := Registry.count_insert_le
      (fun _ held => QuotaPermit.countsFor other name held && decide (now < held.expiresAt))
      permits permit ⟨other, name, expiresAt⟩
    have fewer := livePermits_later after other name permits
    simp only [livePermits] at added fewer room ⊢
    omega
  · refine Nat.le_trans (Registry.count_insert_of_not _ permits ?_) (within now after other name)
    have apart : QuotaPermit.countsFor other name ⟨principal, quota, expiresAt⟩ = false := by
      simp only [QuotaPermit.countsFor, Bool.and_eq_false_iff, beq_eq_false_iff_ne, ne_eq]
      tauto
    simp [apart]

end WithinLimits

/-- What an acquisition from the in-memory store can do: it drops the expired permits and is
refused, or it adds the permit where its quota has room and its deadline is a date. -/
theorem memory_acquire_cases {ν : Type} (now : Nat) (permit principal quota : String)
    (limit ttl : Nat) (state : MemoryState ν) :
    let unexpired := Registry.retain (fun _ held => decide (now < held.expiresAt)) state.permits
    (∃ error, ¬(livePermits now principal quota state.permits < limit ∧
        (deadline now ttl).isSome = true) ∧
      state.acquireQuota now permit principal quota limit ttl =
        (.error error, { state with permits := unexpired })) ∨
    ∃ expiry, livePermits now principal quota state.permits < limit ∧
      deadline now ttl = some expiry ∧
      state.acquireQuota now permit principal quota limit ttl = (.ok permit, { state with
        permits := unexpired.insert permit ⟨principal, quota, expiry⟩ }) := by
  simp only [MemoryState.acquireQuota, count_unexpired]
  split
  · next full => exact .inl ⟨_, fun both => absurd both.1 (Nat.not_lt.mpr full), rfl⟩
  · next room =>
    cases deadline now ttl with
    | none => exact .inl ⟨_, by simp, rfl⟩
    | some expiry => exact .inr ⟨expiry, Nat.lt_of_not_le room, rfl, rfl⟩

/-- The in-memory store grants a permit exactly when its quota has room and its deadline is a
date. -/
theorem memory_acquire_iff {ν : Type} (now : Nat) (permit principal quota : String)
    (limit ttl : Nat) (state : MemoryState ν) :
    (state.acquireQuota now permit principal quota limit ttl).1.isOk = true ↔
      livePermits now principal quota state.permits < limit ∧
        (deadline now ttl).isSome = true := by
  rcases memory_acquire_cases now permit principal quota limit ttl state with
    ⟨error, barred, refused⟩ | ⟨expiry, room, timed, granted⟩
  · exact iff_of_false (by simp [refused, Except.isOk, Except.toBool]) barred
  · exact iff_of_true (by rw [granted]; rfl) ⟨room, Option.isSome_of_eq_some timed⟩

/-- A grant of the in-memory store keeps every quota within its limit. -/
theorem memory_acquire_within {ν : Type} {limits : String → String → Nat} {now : Nat}
    {state : MemoryState ν} (within : WithinLimits limits now state.permits)
    (permit principal quota : String) (ttl : Nat) :
    WithinLimits limits now
      (state.acquireQuota now permit principal quota (limits principal quota) ttl).2.permits := by
  have kept := within.retain fun _ held => decide (now < held.expiresAt)
  rcases memory_acquire_cases now permit principal quota (limits principal quota) ttl state with
    ⟨error, _, refused⟩ | ⟨expiry, room, _, granted⟩
  · rw [refused]
    exact kept
  · rw [granted]
    exact kept.insert (by rw [livePermits_unexpired]; exact room) permit expiry

/-- The states the in-memory store reaches, with the clock, while every caller presents the limit of
its principal and quota and every deadline is a date. -/
inductive MemoryQuotas {ν : Type} (limits : String → String → Nat) : Nat → MemoryState ν → Prop
  | initial : MemoryQuotas limits 0 .empty
  | acquire {clock : Nat} {state : MemoryState ν} (reached : MemoryQuotas limits clock state)
      (now : Nat) (order : clock ≤ now) (permit principal quota : String) (ttl : Nat)
      (dated : (deadline now ttl).isSome = true) :
      MemoryQuotas limits now
        (state.acquireQuota now permit principal quota (limits principal quota) ttl).2
  | release {clock : Nat} {state : MemoryState ν} (reached : MemoryQuotas limits clock state)
      (permit : String) : MemoryQuotas limits clock (state.releaseQuota permit).2

/-- The in-memory store keeps every quota within its limit. -/
theorem MemoryQuotas.within {ν : Type} {limits : String → String → Nat} {clock : Nat}
    {state : MemoryState ν} (reached : MemoryQuotas limits clock state) :
    WithinLimits limits clock state.permits := by
  induction reached with
  | initial => exact fun _ _ _ _ => Nat.zero_le _
  | acquire _ now order permit principal quota ttl _ step =>
    exact memory_acquire_within (step.later order) permit principal quota ttl
  | release _ permit step => exact step.erase permit

/-- An acquisition the PostgreSQL store has started. -/
structure AcquireStatement where
  permit : String
  principalId : String
  quota : String
  limit : Nat
  /-- How long the permit lasts. -/
  ttl : Nat
  /-- Table `qcli_quota_permits` as it was when the statement started. -/
  snapshot : Registry String QuotaPermit

namespace AcquireStatement

variable {ν : Type}

/-- Check the parameters, then start the statement, which takes its snapshot. -/
def start (permit principalId quota : String) (limit ttl : Nat) (state : PostgresState ν) :
    Except ClusterError AcquireStatement :=
  if !fitsBigint ttl then .error invalidTtl
  else if !fitsBigint limit then .error ⟨"invalid_quota", "quota limit is too large"⟩
  else .ok ⟨permit, principalId, quota, limit, ttl, state.permits⟩

/-- End the statement: delete the expired permits of the snapshot, count those of the principal in
the snapshot, and insert one more when there is room. -/
def finish (now : Nat) (statement : AcquireStatement) (state : PostgresState ν) :
    Except ClusterError String × PostgresState ν :=
  let used := Registry.count
    (fun _ held => held.principalId == statement.principalId && held.quota == statement.quota)
    statement.snapshot
  let cleaned := Registry.retain
    (fun permit held =>
      decide (now < held.expiresAt) || (statement.snapshot.lookup permit).isNone) state.permits
  if used < statement.limit then
    match expiryTimestamp now statement.ttl with
    | none => (.error timestampOutOfRange, state)
    | some expiry =>
      (.ok statement.permit, { state with
        permits := cleaned.insert statement.permit
          ⟨statement.principalId, statement.quota, expiry⟩ })
  else
    (.error ⟨"quota_exhausted", "distributed quota exhausted"⟩, { state with permits := cleaned })

/-- A statement starts exactly when its limit and its duration fit the table's columns. -/
theorem start_iff (permit principalId quota : String) (limit ttl : Nat)
    (state : PostgresState ν) :
    (start permit principalId quota limit ttl state).isOk = true ↔
      fitsBigint ttl = true ∧ fitsBigint limit = true := by
  unfold start
  cases fitsBigint ttl <;> cases fitsBigint limit <;> simp [Except.isOk, Except.toBool]

/-- When a statement ends, the permits of its quota are those of its snapshot, and none of them has
expired. -/
structure Current (now : Nat) (statement : AcquireStatement) (state : PostgresState ν) : Prop where
  /-- No permit of the quota was taken or given up since the statement started. -/
  unchanged : ∀ permit held, held.countsFor statement.principalId statement.quota = true →
    (state.permits.lookup permit = some held ↔ statement.snapshot.lookup permit = some held)
  /-- No permit of the quota in the snapshot has expired. -/
  unexpired : ∀ permit held, statement.snapshot.lookup permit = some held →
    held.countsFor statement.principalId statement.quota = true → now < held.expiresAt

theorem Current.count {now : Nat} {statement : AcquireStatement} {state : PostgresState ν}
    (current : statement.Current now state) :
    Registry.count (fun _ held => held.principalId == statement.principalId &&
        held.quota == statement.quota) statement.snapshot =
      livePermits now statement.principalId statement.quota state.permits := by
  have live : livePermits now statement.principalId statement.quota state.permits =
      livePermits now statement.principalId statement.quota statement.snapshot :=
    Registry.count_congr fun permit held both =>
      current.unchanged permit held (Bool.and_eq_true _ _ ▸ both).1
  rw [live]
  refine Registry.count_congr_test statement.snapshot fun permit held present => ?_
  simp only [Bool.and_eq_true, decide_eq_true_eq]
  refine ⟨fun counts => ⟨by simpa [QuotaPermit.countsFor] using counts, ?_⟩, fun both => ?_⟩
  · exact current.unexpired permit held present (by simpa [QuotaPermit.countsFor] using counts)
  · simpa [QuotaPermit.countsFor] using both.1

/-- A current statement is granted exactly when its quota has room and its permit can expire at a
timestamp. -/
theorem Current.finish_iff {now : Nat} {statement : AcquireStatement} {state : PostgresState ν}
    (current : statement.Current now state) :
    (statement.finish now state).1.isOk = true ↔
      livePermits now statement.principalId statement.quota state.permits < statement.limit ∧
        (expiryTimestamp now statement.ttl).isSome = true := by
  simp only [finish, current.count]
  split
  · next room =>
    cases expiryTimestamp now statement.ttl with
    | none => exact iff_of_false (by simp [Except.isOk, Except.toBool]) (by simp)
    | some expiry => exact iff_of_true rfl ⟨room, rfl⟩
  · next full =>
    exact iff_of_false (by simp [Except.isOk, Except.toBool]) fun both => full both.1

/-- A current statement keeps every quota within its limit. -/
theorem Current.finish_within {now : Nat} {statement : AcquireStatement} {state : PostgresState ν}
    (current : statement.Current now state) {limits : String → String → Nat}
    (limited : statement.limit = limits statement.principalId statement.quota)
    (within : WithinLimits limits now state.permits) :
    WithinLimits limits now (statement.finish now state).2.permits := by
  have kept := within.retain fun permit held =>
    decide (now < held.expiresAt) || (statement.snapshot.lookup permit).isNone
  simp only [finish, current.count]
  split
  · next room =>
    split
    · exact within
    · refine kept.insert (Nat.lt_of_le_of_lt ?_ (limited ▸ room)) _ _
      rw [livePermits, Registry.count_retain]
      exact Registry.count_le_count _ fun _ held both => (Bool.and_eq_true _ _ ▸ both).1
  · exact kept

end AcquireStatement

/-- The states the PostgreSQL store reaches, with the clock and the statements in progress, while
every caller presents the limit of its principal and quota and every statement meets a condition
when it ends. -/
inductive PostgresQuotas {ν : Type} (limits : String → String → Nat)
    (condition : Nat → AcquireStatement → PostgresState ν → Prop) :
    Nat → List AcquireStatement → PostgresState ν → Prop
  | initial : PostgresQuotas limits condition 0 [] .empty
  | start {clock : Nat} {pending : List AcquireStatement} {state : PostgresState ν}
      (reached : PostgresQuotas limits condition clock pending state)
      (permit principal quota : String) (ttl : Nat) (statement : AcquireStatement)
      (started : AcquireStatement.start permit principal quota (limits principal quota) ttl state =
        .ok statement) :
      PostgresQuotas limits condition clock (statement :: pending) state
  | finish {clock : Nat} {before after : List AcquireStatement} {state : PostgresState ν}
      {statement : AcquireStatement}
      (reached : PostgresQuotas limits condition clock (before ++ statement :: after) state)
      (now : Nat) (order : clock ≤ now) (met : condition now statement state) :
      PostgresQuotas limits condition now (before ++ after) (statement.finish now state).2
  | release {clock : Nat} {pending : List AcquireStatement} {state : PostgresState ν}
      (reached : PostgresQuotas limits condition clock pending state) (permit : String) :
      PostgresQuotas limits condition clock pending (state.releaseQuota permit).2

/-- Statements in progress carry the limit of their principal and quota. -/
theorem PostgresQuotas.limited {ν : Type} {limits : String → String → Nat}
    {condition : Nat → AcquireStatement → PostgresState ν → Prop} {clock : Nat}
    {pending : List AcquireStatement} {state : PostgresState ν}
    (reached : PostgresQuotas limits condition clock pending state) {statement : AcquireStatement}
    (member : statement ∈ pending) :
    statement.limit = limits statement.principalId statement.quota := by
  induction reached with
  | initial => exact absurd member List.not_mem_nil
  | start _ permit principal quota ttl begun started step =>
    rcases List.mem_cons.mp member with newest | earlier
    · subst newest
      unfold AcquireStatement.start at started
      split at started
      · cases started
      · split at started
        · cases started
        · cases started
          rfl
    · exact step earlier
  | finish _ now _ _ step =>
    refine step ?_
    simp only [List.mem_append, List.mem_cons] at member ⊢
    tauto
  | release _ permit step => exact step member

/-- The PostgreSQL store keeps every quota within its limit while its statements are current. -/
theorem PostgresQuotas.within {ν : Type} {limits : String → String → Nat} {clock : Nat}
    {pending : List AcquireStatement} {state : PostgresState ν}
    (reached : PostgresQuotas limits (fun now statement state => statement.Current now state) clock
      pending state) : WithinLimits limits clock state.permits := by
  induction reached with
  | initial => exact fun _ _ _ _ => Nat.zero_le _
  | start _ _ _ _ _ _ _ step => exact step
  | finish reached now order current step =>
    exact current.finish_within (reached.limited (by simp)) (step.later order)
  | release _ permit step => exact step.erase permit

/-- The quota law on both stores. While deadlines are dates, the in-memory store grants a permit
exactly when its quota has room, so no quota exceeds its limit. The PostgreSQL store starts exactly
the statements whose limit and duration fit its columns; in every run whose statements are current
when they end, it grants a permit that can expire at a timestamp exactly when its quota has room,
and no quota exceeds its limit. -/
theorem quota_law (ν : Type) (limits : String → String → Nat) :
    (∀ clock (state : MemoryState ν), MemoryQuotas limits clock state →
      (∀ now permit principal quota ttl, (deadline now ttl).isSome = true →
        ((state.acquireQuota now permit principal quota (limits principal quota) ttl).1.isOk =
          true ↔
          livePermits now principal quota state.permits < limits principal quota)) ∧
      WithinLimits limits clock state.permits) ∧
    (∀ permit principal quota ttl (state : PostgresState ν),
      (AcquireStatement.start permit principal quota (limits principal quota) ttl state).isOk =
          true ↔
        fitsBigint ttl = true ∧ fitsBigint (limits principal quota) = true) ∧
    ∀ clock pending (state : PostgresState ν),
      PostgresQuotas limits (fun now statement state => statement.Current now state) clock pending
        state →
      (∀ statement ∈ pending, ∀ now, clock ≤ now → statement.Current now state →
        (expiryTimestamp now statement.ttl).isSome = true →
        ((statement.finish now state).1.isOk = true ↔
          livePermits now statement.principalId statement.quota state.permits <
            limits statement.principalId statement.quota)) ∧
      WithinLimits limits clock state.permits := by
  refine ⟨fun clock state reached => ⟨?_, reached.within⟩, ?_, fun clock pending state reached =>
    ⟨?_, reached.within⟩⟩
  · intro now permit principal quota ttl dated
    rw [memory_acquire_iff, and_iff_left dated]
  · exact fun permit principal quota ttl => AcquireStatement.start_iff permit principal quota _ ttl
  · intro statement member now _ current timed
    rw [current.finish_iff, reached.limited member, and_iff_left timed]

/-- On the PostgreSQL store an expired permit blocks an acquisition, though no permit is live; and
two statements that start before either ends are both granted under a limit of one. -/
theorem snapshot_count_misjudges_quota :
    let store : PostgresState Unit := PostgresState.empty
    let expired := (store.acquireQuota 0 "first" "alice" "sessions" 1 1).2
    let statement (permit : String) : AcquireStatement := ⟨permit, "alice", "sessions", 1, 9, ∅⟩
    let one := ((statement "first").finish 0 store)
    let both := ((statement "second").finish 0 one.2)
    livePermits 10 "alice" "sessions" expired.permits = 0 ∧
      (expired.acquireQuota 10 "second" "alice" "sessions" 1 1).1.isOk = false ∧
      (∀ permit, AcquireStatement.start permit "alice" "sessions" 1 9 store =
        .ok (statement permit)) ∧
      one.1.isOk = true ∧ both.1.isOk = true ∧
      livePermits 1 "alice" "sessions" both.2.permits = 2 := by
  refine ⟨by decide, by decide, fun permit => ?_, by decide, by decide, by decide⟩
  simp [AcquireStatement.start, fitsBigint, PostgresState.empty]

open ClusterStateStore in
/-- A store that grants a permit in one step, and only while its quota has room. -/
class QuotaStore (S : Type) {ν : outParam Type} [ClusterStateStore S ν] [LawfulStore S] where
  rows : S → Registry (String × String) (SharedResource ν)
  permits : S → Registry String QuotaPermit
  /-- The rows are those of the store. -/
  rows_lookup : ∀ store kind id, (rows store).lookup (kind, id) = LawfulStore.row store kind id
  /-- A permit that is there after an acquisition was there before, or it was granted while its
  quota had room. -/
  acquire_granted : ∀ {now permit principal quota limit ttl store name held},
    (permits (acquireQuota now permit principal quota limit ttl store).2).lookup name = some held →
    (permits store).lookup name = some held ∨
      name = permit ∧ held.principalId = principal ∧ held.quota = quota ∧
        livePermits now principal quota (permits store) < limit ∧
        (acquireQuota now permit principal quota limit ttl store).1 = .ok permit
  /-- A granted permit has the identifier that was drawn for it. -/
  acquire_named : ∀ {now permit principal quota limit ttl name} {store : S},
    (acquireQuota now permit principal quota limit ttl store).1 = .ok name → name = permit
  /-- Giving a permit up adds none. -/
  release_kept : ∀ {permit store name held},
    (permits (releaseQuota permit store).2).lookup name = some held →
    (permits store).lookup name = some held
  /-- A permit that is given up is gone. -/
  release_gone : ∀ permit store, (permits (releaseQuota permit store).2).lookup permit = none
  /-- Writes leave permits alone. -/
  put_permits : ∀ now resource expected store,
    permits (putResource now resource expected store).2 = permits store
  /-- Deletions leave permits alone. -/
  delete_permits : ∀ kind id principal store,
    permits (deleteResource kind id principal store).2 = permits store
  /-- Claims leave permits alone. -/
  claim_permits : ∀ now query principal node ttl store,
    permits (claimQuery now query principal node ttl store).2 = permits store
  /-- Renewals leave permits alone. -/
  renew_permits : ∀ now lease ttl store, permits (renewQuery now lease ttl store).2 = permits store
  /-- Leases that are given up leave permits alone. -/
  yield_permits : ∀ lease store, permits (releaseQuery lease store).2 = permits store

instance {ν : Type} : QuotaStore (MemoryState ν) where
  rows store := store.resources
  permits store := store.permits
  rows_lookup _ _ _ := rfl
  acquire_granted {now permit principal quota limit ttl store name held} present := by
    change (MemoryState.acquireQuota now permit principal quota limit ttl store).2.permits.lookup
      name = some held at present
    change _ ∨ _ ∧ _ ∧ _ ∧ _ ∧
      (MemoryState.acquireQuota now permit principal quota limit ttl store).1 = _
    have older : (Registry.retain (fun _ held => decide (now < held.expiresAt))
        store.permits).lookup name = some held → store.permits.lookup name = some held := by
      intro kept
      rw [Registry.lookup_retain] at kept
      exact (Option.filter_eq_some_iff.mp kept).1
    rcases memory_acquire_cases now permit principal quota limit ttl store with
      ⟨error, _, refused⟩ | ⟨expiry, room, _, granted⟩
    · rw [refused] at present
      exact .inl (older present)
    · rw [granted] at present ⊢
      rw [Registry.lookup_insert_ite] at present
      split at present
      · next same =>
        cases present
        exact .inr ⟨same, rfl, rfl, room, rfl⟩
      · exact .inl (older present)
  acquire_named {now permit principal quota limit ttl name store} replied := by
    change (MemoryState.acquireQuota now permit principal quota limit ttl store).1 = .ok name
      at replied
    rcases memory_acquire_cases now permit principal quota limit ttl store with
      ⟨error, _, refused⟩ | ⟨expiry, _, _, granted⟩
    · rw [refused] at replied
      cases replied
    · rw [granted] at replied
      cases replied
      rfl
  release_kept {permit store name held} present := by
    change (store.permits.erase permit).lookup name = some held at present
    rw [Registry.lookup_erase_ite] at present
    split at present
    · cases present
    · exact present
  release_gone permit store := AList.lookup_erase permit store.permits
  put_permits now resource expected store := by
    change (MemoryState.putResource resource expected store).2.permits = store.permits
    rcases MemoryState.putResource_cases resource expected store with ⟨error, refused⟩ |
      ⟨accepted, _⟩
    · rw [refused]
    · rw [accepted]
  delete_permits kind id principal store := by
    change (MemoryState.deleteResource kind id principal store).2.permits = store.permits
    unfold MemoryState.deleteResource
    dsimp only
    split <;> rfl
  claim_permits now query principal node ttl store := by
    change (MemoryState.claimQuery now query principal node ttl store).2.permits = store.permits
    rcases MemoryState.claimQuery_cases now query principal node ttl store with
      ⟨error, refused⟩ | ⟨expiry, _, issued⟩
    · rw [refused]
    · rw [issued]
  renew_permits now lease ttl store := by
    change (MemoryState.renewQuery now lease ttl store).2.permits = store.permits
    rcases MemoryState.renewQuery_cases now lease ttl store with
      ⟨error, refused⟩ | ⟨held, expiry, _, _, _, extended⟩
    · rw [refused]
    · rw [extended]
  yield_permits lease store := by
    change (MemoryState.releaseQuery lease store).2.permits = store.permits
    unfold MemoryState.releaseQuery
    split <;> rfl

end ConfluxQuery
