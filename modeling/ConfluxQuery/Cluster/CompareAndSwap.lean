import ConfluxQuery.Cluster.Memory
import ConfluxQuery.Cluster.Postgres

/-!
# Conditional writes

A write that presents a version, on both stores. The in-memory store compares it with the stored
version, zero standing for an absent row. The upsert of the PostgreSQL store compares it in its
conflict branch alone, so over an absent row it stores version one whatever was presented.
-/

namespace ConfluxQuery

open ClusterStateStore

section

variable {S ν : Type} [ClusterStateStore S ν] [LawfulStore S]

/-- The law of one conditional write: it succeeds exactly over a row of no other principal whose
version is the one presented, stores the resource under the next version, and changes nothing when
it fails. -/
structure CasLaw (now : Nat) (resource : SharedResource ν) (version : Nat) (store : S) : Prop where
  succeeds : (putResource now resource (some version) store).1.isOk = true ↔
    (∀ held, LawfulStore.row store resource.kind resource.resourceId = some held →
      held.principalId = resource.principalId) ∧
    storedVersion (LawfulStore.row store resource.kind resource.resourceId) = version
  /-- What a write that succeeds stores. -/
  stores : ∀ {stored : SharedResource ν} {after : S},
    putResource now resource (some version) store = (.ok stored, after) →
      stored = { resource with version := version + 1 } ∧
        LawfulStore.row after resource.kind resource.resourceId = some stored
  /-- A write that fails changes nothing. -/
  keeps : ∀ {error : ClusterError} {after : S},
    putResource now resource (some version) store = (.error error, after) → after = store

/-- Calls that change resources. -/
inductive ResourceCall (ν : Type)
  | put (resource : SharedResource ν) (expectedVersion : Option Nat)
  | delete (kind resourceId principalId : String)

/-- What a call that changes resources answers. -/
inductive ResourceAnswer (ν : Type)
  | stored (resource : SharedResource ν)
  | deleted (removed : Bool)

/-- Perform a call that changes resources. -/
def ResourceCall.perform (now : Nat) (store : S) :
    ResourceCall ν → Except ClusterError (ResourceAnswer ν) × S
  | put resource expected =>
    Prod.map (Except.map .stored) id (putResource now resource expected store)
  | delete kind resourceId principal =>
    Prod.map (Except.map .deleted) id (deleteResource kind resourceId principal store)

/-- A call that changes resources, with its reply. -/
structure ResourceEvent (ν : Type) where
  call : ResourceCall ν
  reply : Except ClusterError (ResourceAnswer ν)

/-- The call wrote a resource over a version it presented. -/
def ResourceEvent.Wrote (event : ResourceEvent ν) (kind id : String) (version : Nat) : Prop :=
  ∃ resource stored, event.call = .put resource (some version) ∧ resource.kind = kind ∧
    resource.resourceId = id ∧ event.reply = .ok stored

/-- The call asks to delete a resource. -/
def ResourceEvent.Deletes (event : ResourceEvent ν) (kind id : String) : Prop :=
  ∃ principal, event.call = .delete kind id principal

/-- Runs of calls that change resources from a store, the newest first, each allowed by a condition
on the store before it. -/
inductive ResourceRun (allowed : S → ResourceCall ν → Prop) (start : S) :
    List (ResourceEvent ν) → S → Prop
  | idle : ResourceRun allowed start [] start
  | next {events : List (ResourceEvent ν)} {store : S} (now : Nat) (call : ResourceCall ν)
      (run : ResourceRun allowed start events store) (met : allowed store call) :
      ResourceRun allowed start (⟨call, (call.perform now store).1⟩ :: events)
        (call.perform now store).2

/-- Of the writes of one key that present one version, with no delete between them, one succeeds at
most. -/
def WritesOnce (events : List (ResourceEvent ν)) : Prop :=
  ∀ kind id version, (∀ event ∈ events, ¬event.Deletes kind id) →
    ∀ first second, [second, first].Sublist events →
      ¬(first.Wrote kind id version ∧ second.Wrote kind id version)

theorem ResourceCall.version_le (now : Nat) (store : S) (call : ResourceCall ν) {kind id : String}
    (kept : ∀ principal, call ≠ .delete kind id principal) :
    storedVersion (LawfulStore.row store kind id) ≤
      storedVersion (LawfulStore.row (call.perform now store).2 kind id) := by
  cases call with
  | put resource expected =>
    simp only [ResourceCall.perform]
    rcases replied : putResource now resource expected store with ⟨error | stored, after⟩
    · exact Nat.le_of_eq (by rw [← (LawfulStore.put_error replied).1]; rfl)
    · obtain ⟨named, rows, _, _⟩ := LawfulStore.put_ok replied
      show _ ≤ storedVersion (LawfulStore.row after kind id)
      rw [rows kind id]
      split
      · next same =>
        obtain ⟨rfl, rfl⟩ := same
        rw [named]
        exact Nat.le_succ _
      · exact Nat.le_refl _
  | delete other name principal =>
    have elsewhere : ¬(kind = other ∧ id = name) := by
      rintro ⟨rfl, rfl⟩
      exact kept principal rfl
    simp only [ResourceCall.perform]
    rcases replied : deleteResource other name principal store with ⟨error | removed, after⟩
    · exact Nat.le_of_eq (by rw [← (LawfulStore.delete_error replied).1]; rfl)
    · obtain ⟨_, _, _, others, _⟩ := LawfulStore.delete_ok replied
      exact Nat.le_of_eq (by rw [← others kind id elsewhere]; rfl)

/-- Writes compare the version they present. -/
def Compares (allowed : S → ResourceCall ν → Prop) : Prop :=
  ∀ {now : Nat} {resource stored : SharedResource ν} {version : Nat} {store after : S},
    allowed store (.put resource (some version)) →
      putResource now resource (some version) store = (.ok stored, after) →
        storedVersion (LawfulStore.row store resource.kind resource.resourceId) = version

variable {allowed : S → ResourceCall ν → Prop}

/-- A write that compares its version is made over that version and leaves the next one. -/
theorem ResourceCall.wrote_version (compares : Compares allowed) {now : Nat} {store : S}
    {call : ResourceCall ν} (met : allowed store call) {kind id : String} {version : Nat}
    (wrote : ResourceEvent.Wrote ⟨call, (call.perform now store).1⟩ kind id version) :
    storedVersion (LawfulStore.row store kind id) = version ∧
      storedVersion (LawfulStore.row (call.perform now store).2 kind id) = version + 1 := by
  obtain ⟨resource, answer, called, rfl, rfl, replied⟩ := wrote
  simp only at called
  subst called
  simp only [ResourceCall.perform] at replied ⊢
  rcases written : putResource now resource (some version) store with ⟨error | stored, after⟩
  · rw [written] at replied
    cases replied
  · have current := compares met written
    obtain ⟨named, rows, _, _⟩ := LawfulStore.put_ok written
    have held : LawfulStore.row after resource.kind resource.resourceId = some stored := by
      simpa using rows resource.kind resource.resourceId
    refine ⟨current, ?_⟩
    show storedVersion (LawfulStore.row after resource.kind resource.resourceId) = version + 1
    rw [held, named, ← current]
    rfl

/-- Once a version was written over, and nothing deleted since, the stored version is above it. -/
theorem ResourceRun.version_lt (compares : Compares allowed) {start store : S}
    {events : List (ResourceEvent ν)} (run : ResourceRun allowed start events store)
    {kind id : String} {version : Nat} (kept : ∀ event ∈ events, ¬event.Deletes kind id)
    {event : ResourceEvent ν} (member : event ∈ events) (wrote : event.Wrote kind id version) :
    version < storedVersion (LawfulStore.row store kind id) := by
  induction run with
  | idle => exact absurd member List.not_mem_nil
  | @next events before now call run met step =>
    rcases List.mem_cons.mp member with newest | earlier
    · subst newest
      rw [(ResourceCall.wrote_version compares met wrote).2]
      exact Nat.lt_succ_self version
    · have above := step (fun event member => kept event (List.mem_cons_of_mem _ member)) earlier
      have grown := call.version_le now before fun principal same =>
        kept _ List.mem_cons_self ⟨principal, same⟩
      omega

/-- When writes compare the versions they present, one of each succeeds at most. -/
theorem ResourceRun.writesOnce (compares : Compares allowed) {start store : S}
    {events : List (ResourceEvent ν)} (run : ResourceRun allowed start events store) :
    WritesOnce events := by
  intro kind id version kept first second ordered ⟨wrote, again⟩
  induction run with
  | idle => cases ordered
  | @next events before now call run met step =>
    have older : ∀ event ∈ events, ¬event.Deletes kind id := fun event member =>
      kept event (List.mem_cons_of_mem _ member)
    cases ordered with
    | cons _ rest => exact step older rest
    | cons_cons _ rest =>
      have above := run.version_lt compares older (List.singleton_sublist.mp rest) wrote
      have current := (ResourceCall.wrote_version compares met again).1
      omega

end

/-- The in-memory store compares every version presented. -/
theorem memory_compares {ν : Type} :
    Compares (S := MemoryState ν) fun _ _ => True := by
  intro now resource stored version store after _ written
  cases present : LawfulStore.row store resource.kind resource.resourceId with
  | none => exact (CompareAndSwapStore.put_absent written present).symm
  | some held =>
    exact ((LawfulStore.put_ok written).2.2.1 held present).2 version rfl |>.symm

/-- The in-memory store keeps the law of conditional writes. -/
theorem memory_casLaw {ν : Type} (now : Nat) (resource : SharedResource ν) (version : Nat)
    (store : MemoryState ν) : CasLaw now resource version store := by
  have cases := MemoryState.putResource_cases resource (some version) store
  refine ⟨?_, fun written => ?_, fun refused => ?_⟩
  · show (MemoryState.putResource resource (some version) store).1.isOk = true ↔ _
    constructor
    · intro succeeded
      rcases cases with ⟨error, refused⟩ | ⟨_, owner, agrees⟩
      · rw [refused] at succeeded
        cases succeeded
      · exact ⟨owner, (agrees version rfl).symm⟩
    · rintro ⟨owner, rfl⟩
      have own : ((LawfulStore.row store resource.kind resource.resourceId).any
          fun value => value.principalId != resource.principalId) = false := by
        cases present : LawfulStore.row store resource.kind resource.resourceId with
        | none => rfl
        | some held => simp [owner held present]
      simp only [LawfulStore.row] at own
      simp [MemoryState.putResource, own, LawfulStore.row, Except.isOk, Except.toBool]
  · have current := memory_compares trivial written
    obtain ⟨named, rows, _, _⟩ := LawfulStore.put_ok written
    exact ⟨by rw [named, current], by simpa using rows resource.kind resource.resourceId⟩
  · rcases cases with ⟨error, same⟩ | ⟨accepted, _⟩
    · cases same.symm.trans refused
      rfl
    · cases accepted.symm.trans refused

/-- A write presents zero, unless there is a row to compare with. -/
def PresentsStored {ν : Type} (store : PostgresState ν) : ResourceCall ν → Prop
  | .put resource (some version) =>
    (LawfulStore.row store resource.kind resource.resourceId).isSome = true ∨ version = 0
  | _ => True

/-- The PostgreSQL store compares the version presented with a row, when there is one. -/
theorem postgres_compares {ν : Type} : Compares (S := PostgresState ν) PresentsStored := by
  intro now resource stored version store after met written
  cases present : LawfulStore.row store resource.kind resource.resourceId with
  | none =>
    rcases met with found | zero
    · rw [present] at found
      cases found
    · exact zero.symm
  | some held =>
    exact ((LawfulStore.put_ok written).2.2.1 held present).2 version rfl |>.symm

/-- The PostgreSQL store writes over an absent row whatever version is presented. -/
theorem postgres_put_absent {ν : Type} {now : Nat} {resource : SharedResource ν}
    {version : Nat} {store : PostgresState ν}
    (absent : LawfulStore.row store resource.kind resource.resourceId = none) :
    (putResource now resource (some version) store).1.isOk = true := by
  change store.resources.lookup (resource.kind, resource.resourceId) = none at absent
  simp [putResource, PostgresState.putResource, absent, Except.isOk, Except.toBool]

/-- The PostgreSQL store keeps the law of a conditional write exactly when there is a row or the
version presented is zero. -/
theorem postgres_casLaw_iff {ν : Type} (now : Nat) (resource : SharedResource ν)
    (version : Nat) (store : PostgresState ν) :
    CasLaw now resource version store ↔ PresentsStored store (.put resource (some version)) := by
  constructor
  · intro law
    cases present : LawfulStore.row store resource.kind resource.resourceId with
    | some held => exact .inl (by rw [present]; rfl)
    | none =>
      have current := (law.succeeds.mp (postgres_put_absent present)).2
      rw [present] at current
      exact .inr current.symm
  · intro met
    refine ⟨⟨fun succeeded => ?_, ?_⟩, fun written => ?_, fun refused => ?_⟩
    · rcases written : putResource now resource (some version) store with ⟨error | stored, after⟩
      · rw [written] at succeeded
        cases succeeded
      · exact ⟨fun held present => ((LawfulStore.put_ok written).2.2.1 held present).1,
          postgres_compares met written⟩
    · rintro ⟨owner, rfl⟩
      cases present : LawfulStore.row store resource.kind resource.resourceId with
      | none => exact postgres_put_absent present
      | some held =>
        have own := owner held present
        change store.resources.lookup (resource.kind, resource.resourceId) = some held at present
        simp [putResource, PostgresState.putResource, present, own, storedVersion, Except.isOk,
          Except.toBool]
    · have current := postgres_compares met written
      obtain ⟨named, rows, _, _⟩ := LawfulStore.put_ok written
      exact ⟨by rw [named, current], by simpa using rows resource.kind resource.resourceId⟩
    · simp only [putResource, PostgresState.putResource] at refused
      split at refused
      · cases refused
      · split at refused
        · cases refused
        · cases refused
          rfl

/-- Conditional writes on both stores. The in-memory store keeps the law everywhere, and of the
writes that present one version over one key one succeeds at most. The PostgreSQL store keeps the
law exactly where there is a row or zero is presented, and in a run of such writes one of each
succeeds at most. -/
theorem conditional_writes_iff (ν : Type) :
    (∀ now resource version (store : MemoryState ν), CasLaw now resource version store) ∧
    (∀ (start store : MemoryState ν) events,
      ResourceRun (fun _ _ => True) start events store → WritesOnce events) ∧
    (∀ now resource version (store : PostgresState ν), CasLaw now resource version store ↔
      (LawfulStore.row store resource.kind resource.resourceId).isSome = true ∨ version = 0) ∧
    ∀ (start store : PostgresState ν) events,
      ResourceRun PresentsStored start events store → WritesOnce events :=
  ⟨memory_casLaw, fun _ _ _ run => run.writesOnce memory_compares,
    postgres_casLaw_iff, fun _ _ _ run => run.writesOnce postgres_compares⟩

/-- Over an absent row the PostgreSQL store accepts version seven, and it accepts version one twice
in a row: the insert does not compare and stores version one. -/
theorem absent_row_accepts_any_version :
    let resource : SharedResource Unit := ⟨"id", "alice", "session", 0, (), 0⟩
    let store : PostgresState Unit := PostgresState.empty
    let first := putResource 0 resource (some 1) store
    storedVersion (LawfulStore.row store "session" "id") = 0 ∧
      (putResource 0 resource (some 7) store).1.isOk = true ∧
      first.1.isOk = true ∧ (putResource 0 resource (some 1) first.2).1.isOk = true := by
  decide

end ConfluxQuery
