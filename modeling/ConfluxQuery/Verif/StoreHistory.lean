import ConfluxQuery.Cluster.Quota
import ConfluxQuery.Verif.Runs

/-!
# Rows of the shared store over a whole run

What every call of the shared store does to the row of a kind and an identifier, whether or not the
call reports a failure.
-/

namespace ConfluxQuery

open ClusterStateStore

section

variable {S : Type}

/-- The latest time the shared store has read. -/
def storeClock : Past S → Nat
  | [] => 0
  | .did _ (.store _) reading _ _ :: rest => max reading.now (storeClock rest)
  | _ :: rest => storeClock rest

/-- A call that starts reads no time. -/
theorem storeClock_begun (place : Nat) (spawned : Option Request) (past : Past S) :
    storeClock (begun place spawned past) = storeClock past := by
  cases spawned <;> rfl

variable [ClusterStateStore S Payload]

/-- A call of the shared store is performed or it leaves the store as it was. -/
theorem StoreOp.apply_state (now : Nat) (uuid : String) (fault : Option StoreFault) (store : S)
    (op : StoreOp) :
    (op.apply now uuid fault store).2 = store ∨
      (op.apply now uuid fault store).2 = (op.perform now uuid store).2 := by
  unfold StoreOp.apply
  split
  · exact .inr rfl
  · exact .inl rfl
  · exact .inr rfl

variable [LawfulStore S] {now : Nat} {uuid : String} {store : S} {op : StoreOp} {kind id : String}
  {row : Resource}

/-- What a store holds under a key after a call it has held before, or it is the resource
written. -/
theorem row_of_perform
    (present : LawfulStore.row (op.perform now uuid store).2 kind id = some row) :
    LawfulStore.row store kind id = some row ∨ ∃ resource expected version,
      op = .putResource resource expected ∧ kind = resource.kind ∧ id = resource.resourceId ∧
        row = { resource with version := version } := by
  cases op with
  | putResource resource expected =>
    change LawfulStore.row (putResource now resource expected store).2 kind id = some row at present
    rcases written : putResource now resource expected store with ⟨reply, after⟩
    rw [written] at present
    cases reply with
    | error error => exact .inl ((LawfulStore.put_error written).1 ▸ present)
    | ok stored =>
      obtain ⟨shape, rows, _, _⟩ := LawfulStore.put_ok written
      rw [rows] at present
      split at present
      · next here =>
        cases present
        exact .inr ⟨resource, expected, _, rfl, here.1, here.2, shape⟩
      · exact .inl present
  | getResource => exact .inl present
  | deleteResource kind' id' principal =>
    change LawfulStore.row (deleteResource kind' id' principal store).2 kind id = some row
      at present
    rcases deleted : deleteResource kind' id' principal store with ⟨reply, after⟩
    rw [deleted] at present
    cases reply with
    | error error => exact .inl ((LawfulStore.delete_error deleted).1 ▸ present)
    | ok found =>
      obtain ⟨gone, foreign, absent, others, _⟩ := LawfulStore.delete_ok deleted
      by_cases here : kind = kind' ∧ id = id'
      · obtain ⟨rfl, rfl⟩ := here
        cases before : LawfulStore.row store kind id with
        | none =>
          rw [absent before] at present
          cases present
        | some held =>
          by_cases own : held.principalId = principal
          · rw [gone held before own] at present
            cases present
          · exact .inl (foreign held before own ▸ present)
      · exact .inl (others kind id here ▸ present)
  | claimQuery query principal node ttl =>
    change LawfulStore.row (claimQuery now query principal node ttl store).2 kind id = some row
      at present
    rcases claimed : claimQuery now query principal node ttl store with ⟨reply, after⟩
    rw [claimed] at present
    cases reply with
    | error error => exact .inl ((LawfulStore.claim_error claimed).1 ▸ present)
    | ok lease => exact .inl ((LawfulStore.claim_ok claimed).1 ▸ present)
  | renewQuery lease ttl =>
    change LawfulStore.row (renewQuery now lease ttl store).2 kind id = some row at present
    rcases replied : renewQuery now lease ttl store with ⟨reply, after⟩
    rw [replied] at present
    exact .inl ((LawfulStore.renew_rows replied).1 ▸ present)
  | releaseQuery lease =>
    change LawfulStore.row (releaseQuery lease store).2 kind id = some row at present
    rcases replied : releaseQuery lease store with ⟨reply, after⟩
    rw [replied] at present
    exact .inl ((LawfulStore.release_rows replied).1 ▸ present)
  | acquireQuota principal quota limit ttl =>
    change LawfulStore.row (acquireQuota now uuid principal quota limit ttl store).2 kind id =
      some row at present
    rcases replied : acquireQuota now uuid principal quota limit ttl store with ⟨reply, after⟩
    rw [replied] at present
    exact .inl ((LawfulStore.acquire_rows replied).1 ▸ present)
  | releaseQuota permit =>
    change LawfulStore.row (releaseQuota permit store).2 kind id = some row at present
    rcases replied : releaseQuota permit store with ⟨reply, after⟩
    rw [replied] at present
    exact .inl ((LawfulStore.permit_rows replied).1 ▸ present)

variable {gateways : Nat → Gateway} {guard : Guard S} {store₀ : S} {world : World S}
  {past whole : Past S}

section Permits

variable [QuotaStore S] {name : String} {held : QuotaPermit}

/-- A permit that is there after a call was there before, or it was granted while its quota had
room. -/
theorem permit_of_perform
    (present : (QuotaStore.permits (op.perform now uuid store).2).lookup name = some held) :
    (QuotaStore.permits store).lookup name = some held ∨ ∃ principal quota limit ttl,
      op = .acquireQuota principal quota limit ttl ∧ name = uuid ∧ held.principalId = principal ∧
        held.quota = quota ∧ livePermits now principal quota (QuotaStore.permits store) < limit ∧
        (acquireQuota now uuid principal quota limit ttl store).1 = .ok name := by
  have old : ∀ {after : S}, (op.perform now uuid store).2 = after →
      QuotaStore.permits after = QuotaStore.permits store →
      (QuotaStore.permits store).lookup name = some held := by
    intro after same kept
    rwa [same, kept] at present
  cases op with
  | putResource => exact .inl (old rfl (QuotaStore.put_permits _ _ _ _))
  | getResource => exact .inl present
  | deleteResource => exact .inl (old rfl (QuotaStore.delete_permits _ _ _ _))
  | claimQuery => exact .inl (old rfl (QuotaStore.claim_permits _ _ _ _ _ _))
  | renewQuery => exact .inl (old rfl (QuotaStore.renew_permits _ _ _ _))
  | releaseQuery => exact .inl (old rfl (QuotaStore.yield_permits _ _))
  | releaseQuota permit => exact .inl (QuotaStore.release_kept present)
  | acquireQuota principal quota limit ttl =>
    rcases QuotaStore.acquire_granted present with before | ⟨rfl, owner, counted, room, granted⟩
    · exact .inl before
    · exact .inr ⟨principal, quota, limit, ttl, rfl, rfl, owner, counted, room, granted⟩

variable {place : Nat} {reading : Reading} {before : World S}

end Permits

end

end ConfluxQuery
