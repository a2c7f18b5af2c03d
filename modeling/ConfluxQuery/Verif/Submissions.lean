import ConfluxQuery.Verif.Footprints
import ConfluxQuery.Verif.RecordHistory

/-!
# Submissions that fail

A clustered submission starts its query before it claims a lease for it and shares its status. When
it fails, it has either not come to insert a record, or its last step was a call of the shared store
that failed. Nothing undoes the query then, so the query goes on unless its cancellation was
requested before.
-/

namespace ConfluxQuery

/-- The operation submits a query and publishes it in the cluster. -/
def Operation.submitsClustered : Operation → Bool
  | submitSessionQueryClustered _ _ | submitStatelessQueryClustered _ _ _
  | executePreparedStatementClustered _ => true
  | _ => false

/-- The request submits a query and publishes it in the cluster. -/
def Request.submitsClustered : Request → Bool
  | call _ operation => operation.submitsClustered
  | _ => false

namespace Seen

/-- References the call got for the records it has inserted. -/
def inserted (trail : Seen) : List Nat :=
  trail.filterMap fun
    | ⟨.records (.insert _), reference⟩ => some reference
    | _ => none

/-- The call's last step was a call of the shared store that failed. -/
def JustFailed (trail : Seen) : Prop :=
  ∃ op error rest, trail = ⟨.store op, .error error⟩ :: rest

theorem inserted_append {newer trail : Seen}
    (plain : ∀ entry ∈ newer, entry.1.within (· == .query) = false) :
    inserted (newer ++ trail) = trail.inserted := by
  have nothing : inserted newer = [] := by
    refine List.filterMap_eq_nil_iff.mpr fun entry member => ?_
    have other := plain entry member
    split
    · cases other
    · rfl
  unfold inserted at nothing ⊢
  rw [List.filterMap_append, nothing, List.nil_append]

end Seen

/-- What stands behind the outcome of a request: a clustered submission that fails has inserted no
record, or the shared store has just failed it. -/
def submissionProtocol : Protocol gatewayOps Nat Request ServiceError Answer where
  allowed _ _ _ _ := True
  possible _ _ := True
  post _ request trail outcome := request.submitsClustered = true →
    ∀ error, outcome = .error error → Seen.inserted trail = [] ∨ Seen.JustFailed trail

namespace Gateway

open Call Seen

variable {gateway : Gateway} {principal : AuthenticatedPrincipal} {rule : Rule gatewayOps}
  {trail : Seen}

/-- A failure has an explanation. -/
def Settled {α : Type} (trail : Seen) (outcome : Except ServiceError α) : Prop :=
  ∀ error, outcome = .error error → trail.inserted = [] ∨ trail.JustFailed

theorem Settled.bind {α β : Type} {first : Call β} {next : β → Call α}
    (free : ∀ trail act, rule.allowed trail act) (avoids : first.Avoids (Op.within (· == .query)))
    (fresh : trail.inserted = [])
    (rest : ∀ value longer, inserted longer = [] → Follows rule (next value) longer Settled) :
    Follows rule (first >>= next) trail Settled := by
  refine Follows.bind_iff.mpr (avoids.follows (fun _ _ _ => free _ _) fun newer outcome plain => ?_)
  have still : inserted (newer ++ trail) = [] := (inserted_append plain).trans fresh
  cases outcome with
  | error error => exact fun _ _ => .inl still
  | ok value => exact rest value _ still

/-- A call of the shared store whose failure ends the program. -/
theorem Settled.shared {α : Type} {op : StoreOp} {next : op.Answer → Call α}
    (free : ∀ trail act, rule.allowed trail act)
    (rest : ∀ answer longer, Follows rule (next answer) longer Settled) :
    Follows rule (store op >>= fun reply => shared reply >>= next) trail Settled := by
  refine Follows.perform (free _ _) fun reply _ => Follows.bind_iff.mpr (Follows.lift_iff.mpr ?_)
  cases reply with
  | error error => exact fun _ _ => .inr ⟨op, error, trail, rfl⟩
  | ok answer => exact rest answer _

/-- Submission fails only before it inserts a record. -/
theorem submitQuery_settled {found : SessionSnapshot} {sql : String}
    {parameters : Option (List RecordBatch)} {close : Bool}
    (free : ∀ trail act, rule.allowed trail act) (fresh : trail.inserted = []) :
    Follows rule (gateway.submitQuery principal found sql parameters close) trail Settled := by
  refine Settled.bind free (by simp) fresh fun _ _ fresh => ?_
  refine Settled.bind free (by simp) fresh fun _ _ fresh => ?_
  refine Settled.bind free (by simp) fresh fun _ _ fresh => ?_
  refine Settled.bind free (by simp) fresh fun _ _ fresh => ?_
  refine Settled.bind free (by simp) fresh fun size _ fresh => ?_
  refine Settled.bind free (by simp) fresh fun _ _ fresh => ?_
  refine Settled.bind free (by simp) fresh fun request _ fresh => ?_
  refine Settled.bind free (by simp) fresh fun run _ fresh => ?_
  refine Settled.bind free (by simp) fresh fun uuid _ fresh => ?_
  refine Follows.perform (free _ _) fun reference _ => ?_
  refine Follows.perform (free _ _) fun stored _ => ?_
  exact Follows.perform (free _ _) fun _ _ _ same => nomatch same

/-- Sharing a status fails only with the shared store. -/
theorem putSharedQuery_settled {status : QueryStatus} {key : Option String} {count : Nat}
    {lease : QueryLease} (free : ∀ trail act, rule.allowed trail act) :
    Follows rule (putSharedQuery principal status key count lease) trail Settled := by
  refine Follows.bind_iff.mpr (Follows.perform (free _ _) fun now _ => ?_)
  refine Settled.shared free fun current read => ?_
  exact Settled.shared free fun _ written _ same => nomatch same

theorem publishClusterQuery_settled {status : QueryStatus}
    (free : ∀ trail act, rule.allowed trail act) :
    Follows rule (gateway.publishClusterQuery principal status) trail Settled := by
  unfold publishClusterQuery
  split
  · exact fun _ same => nomatch same
  refine Settled.shared free fun lease claimed => ?_
  refine Follows.bind (putSharedQuery_settled free) (fun shared _ _ _ => ?_)
    fun longer reason _ settled _ _ => settled reason rfl
  exact Follows.perform (free _ _) fun _ _ _ same => nomatch same

/-- A submission and its publication, before any record is inserted. -/
theorem submitClustered_settled {found : SessionSnapshot} {sql : String}
    {parameters : Option (List RecordBatch)} {close : Bool}
    (free : ∀ trail act, rule.allowed trail act) (fresh : trail.inserted = []) :
    Follows rule (do
      let status ← gateway.submitQuery principal found sql parameters close
      gateway.publishClusterQuery principal status
      return status) trail Settled := by
  refine Follows.bind (submitQuery_settled free fresh) (fun submitted status _ _ => ?_)
    fun longer reason _ settled _ _ => settled reason rfl
  refine Follows.bind (publishClusterQuery_settled free) (fun published _ _ _ _ same => ?_)
    fun longer reason _ settled _ _ => settled reason rfl
  exact nomatch same

theorem Settled.map {α β : Type} {prog : Call β} {change : β → α}
    (settled : Follows rule prog trail Settled) : Follows rule (change <$> prog) trail Settled := by
  refine Follows.map_iff.mpr (settled.mono fun longer outcome _ held error same => ?_)
  cases outcome with
  | error reason => exact held reason rfl
  | ok value => exact nomatch same

/-- Clustered submissions keep to the submission protocol. -/
theorem operation_settled {operation : Operation} (submits : operation.submitsClustered = true)
    (free : ∀ trail act, rule.allowed trail act) :
    Follows rule (gateway.operation principal operation) [] Settled := by
  cases operation with
  | submitSessionQueryClustered id sql =>
    refine Settled.map (Settled.bind free (sessionClustered_avoids rfl) rfl fun found _ fresh => ?_)
    exact submitClustered_settled free fresh
  | submitStatelessQueryClustered name overrides sql =>
    refine Settled.map (Settled.bind free (createSessionClustered_avoids rfl rfl rfl) rfl
      fun found _ fresh => ?_)
    exact submitClustered_settled free fresh
  | executePreparedStatementClustered handle =>
    refine Settled.map (Settled.bind free (preparedStatementClustered_avoids rfl rfl) rfl
      fun statement _ fresh => ?_)
    refine Settled.bind free (sessionClustered_avoids rfl) fresh fun found _ fresh => ?_
    exact submitClustered_settled free fresh
  | _ => cases submits

end Gateway

theorem submission_obeys {S : Type} [ClusterStateStore S Payload] (gateways : Nat → Gateway) :
    (gatewayMachine S gateways).Obeys submissionProtocol where
  follows place request := by
    cases submits : request.submitsClustered with
    | false =>
      refine Follows.always (fun _ _ => trivial) fun _ _ yes => ?_
      rw [submits] at yes
      cases yes
    | true =>
      cases request with
      | call principal operation =>
        exact (Gateway.operation_settled submits fun _ _ => trivial).mono
          fun _ _ _ settled _ => settled
      | _ => cases submits
  replies _ _ _ _ _ _ := trivial

section

variable {S : Type}

/-- Calls that submitted a query in the cluster and have returned an error. -/
def failedSubmissions (past : Past S) : List Caller :=
  past.filterMap fun
    | .returned caller (.error _) => if caller.request.submitsClustered then some caller else none
    | _ => none

variable [ClusterStateStore S Payload]

/-- A call of the shared store is going to fail. -/
def StoreOp.fails (reading : Reading) (store : S) (op : StoreOp) : Bool :=
  match (op.apply reading.now reading.uuid reading.fault store).1 with
  | .error _ => true
  | .ok _ => false

/-- When the shared store fails a clustered submission, the cancellation of every query the call has
inserted was requested before. -/
def FailsCancelled (world : World S) (past : Past S) :
    Upcoming gatewayOps Nat Reading Request ServiceError Answer → Bool
  | .performs caller (.store op) reading =>
    !(caller.request.submitsClustered && op.fails reading world.store) ||
      (Seen.inserted (trailOf caller.thread past)).all fun reference =>
        world.cancelled caller.place reference
  | _ => true

/-- A call of the shared store fails when it is going to. -/
theorem fails_of_reply {place : Nat} {reading : Reading} {op : StoreOp} {world : World S}
    {outcome : Outcome gatewayOps (World S) Request (.store op)} {error : ClusterError}
    (handled : handle place reading (.store op) world = some outcome)
    (replied : outcome.reply = .error error) : op.fails reading world.store = true := by
  have answer := (handle_store handled).1.symm.trans replied
  unfold StoreOp.fails
  rw [answer]

omit [ClusterStateStore S Payload] in
/-- A clustered submission that has returned an error has returned it, and is one. -/
theorem mem_failedSubmissions {past : Past S} {caller : Caller}
    (failed : caller ∈ failedSubmissions past) :
    (∃ error, .returned caller (.error error) ∈ past) ∧ caller.request.submitsClustered = true := by
  obtain ⟨moment, member, same⟩ := List.mem_filterMap.mp failed
  split at same
  · next other error =>
    obtain ⟨submits, rfl⟩ := Option.ite_none_right_eq_some.mp same |>.imp_right Option.some.inj
    exact ⟨⟨error, member⟩, submits⟩
  · cases same

/-- The queries of a clustered submission that has failed, when the shared store fails submissions
of cancelled queries only. -/
theorem failed_cancelled {gateways : Nat → Gateway} {world₀ world : World S} {past : Past S}
    (history : History (gatewayMachine S gateways) submissionProtocol (FailsCancelled · · ·) world₀
      world past)
    {caller : Caller} (failed : caller ∈ failedSubmissions past) {reference : Nat}
    (inserted : reference ∈ Seen.inserted (trailOf caller.thread past)) :
    world.cancelled caller.place reference = true := by
  obtain ⟨⟨error, returned⟩, submits⟩ := mem_failedSubmissions failed
  obtain ⟨newer, older, rfl⟩ := List.append_of_mem returned
  rw [history.trailOf_returned] at inserted
  obtain ⟨_, held, known, _, post⟩ := history.returned_split
  rcases post submits error rfl with fresh | ⟨op, reason, rest, newest⟩
  · rw [fresh] at inserted
    exact absurd inserted List.not_mem_nil
  -- The last step was a call of the store that failed; the condition held when it was made.
  obtain ⟨middle, earlier, reading, before, outcome, rfl, tail, handled, replied, met⟩ :=
    held.newest known newest
  have handled : handle caller.place reading (.store op) before = some outcome := handled
  have fails := fails_of_reply handled replied
  simp only [FailsCancelled, submits, fails, Bool.and_self, Bool.not_true, Bool.false_or, tail,
    List.all_eq_true] at met
  rw [newest] at inserted
  rw [← List.cons_append, ← List.append_assoc] at history
  exact history.persists (fun world => world.cancelled caller.place reference = true)
    handle_cancelled (met reference inserted)

/-- In a run in which no clustered submission is failed by the shared store while a query it has
inserted goes on, every query of a clustered submission that has returned an error has had its
cancellation requested. -/
theorem failed_submissions_cancelled (gateways : Nat → Gateway) (store : S) (schedule : Schedule)
    (met : RunMeets gateways (FailsCancelled · · ·) store schedule) :
    ∀ caller ∈ failedSubmissions (gatewayRun gateways store schedule).past,
      ∀ reference ∈ Seen.inserted
        (trailOf caller.thread (gatewayRun gateways store schedule).past),
      (gatewayRun gateways store schedule).world.cancelled caller.place reference = true := by
  intro caller failed reference inserted
  exact failed_cancelled (Machine.run_history (submission_obeys gateways) schedule met) failed
    inserted

end

/-- Alice submits a query in the cluster, up to the claim of its lease. -/
def Sample.submission : Schedule :=
  call 0 0 12 (.createSession "demo" ∅) ++
    call 0 1 15 (.submitSessionQueryClustered "qcli_20260101_0000_01" "select 1")

/-- Alice cancels the query before the claim fails. -/
def Sample.cancelledSubmission : Schedule :=
  submission ++ call 0 3 9 (.cancel "qcli_1") ++ steps 1 2 unreachable

set_option maxRecDepth 20000 in
/-- Cancelling the query first makes the condition of `failed_submissions_cancelled` hold. -/
theorem cancelled_submission_meets :
    let pool := Sample.run (some ⟨"a", 1000⟩) Sample.cancelledSubmission
    (failedSubmissions pool.past).map Actor.thread = [1] ∧
      Seen.inserted (trailOf 1 pool.past) = [0] ∧
      ∀ caller ∈ failedSubmissions pool.past,
        ∀ reference ∈ Seen.inserted (trailOf caller.thread pool.past),
        pool.world.cancelled caller.place reference = true :=
  ⟨by decide +kernel, by decide +kernel, failed_submissions_cancelled _ _ _ (by decide +kernel)⟩

set_option maxRecDepth 20000 in
/-- A submission whose claim fails returns an error, and its query goes on. -/
theorem failed_submission_keeps_running :
    let pool := Sample.run (some ⟨"a", 1000⟩) (Sample.submission ++ Sample.steps 1 2
      Sample.unreachable)
    (failedSubmissions pool.past).map Actor.thread = [1] ∧
      Seen.inserted (trailOf 1 pool.past) = [0] ∧ pool.world.cancelled 0 0 = false := by
  decide +kernel

end ConfluxQuery
