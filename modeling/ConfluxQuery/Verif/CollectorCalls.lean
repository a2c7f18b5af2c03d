import ConfluxQuery.Verif.SessionCalls

/-!
# The collector keeps to the protocol

The collector of a query offers the adapter's batches to the record in the order they arrive, closes
the result after the last of them, keeps the error when that fails, and only then records the end of
the query, once.
-/

namespace ConfluxQuery

/-- Updates of one more event. -/
theorem updatesOf_event (items : List QueryItem) (event : QueryEvent) :
    updatesOf (items ++ [.event event]) = Registry.extend (updatesOf items) event.updates := by
  simp [updatesOf]

/-- A batch reports no updates. -/
theorem updatesOf_batch (items : List QueryItem) (batch : RecordBatch) :
    updatesOf (items ++ [.batch batch]) = updatesOf items := by
  simp [updatesOf]

/-- An event is no batch. -/
theorem batchesOf_event (items : List QueryItem) (event : QueryEvent) :
    batchesOf (items ++ [.event event]) = batchesOf items := by
  simp [batchesOf]

/-- Batches of one more batch. -/
theorem batchesOf_batch (items : List QueryItem) (batch : RecordBatch) :
    batchesOf (items ++ [.batch batch]) = batchesOf items ++ [batch] := by
  simp [batchesOf]

theorem batchesOf_mono {items more : List QueryItem} (longer : items <+: more) :
    batchesOf items <+: batchesOf more := by
  obtain ⟨rest, rfl⟩ := longer
  exact ⟨batchesOf rest, by simp [batchesOf]⟩

/-- Sections that neither offer a batch nor close the result nor record the end. -/
def RecordOp.passive : RecordOp → Bool
  | .collectBatch _ _ _ | .finishResults _ | .pushEvent _ _ true => false
  | _ => true

namespace Gateway

open Seen

variable {gateway : Gateway} {request : Request} {trail : Seen} {collection : Collection}

/-- Where a collector stands after some of its items: it has offered their batches, it has not
closed the result and it has not recorded the end. -/
structure Collecting (reference : Nat) (items : List QueryItem) (trail : Seen) : Prop where
  /-- Batches are offered in order. -/
  offered : trail.collected reference = batchesOf items
  unfinished : ∀ reply, ¬trail.Saw (.records (.finishResults reference)) reply
  /-- The end is not recorded. -/
  running : ¬trail.Ended reference

variable {items : List QueryItem} {post : Seen → Except ServiceError Unit → Prop}

/-- A passive section leaves the collector where it stands. -/
theorem Collecting.passive {reference : Nat} {op : RecordOp} {reply : op.Reply}
    (collecting : Collecting reference items trail) (passive : op.passive = true) :
    Collecting reference items (⟨.records op, reply⟩ :: trail) where
  offered := by
    rw [← collecting.offered]
    cases op <;> first | rfl | contradiction
  unfinished answer seen := by
    rcases List.mem_cons.mp seen with head | tail
    · cases head
      cases passive
    · exact collecting.unfinished answer tail
  running ended := by
    obtain ⟨event, seen⟩ := ended
    rcases List.mem_cons.mp seen with head | tail
    · cases head
      cases passive
    · exact collecting.running ⟨event, tail⟩

theorem recordEvent_follows {event : QueryEvent} (collects : request.Collects collection.reference)
    (collecting : Collecting collection.reference items trail) (open_ : event.terminal = false)
    (done : ∀ after : Seen, Collecting collection.reference items after → post after (.ok ())) :
    Follows (gateway.rule request) (recordEvent collection.reference event) trail post := by
  have plain : ∀ (trail : Seen) (data : EventData),
      Collecting collection.reference items trail → (∀ state, data ≠ .state state) →
      Op.Allowed gateway request trail
        (.records (.pushEvent collection.reference data false)) := by
    intro trail data collecting other
    refine .inr ⟨collects, collecting.running, fun state same => absurd same (other state), ?_⟩
    exact fun impossible => by cases impossible
  cases event with
  | state state =>
    refine Follows.perform_iff.mpr ⟨.inr ⟨collects, collecting.running, ?_, ?_⟩, fun _ _ => ?_⟩
    · intro other same
      cases same
      rfl
    · intro ended
      rw [show state.terminal = false from open_] at ended
      cases ended
    · refine done _ (collecting.passive ?_)
      rw [show state.terminal = false from open_]
      rfl
  | engineQueryId id =>
    refine Follows.perform collects fun _ _ => ?_
    have named : Collecting collection.reference items
        (⟨.records (.setEngineQueryId collection.reference id), ()⟩ :: trail) :=
      collecting.passive rfl
    exact Follows.perform_iff.mpr ⟨plain _ _ named (by simp), fun _ _ => done _ (named.passive rfl)⟩
  | rowsProduced rows =>
    exact Follows.perform_iff.mpr ⟨plain _ _ collecting (by simp), fun _ _ =>
      done _ (collecting.passive rfl)⟩
  | progress progress =>
    exact Follows.perform_iff.mpr ⟨plain _ _ collecting (by simp), fun _ _ =>
      done _ (collecting.passive rfl)⟩
  | sessionProperties properties =>
    exact Follows.perform_iff.mpr ⟨plain _ _ collecting (by simp), fun _ _ =>
      done _ (collecting.passive rfl)⟩

theorem collectItems_follows (collects : request.collection = some collection)
    {rest : List QueryItem} (all : items ++ rest = collection.run.items) {state : Collected}
    (collecting : Collecting collection.reference items trail)
    (updates : state.sessionUpdates = updatesOf items)
    (ending : ∀ event, state.terminalEvent = some event → event.terminal = true)
    {post : Seen → Except ServiceError Collected → Prop}

    (done : ∀ (after : Seen) (state : Collected),
      Collecting collection.reference collection.run.items after → state.sessionUpdates =
      updatesOf collection.run.items → (∀ event, state.terminalEvent = some event → event.terminal =
      true) → post after (.ok state)) :
    Follows (gateway.rule request)
      (collectItems gateway.limits collection.reference rest state) trail post := by
  induction rest generalizing items state trail with
  | nil =>
    rw [List.append_nil] at all
    subst all
    exact done _ _ collecting updates ending
  | cons item rest step =>
    have all' : (items ++ [item]) ++ rest = collection.run.items := by simpa using all
    cases item with
    | event event =>
      have updated : (Registry.extend state.sessionUpdates event.updates) =
          updatesOf (items ++ [.event event]) := by rw [updates, updatesOf_event]
      have same : ∀ {after : Seen}, Collecting collection.reference items after →
          Collecting collection.reference (items ++ [.event event]) after := fun standing =>
        ⟨by rw [batchesOf_event, standing.offered], standing.unfinished, standing.running⟩
      unfold collectItems
      split
      · next final =>
        refine step all' (same collecting) updated ?_
        intro other kept
        cases kept
        exact final
      · next open_ =>
        refine Follows.bind_iff.mpr (recordEvent_follows ⟨collection, collects, rfl⟩ collecting
          (by simpa using open_) fun after standing => ?_)
        exact step all' (same standing) updated ending
    | batch batch =>
      have updated : state.sessionUpdates = updatesOf (items ++ [.batch batch]) := by
        rw [updates, updatesOf_batch]
      refine Follows.perform ⟨collection, collects, rfl, rfl, ?_, collecting.unfinished⟩
        fun stored _ => ?_
      · rw [collecting.offered, ← batchesOf_batch]
        exact batchesOf_mono ⟨rest, all'⟩
      have offered : Collecting collection.reference (items ++ [.batch batch])
          (⟨.records (.collectBatch gateway.limits collection.reference batch), stored⟩ ::
            trail) := by
        refine ⟨?_, ?_, ?_⟩
        · rw [batchesOf_batch, ← collecting.offered]
          simp [collected]
        · intro reply seen
          exact collecting.unfinished reply (by simpa [Saw] using seen)
        · rintro ⟨event, seen⟩
          exact collecting.running ⟨event, by simpa [Saw] using seen⟩
      split
      · exact step all' offered updated ending
      · refine Follows.perform (.inl ⟨collection, collects, rfl⟩) fun _ _ => ?_
        exact step all' (offered.passive rfl) updated ending

theorem applySessionUpdates_follows (collects : request.collection = some collection)
    {updates : Registry String String} (reported : updates = updatesOf collection.run.items)
    (done : ∀ after : Seen, Collecting collection.reference collection.run.items after →
      post after (.ok ()))
    (collecting : Collecting collection.reference collection.run.items trail) :
    Follows (gateway.rule request)
      (applySessionUpdates collection.sessionId collection.sessionVersion collection.run.finish
        collection.closeSession updates) trail post := by
  unfold applySessionUpdates
  split
  · next applies =>
    have outlives : collection.closeSession = false := by
      simp only [Bool.and_eq_true, Bool.not_eq_true'] at applies
      exact applies.1.2
    refine Follows.perform (.inr ⟨collection, collects, outlives, rfl, rfl, reported⟩)
      fun _ _ => done _ ?_
    refine ⟨collecting.offered, ?_, ?_⟩
    · intro reply seen
      exact collecting.unfinished reply (by simpa [Saw] using seen)
    · rintro ⟨event, seen⟩
      exact collecting.running ⟨event, by simpa [Saw] using seen⟩
  · exact done _ collecting

/-- A collector that has closed the result: it has kept the error when that failed, and it has not
recorded the end. -/
structure Finished (reference : Nat) (trail : Seen) : Prop where
  /-- The result is closed, or the error kept. -/
  closed : ∃ reply, trail.Saw (.records (.finishResults reference)) reply ∧
    ∀ error, reply = .error error → trail.Saw (.records (.setError reference error)) ()
  /-- The end is not recorded. -/
  running : ¬trail.Ended reference

/-- Steps that do not record the end keep a closed result closed. -/
theorem Finished.step {reference : Nat} {op : Op} {reply : op.Reply}
    (finished : Finished reference trail)
    (open_ : ∀ event, op ≠ .records (.pushEvent reference event true)) :
    Finished reference (⟨op, reply⟩ :: trail) where
  closed := by
    obtain ⟨answer, seen, kept⟩ := finished.closed
    exact ⟨answer, seen.grow ⟨[_], rfl⟩, fun error same => (kept error same).grow ⟨[_], rfl⟩⟩
  running := by
    rintro ⟨event, seen⟩
    rcases List.mem_cons.mp seen with head | tail
    · exact open_ event (congrArg Sigma.fst head).symm
    · exact finished.running ⟨event, tail⟩

theorem finishCollected_follows (collects : request.collection = some collection)
    (collecting : Collecting collection.reference collection.run.items trail)
    {post : Seen → Except ServiceError Bool → Prop}
    (done : ∀ (after : Seen) broken, Finished collection.reference after →
      post after (.ok broken)) :
    Follows (gateway.rule request) (finishCollected collection.reference) trail post := by
  refine Follows.perform ⟨collection, collects, rfl, collecting.offered, collecting.unfinished⟩
    fun reply _ => ?_
  have running : ∀ {after : Seen}, after = ⟨.records (.finishResults collection.reference),
      reply⟩ :: trail → ¬after.Ended collection.reference := by
    rintro after rfl ⟨event, seen⟩
    exact collecting.running ⟨event, by simpa [Saw] using seen⟩
  cases reply with
  | ok =>
    exact done _ _ ⟨⟨.ok (), Saw.newest, fun error same => by cases same⟩, running rfl⟩
  | error error =>
    refine Follows.perform ⟨collection, collects, rfl⟩ fun _ _ => done _ _ ⟨?_, ?_⟩
    · refine ⟨.error error, Saw.newest.grow ⟨[_], rfl⟩, fun other same => ?_⟩
      cases same
      exact Saw.newest
    · rintro ⟨event, seen⟩
      exact running rfl ⟨event, by simpa [Saw] using seen⟩

/-- Recording a final state. -/
theorem pushFinal_follows {state : QueryState} (collects : request.Collects collection.reference)
    (finished : Finished collection.reference trail) (final : state.terminal = true)
    (done : ∀ after : Seen, post after (.ok ())) :
    Follows (gateway.rule request)
      (Call.records (.pushEvent collection.reference (.state state) true)) trail post := by
  refine Follows.perform_iff.mpr ⟨.inr ⟨collects, finished.running, ?_, fun _ => ⟨⟨state, rfl⟩,
    finished.closed⟩⟩, fun _ _ => done _⟩
  intro other same
  cases same
  exact final.symm

theorem recordFinal_follows {terminalEvent : Option QueryEvent} {state : QueryState}
    (collects : request.Collects collection.reference)
    (finished : Finished collection.reference trail) (final : state.terminal = true)
    (ending : ∀ event, terminalEvent = some event → event.terminal = true)
    (done : ∀ after : Seen, post after (.ok ())) :
    Follows (gateway.rule request)
      (recordEvent collection.reference (terminalEvent.getD (.state state))) trail post := by
  have recorded : ∀ state : QueryState, state.terminal = true → Follows (gateway.rule request)
      (recordEvent collection.reference (.state state)) trail post := by
    intro state final
    have pushed : Follows (gateway.rule request)
        (Call.records (.pushEvent collection.reference (.state state) true)) trail post :=
      pushFinal_follows collects finished final done
    rw [← final] at pushed
    exact pushed
  cases terminalEvent with
  | none => exact recorded state final
  | some event =>
    have ended := ending event rfl
    cases event with
    | state reached => exact recorded reached ended
    | engineQueryId | rowsProduced | progress | sessionProperties => cases ended

/-- The final event of a query. -/
theorem finalEvent_follows {finish : Except CoreError Unit} {overflow : Bool}
    {terminalEvent : Option QueryEvent} (collects : request.Collects collection.reference)
    (finished : Finished collection.reference trail)
    (ending : ∀ event, terminalEvent = some event → event.terminal = true)
    (done : ∀ after : Seen, post after (.ok ())) :
    Follows (gateway.rule request)
      (finalEvent collection.reference finish overflow terminalEvent) trail post := by
  unfold finalEvent
  split
  · split
    · exact recordFinal_follows collects finished rfl ending done
    · refine Follows.perform collects fun _ _ => ?_
      exact pushFinal_follows collects (finished.step (by simp)) rfl done
  · split
    · exact pushFinal_follows collects finished rfl done
    · exact recordFinal_follows collects finished rfl ending done

/-- Everything a collector does; at its end it closes the session that was made for the query. -/
theorem collectQuery_follows (collects : request.collection = some collection)

    (done : ∀ after : Seen, (collection.closeSession = true →
      after.JustClosed collection.sessionId) → post after (.ok ())) :
    Follows (gateway.rule request)
      (collectQuery gateway.limits collection.reference collection.sessionId
        collection.sessionVersion collection.run collection.closeSession) [] post := by
  have own : request.Collects collection.reference := ⟨collection, collects, rfl⟩
  have start : Collecting collection.reference [] [] := by
    refine ⟨rfl, fun _ seen => ?_, fun ⟨_, seen⟩ => ?_⟩
    · cases seen
    · cases seen
  refine Follows.bind_iff.mpr (collectItems_follows collects (List.nil_append _) start rfl
    (by simp) fun first state collecting updates ending => ?_)
  refine Follows.bind_iff.mpr (applySessionUpdates_follows collects updates
    (fun second collecting => ?_) collecting)
  refine Follows.bind_iff.mpr (finishCollected_follows collects collecting
    fun third broken finished => ?_)
  refine Follows.bind_iff.mpr (finalEvent_follows own finished ending fun fourth => ?_)
  unfold closeStatelessSession
  cases closes : collection.closeSession with
  | false => exact done _ fun yes => by rw [closes] at yes; cases yes
  | true =>
    have ends : ∀ trail : Seen, request.Ends trail collection.sessionId := fun _ =>
      .stateless collection collects rfl closes
    exact Follows.perform (ends _) fun _ _ =>
      Follows.perform_iff.mpr ⟨ends _, fun _ _ => done _ fun _ => ⟨_, _, rfl⟩⟩

end Gateway

end ConfluxQuery
