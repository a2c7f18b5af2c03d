import ConfluxQuery.Verif.Admission
import ConfluxQuery.Verif.Lifecycle

/-!
# Limits of one process

A process limits the sessions and the active queries of a principal and the records it keeps. Each
limit is checked against a count that is read in one section, and the session or the record is
inserted in a later one. The limits hold in runs in which nothing is admitted between a call's own
count and its insertion, and a hydrated session, which no one counts, finds room.
-/

namespace ConfluxQuery

/-- A record is an active query of a principal. -/
def QueryRecord.activeFor (principal : String) (record : QueryRecord) : Bool :=
  record.owner == principal && record.active

section

variable {S : Type}

/-- Number of a principal's sessions at a process. -/
def World.sessionCount (world : World S) (place : Nat) (principal : String) : Nat :=
  Registry.count (fun _ owner => owner.principal == principal) (world.nodes place).owners

/-- Number of a principal's active queries at a process. -/
def World.activeCount (world : World S) (place : Nat) (principal : String) : Nat :=
  (world.nodes place).records.countListed (QueryRecord.activeFor principal)

/-- Number of records at a process. -/
def World.recordCount (world : World S) (place : Nat) : Nat :=
  Registry.size (world.nodes place).records.listed

variable (S) (place : Nat) (principal : String)

/-- A principal's sessions at a process. -/
def sessionGate : Gate gatewayOps (World S) Nat where
  place := place
  measure world := world.sessionCount place principal
  reads := sessionReads principal
  admits
    | .owners (.insert _ owner) => owner == principal
    | _ => false

/-- A principal's active queries at a process. -/
def activeGate : Gate gatewayOps (World S) Nat where
  place := place
  measure world := world.activeCount place principal
  reads := activeReads principal
  admits
    | .records (.insert record) => record.owner == principal
    | _ => false

/-- The records of a process. -/
def recordGate : Gate gatewayOps (World S) Nat where
  place := place
  measure world := world.recordCount place
  reads := recordReads
  admits
    | .records (.insert _) => true
    | _ => false

end

/-- One section adds at most one session, and only an insertion for the principal adds any. -/
theorem OwnerOp.apply_count (now : Nat) (owners : Registry String SessionOwner) (op : OwnerOp)
    (principal : String) :
    let test : String → SessionOwner → Bool := fun _ owner => owner.principal == principal
    Registry.count test (op.apply now owners).2 ≤ Registry.count test owners + 1 ∧
      ((∀ id, op ≠ .insert id principal) →
        Registry.count test (op.apply now owners).2 ≤ Registry.count test owners) := by
  intro test
  cases op with
  | insert id owner =>
    refine ⟨Registry.count_insert_le test owners id ⟨owner, now⟩, fun other => ?_⟩
    refine Registry.count_insert_of_not test owners ?_
    exact beq_eq_false_iff_ne.mpr fun same : owner = principal => other id (same ▸ rfl)
  | touch owner id =>
    have same : Registry.count test (OwnerOp.apply now owners (.touch owner id)).2 ≤
        Registry.count test owners := by
      simp only [OwnerOp.apply]
      split
      · refine Registry.count_le_of_lookup fun key value present counted => ?_
        rw [Registry.lookup_adjust] at present
        split at present
        · next here =>
          subst here
          obtain ⟨old, found, rfl⟩ := Option.map_eq_some_iff.mp present
          exact ⟨old, found, counted⟩
        · exact ⟨value, present, counted⟩
      · exact Nat.le_refl _
    exact ⟨Nat.le_succ_of_le same, fun _ => same⟩
  | remove id =>
    have fewer := Registry.count_erase_le test owners id
    exact ⟨Nat.le_succ_of_le fewer, fun _ => fewer⟩
  | count | expired => exact ⟨Nat.le_succ _, fun _ => Nat.le_refl _⟩

section

variable {principal : String} {now : Nat} {io : FileIo} {records : Records} {op : RecordOp}

/-- A listed record that is an active query of a principal after a section was one before. -/
theorem RecordOp.apply_activeFor (listed : records.Listed) {id : String} {reference : Nat}
    (present : records.listed.lookup id = some reference)
    (counted : (op.apply now io records).2.satisfies (QueryRecord.activeFor principal) reference) :
    records.satisfies (QueryRecord.activeFor principal) reference = true := by
  obtain ⟨record, found, _⟩ := listed id reference present
  obtain ⟨cancelled, after⟩ := op.apply_get now io records found
  simp only [Records.satisfies, after, found, Option.any_some, QueryRecord.activeFor,
    QueryRecord.active, Bool.and_eq_true, Option.isNone_iff_eq_none] at counted ⊢
  exact ⟨counted.1, alter_active counted.2⟩

theorem RecordOp.apply_active_le (listed : records.Listed)
    (other : ∀ record, op = .insert record → record.owner ≠ principal) :
    (op.apply now io records).2.countListed (QueryRecord.activeFor principal) ≤
      records.countListed (QueryRecord.activeFor principal) := by
  refine Registry.count_le_of_lookup fun id reference present counted => ?_
  rcases apply_lists present with before | ⟨record, rfl, rfl⟩
  · exact ⟨reference, before, apply_activeFor listed before counted⟩
  · have new : ((RecordOp.insert record).apply now io records).2.get records.heap.length =
        some record := List.getElem?_concat_length
    simp only [Records.satisfies, new, Option.any_some, QueryRecord.activeFor, Bool.and_eq_true,
      beq_iff_eq] at counted
    exact absurd counted.1 (other record rfl)

theorem RecordOp.apply_active_succ (listed : records.Listed) :
    (op.apply now io records).2.countListed (QueryRecord.activeFor principal) ≤
      records.countListed (QueryRecord.activeFor principal) + 1 := by
  by_cases inserts : ∃ record, op = .insert record
  · obtain ⟨record, rfl⟩ := inserts
    refine Nat.le_trans (Registry.count_insert_le _ records.listed _ _) (Nat.succ_le_succ ?_)
    exact Registry.count_le_of_lookup fun id reference present counted =>
      ⟨reference, present, apply_activeFor listed present counted⟩
  · exact Nat.le_succ_of_le
      (apply_active_le listed fun record same => absurd ⟨record, same⟩ inserts)

/-- One section adds at most one record, and only an insertion adds any. -/
theorem RecordOp.apply_size :
    Registry.size (op.apply now io records).2.listed ≤ Registry.size records.listed + 1 ∧
      ((∀ record, op ≠ .insert record) →
        Registry.size (op.apply now io records).2.listed ≤ Registry.size records.listed) := by
  simp only [Registry.size_eq_count]
  by_cases inserts : ∃ record, op = .insert record
  · obtain ⟨record, rfl⟩ := inserts
    exact ⟨Registry.count_insert_le _ records.listed _ _, fun other => absurd rfl (other record)⟩
  · have fewer : Registry.count (fun _ _ => true) (op.apply now io records).2.listed ≤
        Registry.count (fun _ _ => true) records.listed := by
      refine Registry.count_le_of_lookup fun id reference present _ => ?_
      rcases apply_lists present with before | ⟨record, same, _⟩
      · exact ⟨reference, before, rfl⟩
      · exact absurd ⟨record, same⟩ inserts
    exact ⟨Nat.le_succ_of_le fewer, fun _ => fewer⟩

end

section

variable {S : Type} [ClusterStateStore S Payload] {gateways : Nat → Gateway}

/-- The sessions of a principal are counted and admitted as their gate says. -/
theorem sessionGate_lawful (place : Nat) (principal : String) :
    (sessionGate S place principal).Lawful (gatewayMachine S gateways) fun _ => True where
  kept _ _ := trivial
  exact {input act world outcome count} handled read := by
    have handled : handle place input act world = some outcome := handled
    obtain ⟨reply, after, spawned⟩ := outcome
    cases sessionReads_eq_some read
    exact (handle_owners handled).1.symm
  apart {act reply count} read := by
    cases sessionReads_eq_some read
    rfl
  one {_ _ _ world outcome} handled _ := by
    change outcome.world.sessionCount place principal ≤ world.sessionCount place principal + 1
    unfold World.sessionCount
    rcases handle_owners_cases handled place with same | ⟨sub, _, _, after⟩
    · rw [same]
      exact Nat.le_succ _
    · rw [after]
      exact (sub.apply_count _ _ principal).1
  keeps {_ _ _ world outcome} handled _ other := by
    change outcome.world.sessionCount place principal ≤ world.sessionCount place principal
    unfold World.sessionCount
    rcases handle_owners_cases handled place with same | ⟨sub, rfl, rfl, after⟩
    · rw [same]
    · rw [after]
      refine (sub.apply_count _ _ principal).2 fun id same => ?_
      subst same
      exact absurd (other rfl) (by simp [sessionGate])

/-- The active queries of a principal are counted and admitted as their gate says. -/
theorem activeGate_lawful (place : Nat) (principal : String) :
    (activeGate S place principal).Lawful (gatewayMachine S gateways) fun world =>
      (world.nodes place).records.Listed where
  kept handled listed := handle_listed handled listed
  exact {input act world outcome count} handled read := by
    have handled : handle place input act world = some outcome := handled
    obtain ⟨reply, after, spawned⟩ := outcome
    cases activeReads_eq_some read
    exact (handle_records handled).1.symm
  apart {act reply count} read := by
    cases activeReads_eq_some read
    rfl
  one {_ _ _ world outcome} handled listed := by
    change outcome.world.activeCount place principal ≤ world.activeCount place principal + 1
    unfold World.activeCount
    rcases handle_records_cases handled place with same | ⟨sub, _, _, after⟩
    · rw [same]
      exact Nat.le_succ _
    · rw [after]
      exact RecordOp.apply_active_succ listed
  keeps {_ _ _ world outcome} handled listed other := by
    change outcome.world.activeCount place principal ≤ world.activeCount place principal
    unfold World.activeCount
    rcases handle_records_cases handled place with same | ⟨sub, rfl, rfl, after⟩
    · rw [same]
    · rw [after]
      refine RecordOp.apply_active_le listed fun record same => ?_
      subst same
      exact beq_eq_false_iff_ne.mp (other rfl)

/-- The records of a process are counted and admitted as their gate says. -/
theorem recordGate_lawful (place : Nat) :
    (recordGate S place).Lawful (gatewayMachine S gateways) fun _ => True where
  kept _ _ := trivial
  exact {input act world outcome count} handled read := by
    have handled : handle place input act world = some outcome := handled
    obtain ⟨reply, after, spawned⟩ := outcome
    cases recordReads_eq_some read
    exact (handle_records handled).1.symm
  apart {act reply count} read := by
    cases recordReads_eq_some read
    rfl
  one {_ _ _ world outcome} handled _ := by
    change outcome.world.recordCount place ≤ world.recordCount place + 1
    unfold World.recordCount
    rcases handle_records_cases handled place with same | ⟨sub, _, _, after⟩
    · rw [same]
      exact Nat.le_succ _
    · rw [after]
      exact RecordOp.apply_size.1
  keeps {_ _ _ world outcome} handled _ other := by
    change outcome.world.recordCount place ≤ world.recordCount place
    unfold World.recordCount
    rcases handle_records_cases handled place with same | ⟨sub, rfl, rfl, after⟩
    · rw [same]
    · rw [after]
      refine RecordOp.apply_size.2 fun record same => ?_
      subst same
      exact absurd (other rfl) (by simp [recordGate])

omit [ClusterStateStore S Payload] in
theorem sessionGate_admits {place : Nat} {principal : String} {act : Op}
    (admits : (sessionGate S place principal).admits act = true) :
    ∃ id, act = .owners (.insert id principal) := by
  simp only [sessionGate] at admits
  split at admits
  · next id owner => exact ⟨id, by rw [beq_iff_eq.mp admits]⟩
  · cases admits

omit [ClusterStateStore S Payload] in
theorem activeGate_admits {place : Nat} {principal : String} {act : Op}
    (admits : (activeGate S place principal).admits act = true) :
    ∃ record, act = .records (.insert record) ∧ record.owner = principal := by
  simp only [activeGate] at admits
  split at admits
  · next record => exact ⟨record, rfl, beq_iff_eq.mp admits⟩
  · cases admits

omit [ClusterStateStore S Payload] in
theorem recordGate_admits {place : Nat} {act : Op}
    (admits : (recordGate S place).admits act = true) : ∃ record, act = .records
    (.insert record) := by
  simp only [recordGate] at admits
  split at admits
  · next record => exact ⟨record, rfl⟩
  · cases admits

/-- Whoever inserts something at a process carries the limits given for its principal, and nothing
of the kind was inserted there since it counted; a hydrated session finds room. -/
def AdmitsAlone (place : Nat) (maxSessions maxQueries : String → Nat) (world : World S)
    (past : Past S) : Upcoming gatewayOps Nat Reading Request ServiceError Answer → Bool
  | .performs caller (.owners (.insert _ owner)) _ =>
    caller.place != place ||
      if Seen.hydrating (trailOf caller.thread past) then
        decide (world.sessionCount place owner < maxSessions owner)
      else
        (caller.request.principal.all fun principal =>
          principal.maxSessions == maxSessions owner) &&
        (sessionGate S place owner).undisturbed caller.thread past
  | .performs caller (.records (.insert record)) _ =>
    caller.place != place ||
      (caller.request.principal.all fun principal =>
        principal.maxConcurrentQueries == maxQueries record.owner) &&
      (activeGate S place record.owner).undisturbed caller.thread past &&
      (recordGate S place).undisturbed caller.thread past
  | _ => true

variable {place : Nat} {maxSessions maxQueries : String → Nat} {store : S} {world : World S}
  {past : Past S}

/-- Sessions stay within the limit of their principal. -/
theorem sessions_bounded
    (history : History (gatewayMachine S gateways) (admissionProtocol gateways)
      (AdmitsAlone place maxSessions maxQueries · · ·) (World.initial store) world past)
    (principal : String) : world.sessionCount place principal ≤ maxSessions principal := by
  refine (sessionGate_lawful place principal).bounded trivial (Nat.zero_le _) ?_ history
  intro before older caller act input held known here admits allowed met
  obtain ⟨id, rfl⟩ := sessionGate_admits admits
  have here : caller.place = place := here
  simp only [AdmitsAlone, here, bne_self_eq_false, Bool.false_or] at met
  split at met
  · exact of_decide_eq_true met
  · next fresh =>
    -- The session was created here, so the call has counted the sessions before.
    obtain ⟨called, alone⟩ := Bool.and_eq_true _ _ ▸ met
    rcases allowed with hydrating | ⟨acting, operation, count, request, _, counted, room⟩
    · exact absurd hydrating fresh
    have limit : acting.maxSessions = maxSessions principal := by
      simpa [request, Request.principal] using called
    have within := (sessionGate_lawful place principal).measure_le trivial held known here alone
      counted
    omega

/-- Active queries stay within the limit of their principal. -/
theorem active_bounded
    (history : History (gatewayMachine S gateways) (admissionProtocol gateways)
      (AdmitsAlone place maxSessions maxQueries · · ·) (World.initial store) world past)
    (principal : String) : world.activeCount place principal ≤ maxQueries principal := by
  have start := initial_listed store place
  refine (activeGate_lawful place principal).bounded start (Nat.zero_le _) ?_ history
  intro before older caller act input held known here admits allowed met
  obtain ⟨record, rfl, rfl⟩ := activeGate_admits admits
  have here : caller.place = place := here
  simp only [AdmitsAlone, here, bne_self_eq_false, Bool.false_or, Bool.and_eq_true] at met
  obtain ⟨⟨called, alone⟩, _⟩ := met
  obtain ⟨acting, operation, active, size, request, _, counted, room, _, _⟩ := allowed
  have limit : acting.maxConcurrentQueries = maxQueries record.owner := by
    simpa [request, Request.principal] using called
  have within := (activeGate_lawful place record.owner).measure_le start held known here alone
    counted
  omega

theorem records_bounded
    (history : History (gatewayMachine S gateways) (admissionProtocol gateways)
      (AdmitsAlone place maxSessions maxQueries · · ·) (World.initial store) world past) :
    world.recordCount place ≤ (gateways place).limits.maxQueries := by
  refine (recordGate_lawful place).bounded trivial (Nat.zero_le _) ?_ history
  intro before older caller act input held known here admits allowed met
  obtain ⟨record, rfl⟩ := recordGate_admits admits
  have here : caller.place = place := here
  simp only [AdmitsAlone, here, bne_self_eq_false, Bool.false_or, Bool.and_eq_true] at met
  obtain ⟨acting, operation, active, size, request, _, _, _, counted, room⟩ := allowed
  have within := (recordGate_lawful place).measure_le trivial held known here met.2 counted
  rw [here] at room
  exact Nat.lt_of_le_of_lt within room

/-- In a run in which nothing is inserted at a process between a call's own count and its
insertion, and hydrated sessions find room, every limit of the process holds in the state reached:
the sessions and the active queries of each principal, and the records. -/
theorem admission_bounds (gateways : Nat → Gateway) (store : S) (schedule : Schedule) (place : Nat)
    (maxSessions maxQueries : String → Nat)
    (met : RunMeets gateways (AdmitsAlone place maxSessions maxQueries · · ·) store schedule) :
    let world := (gatewayRun gateways store schedule).world
    (∀ principal, world.sessionCount place principal ≤ maxSessions principal) ∧
      (∀ principal, world.activeCount place principal ≤ maxQueries principal) ∧
      world.recordCount place ≤ (gateways place).limits.maxQueries := by
  have history := Machine.run_history (admission_obeys gateways) schedule met
  exact ⟨sessions_bounded history, active_bounded history, records_bounded history⟩

end

namespace Sample

/-- A gateway that keeps one record. -/
def small : Gateway := { gateway none with limits := { maxQueries := 1 } }

/-- Two calls, one after the other: a session and a query in it. -/
def oneByOne : Schedule :=
  arrivesAt 0 (.createSession "demo" ∅) ++ steps 0 12 reading ++
    arrivesAt 0 (.submitSessionQuery "qcli_20260101_0000_01" "select 1") ++ steps 1 17 reading

/-- Two sessions and then two queries, each pair counting before either inserts. -/
def sideBySide : Schedule :=
  arrivesAt 0 (.createSession "demo" ∅) ++ arrivesAt 0 (.createSession "demo" ∅) ++
    steps 0 6 reading ++ steps 1 6 reading ++ steps 0 6 reading ++ steps 1 6 reading ++
    arrivesAt 0 (.submitSessionQuery "qcli_20260101_0000_01" "select 1") ++
    arrivesAt 0 (.submitSessionQuery "qcli_20260101_0000_01" "select 2") ++
    steps 2 10 reading ++ steps 3 10 reading ++ steps 2 4 reading ++
    steps 3 4 { reading with uuid := "2" }

end Sample

set_option maxRecDepth 20000 in
/-- One call after the other meets the condition of `admission_bounds`, up to the limits. -/
theorem calls_one_by_one_meet :
    let world := (gatewayRun (fun _ => Sample.small) (.empty : MemoryState Payload)
      Sample.oneByOne).world
    (world.sessionCount 0 "alice" = 1 ∧ world.activeCount 0 "alice" = 1 ∧
      world.recordCount 0 = 1) ∧
      (∀ principal, world.sessionCount 0 principal ≤ 1) ∧
      (∀ principal, world.activeCount 0 principal ≤ 1) ∧ world.recordCount 0 ≤ 1 :=
  ⟨by decide +kernel, admission_bounds _ _ _ 0 (fun _ => 1) (fun _ => 1) (by decide +kernel)⟩

set_option maxRecDepth 20000 in
/-- Calls that count before either inserts exceed every limit of one. -/
theorem calls_side_by_side_exceed_limits :
    let world := (gatewayRun (fun _ => Sample.small) (.empty : MemoryState Payload)
      Sample.sideBySide).world
    Sample.limited.maxSessions < world.sessionCount 0 "alice" ∧
      Sample.limited.maxConcurrentQueries < world.activeCount 0 "alice" ∧
      Sample.small.limits.maxQueries < world.recordCount 0 := by
  decide +kernel

end ConfluxQuery
