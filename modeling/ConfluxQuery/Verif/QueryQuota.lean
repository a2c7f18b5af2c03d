import ConfluxQuery.Verif.Limits
import Mathlib

/-!
# Queries of a principal over several processes

Every process counts the queries of a principal in its own registry, and no permit of the shared
store stands for a query. So the queries of a principal over several processes stay within its limit
in runs in which it starts a query while no other process has an active one of its own, nothing is
inserted between a call's count and its insertion, and cancelling calls meet running queries.
-/

namespace ConfluxQuery

section

variable {S : Type}

/-- A record is a query of a principal that has not reached a terminal state. -/
def QueryRecord.runningFor (principal : String) (record : QueryRecord) : Bool :=
  record.owner == principal && !record.data.state.terminal

/-- Number of a principal's queries at a process that have not reached a terminal state. -/
def World.runningCount (world : World S) (place : Nat) (principal : String) : Nat :=
  (world.nodes place).records.countListed (QueryRecord.runningFor principal)

/-- Whoever inserts a query of the principal at one of the nodes carries its limit, nothing of the
kind was inserted there since it counted, and no other node has an active query of the principal;
cancelling calls meet running queries. -/
def RunsTogether (nodes : Finset Nat) (principal : String) (limit : Nat) (world : World S)
    (past : Past S) : Upcoming gatewayOps Nat Reading Request ServiceError Answer → Bool
  | .performs caller (.records (.insert record)) _ =>
    record.owner != principal || decide (caller.place ∉ nodes) ||
      (caller.request.principal.all fun acting => acting.maxConcurrentQueries == limit) &&
      (activeGate S caller.place principal).undisturbed caller.thread past &&
      decide (∀ node ∈ nodes, node ≠ caller.place → world.activeCount node principal = 0)
  | next => CancelsRunning world past next

variable {nodes : Finset Nat} {principal : String} {limit : Nat} {world : World S} {past : Past S}

/-- The condition asks what the lifecycle of queries asks. -/
theorem RunsTogether.cancelsRunning
    {next : Upcoming gatewayOps Nat Reading Request ServiceError Answer}
    (met : RunsTogether nodes principal limit world past next = true) :
    CancelsRunning world past next = true := by
  unfold RunsTogether at met
  split at met
  · simp [CancelsRunning]
  · exact met

variable [ClusterStateStore S Payload] {gateways : Nat → Gateway} {store : S}

/-- The active queries of a principal stay within its limit over the nodes. -/
theorem active_total_bounded
    (history : History (gatewayMachine S gateways) (admissionProtocol gateways)
      (RunsTogether nodes principal limit · · ·) (World.initial store) world past) :
    ∑ node ∈ nodes, world.activeCount node principal ≤ limit := by
  have lawful : ∀ node, (activeGate S node principal).Lawful (gatewayMachine S gateways)
      fun world => (world.nodes node).records.Listed := fun node => activeGate_lawful node principal
  induction history with
  | initial => exact Nat.le_trans (Nat.le_of_eq (Finset.sum_eq_zero fun _ _ => rfl)) (Nat.zero_le _)
  | arrives _ _ _ _ _ step => exact step
  | returns _ _ _ _ _ _ _ step => exact step
  | @performs before older caller act input outcome held known _ allowed handled met step =>
    have listed := fun node => (lawful node).holds (initial_listed store node) held
    by_cases inserts : ∃ record, act = .records (.insert record) ∧ record.owner = principal ∧
        caller.place ∈ nodes
    · -- The query is admitted where all active ones are, below the limit.
      obtain ⟨record, rfl, rfl, member⟩ := inserts
      simp only [RunsTogether, bne_self_eq_false, Bool.false_or, member, not_true_eq_false,
        decide_false, Bool.and_eq_true, decide_eq_true_eq] at met
      obtain ⟨⟨called, alone⟩, idle⟩ := met
      obtain ⟨acting, operation, active, _, request, _, counted, room, _⟩ := allowed
      have limited : acting.maxConcurrentQueries = limit := by
        simpa [request, Request.principal] using called
      have within := (lawful caller.place).measure_le (initial_listed store _) held known rfl alone
        counted
      have added := (lawful caller.place).one handled (listed caller.place)
      have others : ∀ node ∈ nodes, node ≠ caller.place →
          outcome.world.activeCount node record.owner = 0 := by
        intro node inside apart
        have fewer := (lawful node).keeps handled (listed node) fun here => absurd here.symm apart
        exact Nat.le_zero.mp (Nat.le_trans fewer (Nat.le_of_eq (idle node inside apart)))
      rw [Finset.sum_eq_single_of_mem caller.place member others]
      exact Nat.le_trans added (by omega)
    · refine Nat.le_trans (Finset.sum_le_sum fun node member => ?_) step
      refine (lawful node).keeps handled (listed node) fun here => ?_
      by_contra admits
      obtain ⟨record, same, owner⟩ := activeGate_admits (Bool.not_eq_false _ ▸ admits)
      exact inserts ⟨record, same, owner, here ▸ member⟩

/-- A query that has not reached a terminal state is active, when cancelling calls meet running
queries only. -/
theorem running_active
    (history : GatewayHistory gateways (CancelsRunning · · ·) (World.initial store) world past)
    (place : Nat) (principal : String) :
    world.runningCount place principal ≤ world.activeCount place principal := by
  unfold World.runningCount World.activeCount Records.countListed
  refine Registry.count_le_of_lookup fun id reference present running => ⟨reference, present, ?_⟩
  obtain ⟨record, found, _⟩ := records_listed history place id reference present
  simp only [Records.satisfies, found, Option.any_some, QueryRecord.runningFor,
    QueryRecord.activeFor, QueryRecord.active, Bool.and_eq_true, Bool.not_eq_true',
    Option.isNone_iff_eq_none] at running ⊢
  refine ⟨running.1, ?_⟩
  rcases records_inPlace history found with ⟨open_, _⟩ | ⟨isOver, _⟩
  · exact open_.uncompleted
  · rw [isOver.state] at running
    cases running.2

/-- In a run in which a principal's queries are inserted while no other node has an active one,
nothing is inserted between a call's count and its insertion, and cancelling calls meet running
queries, the queries of the principal that have not reached a terminal state stay within its limit
over all the nodes. -/
theorem cluster_query_quota [LawfulStore S] (gateways : Nat → Gateway) (store : S)
    (schedule : Schedule) (nodes : Finset Nat) (principal : String) (limit : Nat)
    (met : RunMeets gateways (RunsTogether nodes principal limit · · ·) store schedule) :
    ∑ node ∈ nodes, (gatewayRun gateways store schedule).world.runningCount node principal ≤
      limit := by
  have cancelling : RunMeets gateways (CancelsRunning · · ·) store schedule :=
    met.mono fun _ _ _ => RunsTogether.cancelsRunning
  calc
    _ ≤ ∑ node ∈ nodes, (gatewayRun gateways store schedule).world.activeCount node principal :=
      Finset.sum_le_sum fun node _ => running_active (gatewayRun_history cancelling) node principal
    _ ≤ limit :=
      active_total_bounded (Machine.run_history (admission_obeys gateways) schedule met)

end

namespace Sample

/-- A query at the first node, in a shared session. -/
def firstQuery : Schedule :=
  arrivesAt 0 (.createSessionClustered "demo" ∅) ++ steps 0 15 reading ++
    arrivesAt 0 (.submitSessionQueryClustered "qcli_20260101_0000_01" "select 1") ++
    steps 1 21 reading

/-- Another query at the second node, in the same session. -/
def secondQuery : Schedule :=
  arrivesAt 1 (.submitSessionQueryClustered "qcli_20260101_0000_01" "select 2") ++
    steps 4 23 { reading with uuid := "2" }

end Sample

set_option maxRecDepth 20000 in
/-- A query at the second node after the one at the first has ended meets the condition of
`cluster_query_quota`. -/
theorem second_query_after_first_meets :
    let world := (gatewayRun Sample.pair (.empty : MemoryState Payload)
      (Sample.firstQuery ++ Sample.steps 2 4 Sample.reading ++ Sample.secondQuery)).world
    (world.recordCount 0 = 1 ∧ world.runningCount 1 "alice" = 1) ∧
      ∑ node ∈ {0, 1}, world.runningCount node "alice" ≤ 1 :=
  ⟨by decide +kernel, cluster_query_quota _ _ _ {0, 1} "alice" 1 (by decide +kernel)⟩

set_option maxRecDepth 20000 in
/-- A query at the second node is admitted while the one at the first runs. -/
theorem second_query_exceeds_quota :
    let world := (gatewayRun Sample.pair (.empty : MemoryState Payload)
      (Sample.firstQuery ++ Sample.secondQuery)).world
    Sample.limited.maxConcurrentQueries <
      ∑ node ∈ {0, 1}, world.runningCount node Sample.limited.id := by
  decide +kernel

end ConfluxQuery
