import ConfluxQuery.Cluster.Memory
import ConfluxQuery.Verif.Handling

/-!
# Runs of gateways

Every run of gateway processes over a lawful store, whatever the schedule and whatever the
environment decides at each step, is a history of the protocol. A small deployment over the
in-memory store stands beside this, for runs that are computed.
-/

namespace ConfluxQuery

/-- The past of a run of gateways. -/
abbrev Past (S : Type) : Type :=
  List (Moment gatewayOps (World S) Nat Reading Request ServiceError Answer)

/-- A condition on the steps of a run of gateways. -/
abbrev Guard (S : Type) : Type :=
  World S → Past S → Upcoming gatewayOps Nat Reading Request ServiceError Answer → Prop

/-- A call of a gateway. -/
abbrev Caller : Type := Actor Nat Request

/-- A schedule of gateways. -/
abbrev Schedule : Type := List (Choice Nat Reading Request)

/-- The pool of calls of gateways. -/
abbrev GatewayPool (S : Type) : Type :=
  Pool gatewayOps (World S) Nat Reading Request ServiceError Answer

section

variable {S : Type} [ClusterStateStore S Payload]

/-- Worlds and pasts that runs of gateways can reach. -/
abbrev GatewayHistory (gateways : Nat → Gateway) (guard : Guard S) (world₀ world : World S)
    (past : Past S) : Prop :=
  History (gatewayMachine S gateways) (gatewayProtocol gateways) guard world₀ world past

/-- Gateways that start over a store and run a schedule. -/
def gatewayRun (gateways : Nat → Gateway) (store : S) (schedule : Schedule) : GatewayPool S :=
  (gatewayMachine S gateways).run (Machine.initial (World.initial store)) schedule

/-- Every step of a schedule meets a condition. -/
abbrev RunMeets (gateways : Nat → Gateway) (guard : Guard S) (store : S) (schedule : Schedule) :
    Prop :=
  (gatewayMachine S gateways).Meets guard (Machine.initial (World.initial store)) schedule

variable {gateways : Nat → Gateway} {guard : Guard S}

/-- Every run of gateways over a lawful store follows the protocol. -/
theorem gatewayRun_follower [LawfulStore S] {store : S} {schedule : Schedule}
    (met : RunMeets gateways guard store schedule) :
    Follower (gatewayMachine S gateways) (gatewayProtocol gateways) guard (World.initial store)
      (gatewayRun gateways store schedule) :=
  follower_initial.run (gateway_obeys gateways) schedule met

/-- Every run meets the condition that asks for nothing. -/
theorem runMeets_trivial (gateways : Nat → Gateway) (store : S) (schedule : Schedule) :
    RunMeets gateways (fun _ _ _ => True) store schedule :=
  Machine.meets_iff.mpr fun _ _ _ _ _ _ => trivial

/-- Every run of gateways over a lawful store is a history of the protocol. -/
theorem gatewayRun_history [LawfulStore S] {store : S} {schedule : Schedule}
    (met : RunMeets gateways guard store schedule) :
    GatewayHistory gateways guard (World.initial store) (gatewayRun gateways store schedule).world
      (gatewayRun gateways store schedule).past :=
  (gatewayRun_follower met).history

/-- A call that has returned is explained by what it has performed. -/
theorem returned_explained {world₀ world : World S} {past : Past S}
    (history : GatewayHistory gateways guard world₀ world past) {caller : Caller}
    {outcome : Except ServiceError Answer} (returned : .returned caller outcome ∈ past)
    {principal : AuthenticatedPrincipal} {operation : Operation}
    (called : caller.request = .call principal operation) :
    ∃ seen : Seen, Explained (gateways caller.place) principal operation seen outcome ∧
      ∀ {act : Op} {reply : act.Reply}, seen.Saw act reply → Done past caller act reply := by
  obtain ⟨seen, post, done⟩ := history.returned_post returned
  exact ⟨seen, post principal operation called, done⟩

/-- Whatever was replied is possible. -/
theorem done_possible [LawfulStore S] {world₀ world : World S} {past : Past S}
    (history : GatewayHistory gateways guard world₀ world past) {caller : Caller} {act : Op}
    {reply : act.Reply} (done : Done past caller act reply) : act.Possible reply := by
  obtain ⟨input, before, member⟩ := done
  obtain ⟨newer, older, rfl⟩ := List.append_of_mem member
  obtain ⟨outcome, _, _, _, handled, replied, _⟩ := history.did_split
  exact replied ▸ handle_possible handled

end

namespace Sample

/-- A file system on which everything succeeds. -/
def io : FileIo where
  create := .ok ()
  header := .ok ()
  write _ := .ok ()
  finish := .ok ()
  read file := .ok (file.batches.map .ok)
  roundTrip file reader _ _ opened := by
    cases opened
    refine List.forall₂_map_left_iff.mpr (List.forall₂_same.mpr fun batch _ value same => ?_)
    cases same
    rfl

/-- The first minute of a year. -/
def minute : Minute := ⟨"20260101".toList, "0000".toList, by decide, by decide⟩

/-- A reading at time zero: nothing fails, and the adapter completes without a result. -/
def reading : Reading where
  now := 0
  minute := minute
  uuid := "1"
  user := none
  username := none
  fault := none
  io := io
  run := ⟨[], .ok ()⟩
  prepared := .ok ⟨Schema.empty, Schema.empty⟩
  updated := .ok 0
  polls := 2

/-- A reading in which the shared store cannot be reached. -/
def unreachable : Reading :=
  { reading with fault := some ⟨⟨"unavailable", "connection refused"⟩, false⟩ }

/-- A target with properties. -/
def target (properties : Registry String ConfigValue) : ResolvedTarget :=
  ⟨"demo", "demo", properties⟩

/-- A configuration of one target. -/
def config (target : ResolvedTarget) : Config where
  targets := AList.insert target.name target ∅
  named name found present := by
    rw [Registry.lookup_insert_ite] at present
    split at present
    · next same =>
      cases present
      exact same.symm
    · cases present

/-- A gateway with default limits, alone or in a cluster. -/
def gateway (cluster : Option ClusterContext) : Gateway where
  config := config (target ∅)
  limits := {}
  adapters := AList.insert "demo" ⟨[.preparedStatements]⟩ ∅
  cluster := cluster
  hashPrincipal _ := 0

/-- A principal that may use the target. -/
def alice : AuthenticatedPrincipal := ⟨"alice", {"demo"}, 200, 2⟩

/-- Alice, with one session and one query at a time. -/
def limited : AuthenticatedPrincipal := { alice with maxSessions := 1, maxConcurrentQueries := 1 }

/-- Two nodes of a cluster. -/
def pair (node : Nat) : Gateway := gateway (some ⟨if node = 0 then "a" else "b", 1000⟩)

/-- A call under these limits arrives at a node. -/
def arrivesAt (place : Nat) (operation : Operation) : Schedule :=
  [.start place (.call limited operation)]

/-- Some steps of one call. -/
def steps (thread count : Nat) (input : Reading) : Schedule :=
  List.replicate count (.step thread input)

/-- A call that arrives and takes some steps. -/
def call (place thread count : Nat) (operation : Operation) : Schedule :=
  .start place (.call alice operation) :: steps thread count reading

/-- A run of the sample gateways over an empty in-memory store. -/
def run (cluster : Option ClusterContext) (schedule : Schedule) :
    GatewayPool (MemoryState Payload) :=
  gatewayRun (fun _ => gateway cluster) .empty schedule

end Sample

end ConfluxQuery
