import ConfluxQuery.Lib.Prog

/-!
# Programs running side by side

A machine gives every operation of an interface its effect on a shared world and every request the
program that serves it. A pool runs any number of such programs at once: a schedule chooses, step
after step, which new request arrives and which waiting program performs its next operation, and it
supplies the input that operation reads from outside (a clock, a fault). The pool keeps its whole
past, so that a property of runs is a property of a finite history. An operation that cannot be
performed yet (a lock that is held) leaves the pool as it is.
-/

/-- What performing an operation does: its reply, the world after it, and the request it starts, if
any. -/
structure Outcome (S : Signature) (σ κ : Type) (act : S.Op) where
  /-- Reply to the program that asked. -/
  reply : S.Reply act
  world : σ
  /-- Request the operation starts at the same place. -/
  spawned : Option κ := none

/-- The meaning of an interface: `handle` performs operations at a place and `program` serves
requests there. A request is `client` when it may arrive from outside. -/
structure Machine (S : Signature) (σ π ι κ ε ρ : Type) where
  /-- Perform an operation, or refuse it for now. -/
  handle : π → ι → (act : S.Op) → σ → Option (Outcome S σ κ act)
  /-- The program that serves a request. -/
  program : π → κ → Prog S ε ρ
  /-- Requests that arrive from outside, rather than from an operation. -/
  client : κ → Bool

/-- One call: its number, where it runs and what it asks. -/
structure Actor (π κ : Type) where
  /-- Number of the call, in order of arrival. -/
  thread : Nat
  place : π
  request : κ

/-- One event of a run. -/
inductive Moment (S : Signature) (σ π ι κ ε ρ : Type) : Type
  | started (actor : Actor π κ)
  | did (actor : Actor π κ) (act : S.Op) (input : ι) (reply : S.Reply act) (before : σ)
  | returned (actor : Actor π κ) (outcome : Except ε ρ)

/-- A choice of the schedule: a request arrives, or a call takes its next step. -/
inductive Choice (π ι κ : Type) : Type
  | start (place : π) (request : κ)
  | step (thread : Nat) (input : ι)

/-- A call in progress. -/
structure Thread (S : Signature) (π κ ε ρ : Type) where
  place : π
  request : κ
  prog : Prog S ε ρ
  returned : Bool

/-- The world, the calls in order of arrival and the past, the newest moment first. -/
structure Pool (S : Signature) (σ π ι κ ε ρ : Type) where
  world : σ
  /-- Calls, each at the position of its number. -/
  threads : List (Thread S π κ ε ρ)
  /-- Everything that has happened, the newest moment first. -/
  past : List (Moment S σ π ι κ ε ρ)

/-- What a choice is about to do: start a call, perform an operation of one, or return from one. -/
inductive Upcoming (S : Signature) (π ι κ ε ρ : Type) : Type
  | starts (actor : Actor π κ)
  | performs (actor : Actor π κ) (act : S.Op) (input : ι)
  | returns (actor : Actor π κ) (outcome : Except ε ρ)

section

variable {S : Signature} {σ π ι κ ε ρ : Type}

/-- The operations one call has performed, the newest first. -/
def trailOf (thread : Nat) : List (Moment S σ π ι κ ε ρ) → Trail S
  | [] => []
  | .did actor act _ reply _ :: rest =>
    if actor.thread = thread then ⟨act, reply⟩ :: trailOf thread rest else trailOf thread rest
  | .started _ :: rest => trailOf thread rest
  | .returned _ _ :: rest => trailOf thread rest

namespace Machine

variable (machine : Machine S σ π ι κ ε ρ)

/-- A pool in which nothing has happened. -/
def initial (world : σ) : Pool S σ π ι κ ε ρ := ⟨world, [], []⟩

/-- Add a call. -/
def spawn (place : π) (pool : Pool S σ π ι κ ε ρ) (request : κ) : Pool S σ π ι κ ε ρ :=
  { pool with
    threads := pool.threads ++ [⟨place, request, machine.program place request, false⟩]
    past := .started ⟨pool.threads.length, place, request⟩ :: pool.past }

/-- One choice of the schedule. -/
def advance (pool : Pool S σ π ι κ ε ρ) : Choice π ι κ → Pool S σ π ι κ ε ρ
  | .start place request =>
    if machine.client request then machine.spawn place pool request else pool
  | .step number input =>
    match pool.threads[number]? with
    | none => pool
    | some thread =>
      let actor : Actor π κ := ⟨number, thread.place, thread.request⟩
      let leave (outcome : Except ε ρ) : Pool S σ π ι κ ε ρ :=
        if thread.returned then pool
        else
          { pool with
            threads := pool.threads.set number { thread with returned := true }
            past := .returned actor outcome :: pool.past }
      match thread.prog with
      | .ret value => leave (.ok value)
      | .fail error => leave (.error error)
      | .op act next =>
        match machine.handle thread.place input act pool.world with
        | none => pool
        | some outcome =>
          let after : Pool S σ π ι κ ε ρ :=
            ⟨outcome.world, pool.threads.set number { thread with prog := next outcome.reply },
              .did actor act input outcome.reply pool.world :: pool.past⟩
          match outcome.spawned with
          | none => after
          | some request => machine.spawn thread.place after request

/-- A whole schedule. -/
def run (pool : Pool S σ π ι κ ε ρ) (choices : List (Choice π ι κ)) : Pool S σ π ι κ ε ρ :=
  choices.foldl machine.advance pool

/-- What a choice would do next; nothing when it has no effect. -/
def upcoming (pool : Pool S σ π ι κ ε ρ) : Choice π ι κ → Option (Upcoming S π ι κ ε ρ)
  | .start place request =>
    if machine.client request then some (.starts ⟨pool.threads.length, place, request⟩) else none
  | .step number input =>
    match pool.threads[number]? with
    | none => none
    | some thread =>
      let actor : Actor π κ := ⟨number, thread.place, thread.request⟩
      match thread.prog with
      | .ret value => if thread.returned then none else some (.returns actor (.ok value))
      | .fail error => if thread.returned then none else some (.returns actor (.error error))
      | .op act _ =>
        if (machine.handle thread.place input act pool.world).isSome then
          some (.performs actor act input)
        else none

/-- Every choice of a schedule meets a condition on the world and the past before it. -/
def Meets (condition : σ → List (Moment S σ π ι κ ε ρ) → Upcoming S π ι κ ε ρ → Prop) :
    Pool S σ π ι κ ε ρ → List (Choice π ι κ) → Prop
  | _, [] => True
  | pool, choice :: rest =>
    (∀ next, machine.upcoming pool choice = some next → condition pool.world pool.past next) ∧
      Meets condition (machine.advance pool choice) rest

/-- Whether a schedule meets a decidable condition can be computed. -/
instance decidableMeets
    (condition : σ → List (Moment S σ π ι κ ε ρ) → Upcoming S π ι κ ε ρ → Prop)
    [∀ world past next, Decidable (condition world past next)] :
    (pool : Pool S σ π ι κ ε ρ) → (choices : List (Choice π ι κ)) →
      Decidable (machine.Meets condition pool choices)
  | _, [] => isTrue trivial
  | pool, choice :: rest =>
    have : Decidable (∀ next, machine.upcoming pool choice = some next →
        condition pool.world pool.past next) :=
      match upcoming : machine.upcoming pool choice with
      | none => isTrue fun _ same => by cases same
      | some next =>
        decidable_of_iff (condition pool.world pool.past next) (by simp)
    have := decidableMeets condition (machine.advance pool choice) rest
    instDecidableAnd

end Machine

end
