import ConfluxQuery.Lib.History

/-!
# Bounds that are checked before they are used

A quantity has a limit, and a call that adds to it reads it first, compares it with the limit and
adds to it in a later step. Other calls run in between, so the comparison alone bounds nothing. It
does when nothing has been added since the call's own reading: a gate names the readings and the
additions, and this module bounds its quantity in histories whose additions are undisturbed.
-/

section

variable {S : Signature} {σ π ι κ ε ρ : Type}

/-- What a call has last read of a quantity. -/
def lastRead (reads : (act : S.Op) → S.Reply act → Option Nat) (trail : Trail S) : Option Nat :=
  trail.findSome? fun step => reads step.1 step.2

theorem lastRead_cons_some {reads : (act : S.Op) → S.Reply act → Option Nat} {act : S.Op}
    {reply : S.Reply act} {trail : Trail S} {count : Nat} (read : reads act reply = some count) :
    lastRead reads (⟨act, reply⟩ :: trail) = some count := by
  simp [lastRead, read]

/-- A step that does not read the quantity leaves the last reading. -/
theorem lastRead_cons_none {reads : (act : S.Op) → S.Reply act → Option Nat} {act : S.Op}
    {reply : S.Reply act} {trail : Trail S} (other : reads act reply = none) :
    lastRead reads (⟨act, reply⟩ :: trail) = lastRead reads trail := by
  simp [lastRead, other]

/-- A quantity at a place, the operations that read it there and those that may add to it. -/
structure Gate (S : Signature) (σ π : Type) where
  place : π
  measure : σ → Nat
  /-- What an operation at that place reads of it. -/
  reads : (act : S.Op) → S.Reply act → Option Nat
  /-- The operation may add to it at that place. -/
  admits : S.Op → Bool

namespace Gate

/-- A machine keeps to a gate in the worlds an invariant describes: readings are exact and add
nothing, additions add at most one, and nothing else adds. -/
structure Lawful (gate : Gate S σ π) (machine : Machine S σ π ι κ ε ρ) (invariant : σ → Prop) :
    Prop where
  /-- Every operation keeps the invariant. -/
  kept : ∀ {place input act world outcome}, machine.handle place input act world = some outcome →
    invariant world → invariant outcome.world
  exact : ∀ {input act world outcome count},
    machine.handle gate.place input act world = some outcome →
    gate.reads act outcome.reply = some count → gate.measure world = count
  /-- A reading is no addition. -/
  apart : ∀ {act reply count}, gate.reads act reply = some count → gate.admits act = false
  /-- One operation adds at most one. -/
  one : ∀ {place input act world outcome}, machine.handle place input act world = some outcome →
    invariant world → gate.measure outcome.world ≤ gate.measure world + 1
  /-- Only additions at the place add. -/
  keeps : ∀ {place input act world outcome}, machine.handle place input act world = some outcome →
    invariant world → (place = gate.place → gate.admits act = false) →
    gate.measure outcome.world ≤ gate.measure world

variable [DecidableEq π]

/-- A call has read the quantity, and nothing was added to it since. -/
def undisturbed (gate : Gate S σ π) (thread : Nat) : List (Moment S σ π ι κ ε ρ) → Bool
  | [] => false
  | .did actor act _ reply _ :: rest =>
    if actor.thread = thread ∧ (gate.reads act reply).isSome then true
    else !(decide (actor.place = gate.place) && gate.admits act) && gate.undisturbed thread rest
  | .started _ :: rest => gate.undisturbed thread rest
  | .returned _ _ :: rest => gate.undisturbed thread rest

/-- A call that starts disturbs no one. -/
theorem undisturbed_begun (gate : Gate S σ π) (thread : Nat) (place : π) (spawned : Option κ)
    (past : List (Moment S σ π ι κ ε ρ)) :
    gate.undisturbed thread (begun place spawned past) = gate.undisturbed thread past := by
  cases spawned <;> rfl

namespace Lawful

variable {gate : Gate S σ π} {machine : Machine S σ π ι κ ε ρ} {invariant : σ → Prop}
  {protocol : Protocol S π κ ε ρ}
  {condition : σ → List (Moment S σ π ι κ ε ρ) → Upcoming S π ι κ ε ρ → Prop} {world₀ world : σ}
  {past : List (Moment S σ π ι κ ε ρ)}

omit [DecidableEq π] in
theorem holds (lawful : gate.Lawful machine invariant) (start : invariant world₀)
    (history : History machine protocol condition world₀ world past) : invariant world := by
  induction history with
  | initial => exact start
  | arrives _ _ _ _ _ step => exact step
  | returns _ _ _ _ _ _ _ step => exact step
  | performs _ _ _ _ _ _ _ _ handled _ step => exact lawful.kept handled step

/-- While nothing is added, the quantity stays within what a call at the place has last read. -/
theorem measure_le_lastRead (lawful : gate.Lawful machine invariant) (start : invariant world₀)
    (history : History machine protocol condition world₀ world past) {thread count : Nat}
    (here : ∀ actor act input reply before, .did actor act input reply before ∈ past →
      actor.thread = thread → actor.place = gate.place)
    (alone : gate.undisturbed thread past = true)
    (read : lastRead gate.reads (trailOf thread past) = some count) :
    gate.measure world ≤ count := by
  induction history with
  | initial => cases alone
  | arrives _ _ _ _ _ step =>
    exact step (fun _ _ _ _ _ member => here _ _ _ _ _ (List.mem_cons_of_mem _ member)) alone read
  | returns _ _ _ _ _ _ _ step =>
    exact step (fun _ _ _ _ _ member => here _ _ _ _ _ (List.mem_cons_of_mem _ member)) alone read
  | @performs before past actor act input outcome held known _ allowed handled met step =>
    have sound := lawful.holds start held
    have earlier : ∀ actor act input reply before, .did actor act input reply before ∈ past →
        actor.thread = thread → actor.place = gate.place := fun _ _ _ _ _ member =>
      here _ _ _ _ _ (mem_begun.mpr (.inl (List.mem_cons_of_mem _ member)))
    rw [undisturbed_begun, undisturbed] at alone
    rw [trailOf_begun, trailOf_did] at read
    cases seen : gate.reads act outcome.reply with
    | some found =>
      by_cases own : actor.thread = thread
      · -- The call's own reading: it is exact, and it adds nothing.
        have place := here _ _ _ _ _ (mem_begun.mpr (.inl List.mem_cons_self)) own
        rw [if_pos own, lastRead_cons_some seen] at read
        cases read
        rw [← lawful.exact (place ▸ handled) seen]
        exact lawful.keeps handled sound fun _ => lawful.apart seen
      · rw [if_neg own] at read
        rw [if_neg fun both => own both.1, Bool.and_eq_true] at alone
        exact Nat.le_trans (lawful.keeps handled sound fun _ => lawful.apart seen)
          (step earlier alone.2 read)
    | none =>
      have same : lastRead gate.reads (trailOf thread past) = some count := by
        split at read
        · rwa [lastRead_cons_none seen] at read
        · exact read
      rw [if_neg (by simp [seen]), Bool.and_eq_true, Bool.not_eq_true', Bool.and_eq_false_iff,
        decide_eq_false_iff_not] at alone
      refine Nat.le_trans (lawful.keeps handled sound fun there => ?_)
        (step earlier alone.2 same)
      exact alone.1.resolve_left fun elsewhere => elsewhere there

/-- A call at the place that adds undisturbed finds no more than it has last read. -/
theorem measure_le (lawful : gate.Lawful machine invariant) (start : invariant world₀)
    (history : History machine protocol condition world₀ world past) {actor : Actor π κ}
    {count : Nat} (known : .started actor ∈ past) (place : actor.place = gate.place)
    (alone : gate.undisturbed actor.thread past = true)
    (read : lastRead gate.reads (trailOf actor.thread past) = some count) :
    gate.measure world ≤ count := by
  refine lawful.measure_le_lastRead start history (fun other _ _ _ _ member own => ?_) alone read
  rw [history.started_unique _ _ (history.did_started member) known own]
  exact place

omit [DecidableEq π] in
/-- A quantity stays within its limit when every addition finds room. -/
theorem bounded (lawful : gate.Lawful machine invariant) (start : invariant world₀) {limit : Nat}
    (low : gate.measure world₀ ≤ limit)
    (room : ∀ {world past actor act input},
      History machine protocol condition world₀ world past → .started actor ∈ past →
      actor.place = gate.place → gate.admits act = true →
      protocol.allowed actor.place actor.request (trailOf actor.thread past) act →
      condition world past (.performs actor act input) → gate.measure world < limit)
    (history : History machine protocol condition world₀ world past) :
    gate.measure world ≤ limit := by
  induction history with
  | initial => exact low
  | arrives _ _ _ _ _ step => exact step
  | returns _ _ _ _ _ _ _ step => exact step
  | @performs before past actor act input outcome held known _ allowed handled met step =>
    have sound := lawful.holds start held
    by_cases adds : actor.place = gate.place ∧ gate.admits act = true
    · have below := room held known adds.1 adds.2 allowed met
      have added := lawful.one handled sound
      omega
    · refine Nat.le_trans (lawful.keeps handled sound fun there => ?_) step
      simpa using fun admitted => adds ⟨there, admitted⟩

end Lawful

end Gate

end
