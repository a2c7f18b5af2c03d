import ConfluxQuery.Lib.Pool

/-!
# Programs that run by themselves

A program that runs alone performs its operations one after another, with no other program in
between. Its outcome and the world after it are then functions of the world before it; there is no
outcome when an operation cannot be performed. Running alone composes along sequences.
-/

variable {S : Signature} {σ π ι κ ε ρ α β : Type}

/-- Run a program alone, with the outcome and the world after it. -/
def Prog.alone (handle : (act : S.Op) → σ → Option (Outcome S σ κ act)) :
    Prog S ε α → σ → Option (Except ε α × σ)
  | .ret value, world => some (.ok value, world)
  | .fail error, world => some (.error error, world)
  | .op act next, world =>
    match handle act world with
    | none => none
    | some outcome => (next outcome.reply).alone handle outcome.world

namespace Prog

variable {handle : (act : S.Op) → σ → Option (Outcome S σ κ act)} {world : σ}

/-- What follows a program that ended: the next one with its value, or its error. -/
def resume (handle : (act : S.Op) → σ → Option (Outcome S σ κ act)) (next : α → Prog S ε β) :
    Except ε α × σ → Option (Except ε β × σ)
  | (.ok value, world) => (next value).alone handle world
  | (.error error, world) => some (.error error, world)

@[simp] theorem resume_ok (next : α → Prog S ε β) (value : α) :
    resume handle next (.ok value, world) = (next value).alone handle world := rfl

@[simp] theorem resume_error (next : α → Prog S ε β) (error : ε) :
    resume handle next (.error error, world) = some (.error error, world) := rfl

@[simp] theorem alone_bind (first : Prog S ε α) (next : α → Prog S ε β) :
    (first >>= next).alone handle world = (first.alone handle world).bind (resume handle next) := by
  induction first generalizing world with
  | ret value => rfl
  | fail error => rfl
  | op act rest step =>
    have unfolded : (op act rest >>= next) = op act fun reply => rest reply >>= next := rfl
    simp only [unfolded, alone]
    cases handle act world with
    | none => rfl
    | some outcome => exact step _

@[simp] theorem alone_attempt (prog : Prog S ε α) :
    prog.attempt.alone handle world =
      (prog.alone handle world).map fun ended => (.ok ended.1, ended.2) := by
  induction prog generalizing world with
  | ret value => rfl
  | fail error => rfl
  | op act rest step =>
    simp only [attempt, alone]
    split
    · rfl
    · exact step _

/-- One operation ends with its reply. -/
@[simp] theorem alone_perform (act : S.Op) :
    (perform act : Prog S ε (S.Reply act)).alone handle world =
      (handle act world).map fun outcome => (.ok outcome.reply, outcome.world) := by
  simp only [perform, alone]
  cases handle act world <;> rfl

@[simp] theorem alone_ensure (test : Bool) (error : ε) :
    (ensure test error : Prog S ε Unit).alone handle world =
      some (if test then .ok () else .error error, world) := by
  cases test <;> rfl

@[simp] theorem alone_lift (outcome : Except ε α) :
    (lift outcome : Prog S ε α).alone handle world = some (outcome, world) := by
  cases outcome <;> rfl

@[simp] theorem alone_okOr (error : ε) (value : Option α) :
    (okOr error value : Prog S ε α).alone handle world =
      some (value.elim (.error error) .ok, world) := by
  cases value <;> rfl

end Prog

