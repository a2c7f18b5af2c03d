import Mathlib

/-!
# Programs over an interface

A program is a tree of requests to its environment: each node asks for one operation of an
interface and continues with the reply, each leaf is a value or an error. An operation stands for
one indivisible step, so a program says where another program may run in between. `Follows` gives
the meaning of pre- and postconditions for such trees without fixing what the environment does: it
speaks about the operations the program asks for and the replies it has seen, and it composes along
`bind`.
-/

theorem Except.bind_eq_ok {ε α β : Type} {first : Except ε α} {next : α → Except ε β} {value : β} :
    first >>= next = .ok value ↔ ∃ middle, first = .ok middle ∧ next middle = .ok value := by
  constructor
  · intro same
    cases first with
    | error reason => cases same
    | ok middle => exact ⟨middle, rfl, same⟩
  · rintro ⟨middle, rfl, same⟩
    exact same

/-- The operations a program may ask for, each with the type of its reply. -/
structure Signature where
  Op : Type
  Reply : Op → Type

/-- A program that asks for operations of `S` and ends with a value or an error. -/
inductive Prog (S : Signature) (ε α : Type) : Type
  | ret (value : α)
  | fail (error : ε)
  | op (act : S.Op) (next : S.Reply act → Prog S ε α)

namespace Prog

variable {S : Signature} {ε α β : Type}

/-- Continue a program with its value; an error ends both. -/
def bind : Prog S ε α → (α → Prog S ε β) → Prog S ε β
  | ret value, next => next value
  | fail error, _ => fail error
  | op act rest, next => op act fun reply => (rest reply).bind next

instance : Monad (Prog S ε) where
  pure := ret
  bind := bind

/-- Ask for one operation and return its reply. -/
def perform (act : S.Op) : Prog S ε (S.Reply act) := op act ret

/-- Run a program and return its outcome, error or value, as a value. -/
def attempt : Prog S ε α → Prog S ε (Except ε α)
  | ret value => ret (.ok value)
  | fail error => ret (.error error)
  | op act rest => op act fun reply => (rest reply).attempt

/-- End with the outcome of a fallible computation. -/
def lift : Except ε α → Prog S ε α
  | .ok value => ret value
  | .error error => fail error

/-- The value of an option, or an error in its absence. -/
def okOr (error : ε) : Option α → Prog S ε α
  | some value => ret value
  | none => fail error

/-- Go on only when a test holds. -/
def ensure (test : Bool) (error : ε) : Prog S ε Unit :=
  if test then ret () else fail error

/-- Run a program over each entry of a list, in order. -/
def each (body : α → Prog S ε Unit) : List α → Prog S ε Unit
  | [] => ret ()
  | head :: rest => (body head).bind fun _ => each body rest

/-- The outcome of a finished program. -/
def result : Prog S ε α → Option (Except ε α)
  | ret value => some (.ok value)
  | fail error => some (.error error)
  | op _ _ => none

end Prog

/-- The operations one program has performed with their replies, the newest first. -/
abbrev Trail (S : Signature) : Type := List (Σ act : S.Op, S.Reply act)

/-- Run a program against an environment that answers each operation by what the program has
performed before, with everything performed and the outcome. -/
def Prog.against {S : Signature} {ε α : Type} (respond : Trail S → (act : S.Op) → S.Reply act) :
    Prog S ε α → Trail S → Trail S × Except ε α
  | .ret value, trail => (trail, .ok value)
  | .fail error, trail => (trail, .error error)
  | .op act next, trail =>
    (next (respond trail act)).against respond (⟨act, respond trail act⟩ :: trail)

theorem Prog.against_bind {S : Signature} {ε α β : Type}
    {respond : Trail S → (act : S.Op) → S.Reply act} {first : Prog S ε β} {next : β → Prog S ε α}
    {trail : Trail S} :
    (first >>= next).against respond trail =
      match first.against respond trail with
      | (longer, .ok value) => (next value).against respond longer
      | (longer, .error error) => (longer, .error error) := by
  induction first generalizing trail with
  | ret value => rfl
  | fail error => rfl
  | op act rest step => exact step (respond trail act)

/-- A program that begins with an operation goes on with its reply. -/
theorem Prog.against_perform_bind {S : Signature} {ε α : Type}
    {respond : Trail S → (act : S.Op) → S.Reply act} (act : S.Op)
    {next : S.Reply act → Prog S ε α} {trail : Trail S} :
    (Prog.perform act >>= next).against respond trail =
      (next (respond trail act)).against respond (⟨act, respond trail act⟩ :: trail) :=
  rfl

/-- A rule on programs: which operations are allowed after a trail, which replies the environment
can give, and what an outcome must satisfy. -/
structure Rule (S : Signature) where
  /-- The operation may be asked for after this trail. -/
  allowed : Trail S → S.Op → Prop
  /-- The environment may give this reply. -/
  possible : (act : S.Op) → S.Reply act → Prop

/-- Two rules at once. -/
def Rule.both {S : Signature} (one other : Rule S) : Rule S where
  allowed trail act := one.allowed trail act ∧ other.allowed trail act
  possible act reply := one.possible act reply ∧ other.possible act reply

/-- A program that has performed `trail` keeps to the rule whatever replies it gets, and ends in an
outcome that satisfies `post`. -/
def Follows {S : Signature} {ε α : Type} (rule : Rule S) :
    Prog S ε α → Trail S → (Trail S → Except ε α → Prop) → Prop
  | .ret value, trail, post => post trail (.ok value)
  | .fail error, trail, post => post trail (.error error)
  | .op act next, trail, post => rule.allowed trail act ∧
      ∀ reply, rule.possible act reply → Follows rule (next reply) (⟨act, reply⟩ :: trail) post

namespace Follows

variable {S : Signature} {ε α β : Type} {rule : Rule S} {trail : Trail S}
  {post : Trail S → Except ε α → Prop}

variable {prog : Prog S ε α} {next : β → Prog S ε α}

/-- A program that keeps to a rule ends as it must against every environment the rule allows. -/
theorem against {respond : Trail S → (act : S.Op) → S.Reply act}
    (follows : Follows rule prog trail post)
    (possible : ∀ trail act, rule.possible act (respond trail act)) :
    post (prog.against respond trail).1 (prog.against respond trail).2 := by
  induction prog generalizing trail with
  | ret value => exact follows
  | fail error => exact follows
  | op act next step => exact step _ (follows.2 _ (possible trail act))

/-- A rule that allows everything is followed by every program. -/
theorem always (allowed : ∀ trail act, rule.allowed trail act)
    (ended : ∀ longer outcome, post longer outcome) : Follows rule prog trail post := by
  induction prog generalizing trail with
  | ret value => exact ended _ _
  | fail error => exact ended _ _
  | op act next step => exact ⟨allowed _ _, fun reply _ => step reply⟩

theorem mono {weaker : Trail S → Except ε α → Prop} (follows : Follows rule prog trail post)
    (weaken : ∀ longer outcome, trail <:+ longer → post longer outcome → weaker longer outcome) :
    Follows rule prog trail weaker := by
  induction prog generalizing trail with
  | ret value => exact weaken trail _ List.suffix_rfl follows
  | fail error => exact weaken trail _ List.suffix_rfl follows
  | op act next step =>
    refine ⟨follows.1, fun reply possible => step reply (follows.2 reply possible) ?_⟩
    intro longer outcome grown
    exact weaken longer outcome ((List.suffix_cons _ _).trans grown)

theorem imp {other : Rule S} (follows : Follows rule prog trail post)
    (allowed : ∀ trail act, rule.allowed trail act → other.allowed trail act)
    (possible : ∀ act reply, other.possible act reply → rule.possible act reply) :
    Follows other prog trail post := by
  induction prog generalizing trail with
  | ret value => exact follows
  | fail error => exact follows
  | op act next step =>
    refine ⟨allowed _ _ follows.1, fun reply held => ?_⟩
    exact step reply (follows.2 reply (possible act reply held))

/-- A program that keeps to two rules keeps to both at once. -/
theorem both {other : Rule S} {post' : Trail S → Except ε α → Prop}
    (one : Follows rule prog trail post) (two : Follows other prog trail post') :
    Follows (rule.both other) prog trail fun longer outcome =>
      post longer outcome ∧ post' longer outcome := by
  induction prog generalizing trail with
  | ret value => exact ⟨one, two⟩
  | fail error => exact ⟨one, two⟩
  | op act next step =>
    refine ⟨⟨one.1, two.1⟩, fun reply possible => ?_⟩
    exact step reply (one.2 reply possible.1) (two.2 reply possible.2)

/-- A sequence keeps to the rule when its first part does and its second part does from every
value the first can return. -/
theorem bind {middle : Trail S → Except ε β → Prop} {first : Prog S ε β}
    (follows : Follows rule first trail middle)
    (value : ∀ longer result, trail <:+ longer → middle longer (.ok result) →
      Follows rule (next result) longer post)

    (error : ∀ longer reason, trail <:+ longer → middle longer (.error reason) →
      post longer (.error reason)) :
    Follows rule (first >>= next) trail post := by
  induction first generalizing trail with
  | ret result => exact value trail result List.suffix_rfl follows
  | fail reason => exact error trail reason List.suffix_rfl follows
  | op act rest step =>
    refine ⟨follows.1, fun reply possible => step reply (follows.2 reply possible) ?_ ?_⟩
    · intro longer result grown
      exact value longer result ((List.suffix_cons _ _).trans grown)
    · intro longer reason grown
      exact error longer reason ((List.suffix_cons _ _).trans grown)

/-- One operation followed by the rest of the program. -/
theorem perform {act : S.Op} {next : S.Reply act → Prog S ε α} (allowed : rule.allowed trail act)
    (rest : ∀ reply, rule.possible act reply →
      Follows rule (next reply) (⟨act, reply⟩ :: trail) post) :
    Follows rule (Prog.perform act >>= next) trail post :=
  ⟨allowed, rest⟩

theorem lift {outcome : Except ε α} (holds : post trail outcome) :
    Follows rule (Prog.lift outcome) trail post := by
  cases outcome <;> exact holds

/-- A loop over a list keeps to the rule when its body does from every trail with the loop's
invariant and keeps the invariant. -/
theorem each {body : α → Prog S ε Unit} {entries : List α} {invariant : Trail S → Prop}
    (entry : invariant trail)
    (step : ∀ head ∈ entries, ∀ before, trail <:+ before → invariant before →
      Follows rule (body head) before (fun after outcome => outcome = .ok () ∧ invariant after)) :
    Follows rule (Prog.each body entries) trail
      (fun after outcome => outcome = .ok () ∧ invariant after) := by
  induction entries generalizing trail with
  | nil => exact ⟨rfl, entry⟩
  | cons head rest tail =>
    refine Follows.bind (step head List.mem_cons_self trail List.suffix_rfl entry) ?_ ?_
    · intro longer _ grown held
      exact tail held.2 fun later member before after =>
        step later (List.mem_cons_of_mem _ member) before (grown.trans after)
    · intro longer reason grown held
      exact absurd held.1 (by simp)

@[simp] theorem pure_iff {value : α} :
    Follows rule (pure value) trail post ↔ post trail (.ok value) := Iff.rfl

@[simp] theorem fail_iff {error : ε} :
    Follows rule (.fail error) trail post ↔ post trail (.error error) := Iff.rfl

/-- One operation on its own. -/
@[simp] theorem perform_iff {act : S.Op} {post : Trail S → Except ε (S.Reply act) → Prop} :
    Follows rule (Prog.perform act) trail post ↔ rule.allowed trail act ∧
      ∀ reply, rule.possible act reply → post (⟨act, reply⟩ :: trail) (.ok reply) := Iff.rfl

@[simp] theorem bind_iff {first : Prog S ε β} :
    Follows rule (first >>= next) trail post ↔
      Follows rule first trail (fun longer outcome => match outcome with
        | .ok value => Follows rule (next value) longer post
        | .error error => post longer (.error error)) := by
  induction first generalizing trail with
  | ret value => exact Iff.rfl
  | fail error => exact Iff.rfl
  | op act rest step =>
    exact and_congr_right fun _ => forall_congr' fun reply => imp_congr_right fun _ => step reply

@[simp] theorem map_iff {prog : Prog S ε β} {change : β → α} :
    Follows rule (change <$> prog) trail post ↔
      Follows rule prog trail (fun longer outcome => post longer (outcome.map change)) := by
  induction prog generalizing trail with
  | ret value => exact Iff.rfl
  | fail error => exact Iff.rfl
  | op act rest step =>
    exact and_congr_right fun _ => forall_congr' fun reply => imp_congr_right fun _ => step reply

@[simp] theorem attempt_iff {post : Trail S → Except ε (Except ε α) → Prop} :
    Follows rule prog.attempt trail post ↔
      Follows rule prog trail (fun longer outcome => post longer (.ok outcome)) := by
  induction prog generalizing trail with
  | ret value => exact Iff.rfl
  | fail error => exact Iff.rfl
  | op act rest step =>
    exact and_congr_right fun _ => forall_congr' fun reply => imp_congr_right fun _ => step reply

@[simp] theorem lift_iff {outcome : Except ε α} :
    Follows rule (Prog.lift outcome) trail post ↔ post trail outcome := by
  cases outcome <;> exact Iff.rfl

@[simp] theorem okOr_iff {error : ε} {value : Option α} :
    Follows rule (Prog.okOr error value) trail post ↔
      (∀ found, value = some found → post trail (.ok found)) ∧
        (value = none → post trail (.error error)) := by
  cases value <;> simp [Prog.okOr, Follows]

/-- A reply that may fail and may be empty, and what is made of its value. -/
theorem found {δ : Type} {reply : Except δ (Option β)} {change : δ → ε} {missing : ε}
    (present : ∀ value, reply = .ok (some value) → Follows rule (next value) trail post)
    (failed : ∀ error, post trail (.error error)) :
    Follows rule (do
      let read ← Prog.lift (reply.mapError change)
      let value ← Prog.okOr missing read
      next value) trail post := by
  refine bind_iff.mpr (lift_iff.mpr ?_)
  cases reply with
  | error reason => exact failed _
  | ok read =>
    refine bind_iff.mpr (okOr_iff.mpr ⟨fun value same => ?_, fun _ => failed _⟩)
    exact present value (congrArg Except.ok same)

@[simp] theorem ensure_iff {test : Bool} {error : ε} {post : Trail S → Except ε Unit → Prop} :
    Follows rule (Prog.ensure test error) trail post ↔
      (test = true → post trail (.ok ())) ∧ (test = false → post trail (.error error)) := by
  cases test <;> simp [Prog.ensure, Follows]

end Follows

/-- A program may end with a value. -/
inductive Prog.Returns {S : Signature} {ε α : Type} : Prog S ε α → α → Prop
  | ret (value : α) : Returns (.ret value) value
  | op {act : S.Op} {next : S.Reply act → Prog S ε α} {value : α} (reply : S.Reply act)
      (rest : Returns (next reply) value) : Returns (.op act next) value

/-- A program performs no operation of a kind, whatever replies it gets. -/
inductive Prog.Avoids {S : Signature} {ε α : Type} (kind : S.Op → Bool) : Prog S ε α → Prop
  | ret (value : α) : Avoids kind (.ret value)
  | fail (error : ε) : Avoids kind (.fail error)
  | op {act : S.Op} {next : S.Reply act → Prog S ε α} (other : kind act = false)
      (rest : ∀ reply, Avoids kind (next reply)) : Avoids kind (.op act next)

namespace Prog.Avoids

variable {S : Signature} {ε α β : Type} {kind : S.Op → Bool}

/-- A value performs nothing. -/
@[simp] theorem pure {value : α} : (pure value : Prog S ε α).Avoids kind := .ret value

/-- An error performs nothing. -/
@[simp] theorem error {error : ε} : (.fail error : Prog S ε α).Avoids kind := .fail error

@[simp] theorem lift {outcome : Except ε α} : (Prog.lift outcome : Prog S ε α).Avoids kind := by
  cases outcome with
  | error reason => exact .fail reason
  | ok value => exact .ret value

@[simp] theorem okOr {error : ε} {value : Option α} :
    (Prog.okOr error value : Prog S ε α).Avoids kind := by
  cases value with
  | none => exact .fail error
  | some value => exact .ret value

/-- Go on only when a test holds. -/
@[simp] theorem ensure {test : Bool} {error : ε} :
    (Prog.ensure test error : Prog S ε Unit).Avoids kind := by
  cases test with
  | false => exact .fail error
  | true => exact .ret ()

/-- One operation on its own. -/
@[simp] theorem perform_iff {act : S.Op} :
    (Prog.perform act : Prog S ε (S.Reply act)).Avoids kind ↔ kind act = false := by
  constructor
  · intro avoids
    cases avoids with
    | op other _ => exact other
  · exact fun other => .op other fun reply => .ret reply

theorem op_iff {act : S.Op} {next : S.Reply act → Prog S ε α} :
    (Prog.op act next).Avoids kind ↔ kind act = false ∧ ∀ reply, (next reply).Avoids kind := by
  constructor
  · intro avoids
    cases avoids with
    | op other rest => exact ⟨other, rest⟩
  · exact fun ⟨other, rest⟩ => .op other rest

/-- A sequence avoids a kind when its first part does and its second part does after every value the
first can end with. -/
@[simp] theorem bind_iff {first : Prog S ε β} {next : β → Prog S ε α} :
    (first >>= next).Avoids kind ↔
      first.Avoids kind ∧ ∀ value, first.Returns value → (next value).Avoids kind := by
  induction first with
  | ret value =>
    constructor
    · intro avoids
      refine ⟨.ret value, fun other returns => ?_⟩
      cases returns
      exact avoids
    · exact fun both => both.2 value (.ret value)
  | fail error =>
    exact ⟨fun _ => ⟨.fail error, fun _ returns => nomatch returns⟩, fun _ => .fail error⟩
  | op act rest step =>
    change (Prog.op act fun reply => rest reply >>= next).Avoids kind ↔ _
    rw [op_iff, op_iff, and_assoc]
    refine and_congr_right fun _ => (forall_congr' step).trans ?_
    constructor
    · refine fun each => ⟨fun reply => (each reply).1, fun value returns => ?_⟩
      cases returns with
      | op reply returns => exact (each reply).2 value returns
    · exact fun both reply => ⟨both.1 reply, fun value returns => both.2 value (.op reply returns)⟩

@[simp] theorem map_iff {prog : Prog S ε β} {change : β → α} :
    (change <$> prog).Avoids kind ↔ prog.Avoids kind := by
  change (prog >>= fun value => Pure.pure (change value)).Avoids kind ↔ _
  simp

variable {prog : Prog S ε α}

@[simp] theorem attempt_iff :
    prog.attempt.Avoids kind ↔ prog.Avoids kind := by
  induction prog with
  | ret value => exact ⟨fun _ => .ret value, fun _ => .ret _⟩
  | fail error => exact ⟨fun _ => .fail error, fun _ => .ret _⟩
  | op act next step =>
    rw [op_iff, Prog.attempt, op_iff]
    exact and_congr_right fun _ => forall_congr' step

@[simp] theorem each {body : α → Prog S ε Unit} {entries : List α}
    (avoids : ∀ entry, (body entry).Avoids kind) : (Prog.each body entries).Avoids kind := by
  induction entries with
  | nil => exact .ret ()
  | cons head rest step => exact bind_iff.mpr ⟨avoids head, fun _ _ => step⟩

/-- A program that avoids a kind avoids every narrower one. -/
theorem imp {narrower : S.Op → Bool} (avoids : prog.Avoids kind)
    (within : ∀ act, narrower act = true → kind act = true) : prog.Avoids narrower := by
  induction avoids with
  | ret value => exact .ret value
  | fail error => exact .fail error
  | op other _ step =>
    refine op_iff.mpr ⟨?_, step⟩
    by_contra inside
    exact absurd (other.symm.trans (within _ (by simpa using inside))) nofun

/-- A program that avoids a kind keeps to any rule that only restricts that kind, and adds nothing
of the kind to the trail. -/
theorem follows (avoids : prog.Avoids kind) {rule : Rule S}
    (free : ∀ trail act, kind act = false → rule.allowed trail act) {trail : Trail S}
    {post : Trail S → Except ε α → Prop}

    (ended : ∀ newer outcome, (∀ entry ∈ newer, kind entry.1 = false) →
      post (newer ++ trail) outcome) :
    Follows rule prog trail post := by
  induction avoids generalizing trail with
  | ret value => exact ended [] _ fun _ member => absurd member List.not_mem_nil
  | fail error => exact ended [] _ fun _ member => absurd member List.not_mem_nil
  | @op act next other _ step =>
    refine ⟨free _ _ other, fun reply _ => step reply fun newer outcome plain => ?_⟩
    have longer := ended (newer ++ [⟨act, reply⟩]) outcome fun entry member => by
      rcases List.mem_append.mp member with old | new
      · exact plain entry old
      · rw [List.mem_singleton.mp new]
        exact other
    simpa using longer

end Prog.Avoids

/-- A program keeps to a rule after any trail, whatever it ends in. -/
structure Prog.Keeps {S : Signature} {ε α : Type} (rule : Rule S) (prog : Prog S ε α) : Prop where
  follows : ∀ trail, Follows rule prog trail fun _ _ => True

namespace Prog.Keeps

variable {S : Signature} {ε α β : Type} {rule : Rule S}

theorem of_avoids {kind : S.Op → Bool} {prog : Prog S ε α}
    (free : ∀ trail act, kind act = false → rule.allowed trail act) (avoids : prog.Avoids kind) :
    prog.Keeps rule :=
  ⟨fun _ => avoids.follows free fun _ _ _ => trivial⟩

/-- Every program keeps to a rule that allows everything. -/
theorem free (allowed : ∀ trail act, rule.allowed trail act) (prog : Prog S ε α) :
    prog.Keeps rule := by
  refine ⟨fun trail => ?_⟩
  induction prog generalizing trail with
  | ret | fail => trivial
  | op act next step => exact ⟨allowed trail act, fun reply _ => step reply _⟩

theorem bind {first : Prog S ε β} {next : β → Prog S ε α} (one : first.Keeps rule)
    (other : ∀ value, (next value).Keeps rule) : (first >>= next).Keeps rule :=
  ⟨fun trail => (one.follows trail).bind (fun longer value _ _ => (other value).follows longer)
    fun _ _ _ _ => trivial⟩

/-- A mapped program keeps to a rule when the program does. -/
theorem map {prog : Prog S ε β} {change : β → α} (keeps : prog.Keeps rule) :
    (change <$> prog).Keeps rule :=
  ⟨fun trail => Follows.map_iff.mpr (keeps.follows trail)⟩

/-- An attempt keeps to a rule when the attempted program does. -/
theorem attempt {prog : Prog S ε α} (keeps : prog.Keeps rule) : prog.attempt.Keeps rule :=
  ⟨fun trail => Follows.attempt_iff.mpr (keeps.follows trail)⟩

theorem perform {act : S.Op} (allowed : ∀ trail, rule.allowed trail act) :
    (Prog.perform act : Prog S ε (S.Reply act)).Keeps rule :=
  ⟨fun trail => ⟨allowed trail, fun _ _ => trivial⟩⟩

end Prog.Keeps
