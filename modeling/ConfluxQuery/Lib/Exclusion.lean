import ConfluxQuery.Lib.History

/-!
# A lock that is held over several steps

Most operations on guarded state take its lock for themselves alone. A call may also take the lock,
work under it in several steps and give it back. When every call does so in that order, at most one
call at a place holds the lock, no one else touches the guarded state meanwhile, and what the holder
has found out about it stays true until it gives the lock back.
-/

/-- What an operation has to do with a lock: it takes the lock to keep it, works under it, gives it
back, takes it for itself alone, or has nothing to do with it. -/
inductive LockRole
  | takes
  | under
  | gives
  | brief
  | apart
  deriving DecidableEq, Repr

section

variable {S : Signature} {σ π ι κ ε ρ α : Type} (role : S.Op → LockRole)

/-- A call holds the lock: it has taken it and not given it back. -/
def holding : Trail S → Bool
  | [] => false
  | step :: rest =>
    match role step.1 with
    | .takes => true
    | .gives => false
    | .under | .brief | .apart => holding rest

/-- An operation comes in order: what is done under the lock is done by a holder, and a holder does
not wait for the lock. -/
def Orderly (trail : Trail S) (act : S.Op) : Prop :=
  match role act with
  | .under | .gives => holding role trail = true
  | .takes | .brief => holding role trail = false
  | .apart => True

/-- A machine has a lock at every place: it is free when it is taken and held after that, and only
giving it back frees it. -/
structure Locking (machine : Machine S σ π ι κ ε ρ) (held : π → σ → Prop) : Prop where
  /-- The lock is free when it is taken. -/
  waits : ∀ {place input act world outcome}, machine.handle place input act world = some outcome →
    role act = .takes ∨ role act = .brief → ¬held place world
  taken : ∀ {place input act world outcome}, machine.handle place input act world = some outcome →
    role act = .takes → held place outcome.world
  /-- It stays held under it and apart from it. -/
  kept : ∀ {place input act world outcome}, machine.handle place input act world = some outcome →
    role act = .under ∨ role act = .apart → held place world → held place outcome.world
  /-- It stays held whatever is done at other places. -/
  elsewhere : ∀ {place other input act world outcome},
    machine.handle place input act world = some outcome → other ≠ place → held other world →
      held other outcome.world

variable {role}

variable {act : S.Op} {trail : Trail S}

/-- A step that is not about holding leaves it as it is. -/
theorem holding_cons_of_ne {reply : S.Reply act} (keeps : role act ≠ .takes)
    (stays : role act ≠ .gives) :
    holding role (⟨act, reply⟩ :: trail) = holding role trail := by
  cases kind : role act <;> simp_all [holding]

theorem holding_cons_gives {reply : S.Reply act} (gives : role act = .gives) :
    holding role (⟨act, reply⟩ :: trail) = false := by
  simp [holding, gives]

theorem holding_of_cons {reply : S.Reply act} (holds : holding role (⟨act, reply⟩ :: trail) = true)
    (keeps : role act ≠ .takes) :
    holding role trail = true := by
  have stays : role act ≠ .gives := by
    intro gives
    rw [holding_cons_gives gives] at holds
    cases holds
  rwa [holding_cons_of_ne keeps stays] at holds

/-- A program that uses the lock for single steps at most keeps its order, and does not hold it at
the end if it did not at the start. -/
theorem Prog.Avoids.orderly {ε α : Type} {kind : S.Op → Bool} {prog : Prog S ε α}
    (avoids : prog.Avoids kind)
    (single : ∀ act, kind act = false → role act = .brief ∨ role act = .apart)
    (free : holding role trail = false) {allowed : Trail S → S.Op → Prop}
    (order : ∀ trail act, kind act = false → Orderly role trail act → allowed trail act) :
    Follows ⟨allowed, fun _ _ => True⟩ prog trail fun later _ => holding role later = false := by
  induction avoids generalizing trail with
  | ret value => exact free
  | fail error => exact free
  | @op act next other _ step =>
    refine ⟨order trail act other ?_, fun reply _ => step reply ?_⟩
    · rcases single act other with brief | apart
      · simpa [Orderly, brief] using free
      · simp [Orderly, apart]
    · have role := single act other
      rw [holding_cons_of_ne (by rcases role with kind | kind <;> simp [kind])
        (by rcases role with kind | kind <;> simp [kind])]
      exact free

/-- A holder that stays one works under the lock or apart from it. -/
theorem Orderly.stays {reply : S.Reply act} (orderly : Orderly role trail act)
    (holds : holding role trail = true) (still : holding role (⟨act, reply⟩ :: trail) = true) :
    role act = .under ∨ role act = .apart := by
  unfold Orderly at orderly
  cases kind : role act with
  | under => exact .inl rfl
  | apart => exact .inr rfl
  | gives =>
    rw [holding_cons_gives kind] at still
    cases still
  | takes | brief =>
    rw [kind] at orderly
    rw [holds] at orderly
    cases orderly

variable {machine : Machine S σ π ι κ ε ρ} {protocol : Protocol S π κ ε ρ}
  {condition : σ → List (Moment S σ π ι κ ε ρ) → Upcoming S π ι κ ε ρ → Prop} {world₀ world : σ}
  {past : List (Moment S σ π ι κ ε ρ)} {held : π → σ → Prop}

/-- The calls that hold the lock: it is held where they are, and no two of them are at one place. -/
structure Exclusion (role : S.Op → LockRole) (held : π → σ → Prop) (world : σ)
    (past : List (Moment S σ π ι κ ε ρ)) : Prop where
  locked : ∀ actor : Actor π κ, .started actor ∈ past →
    holding role (trailOf actor.thread past) = true → held actor.place world
  one : ∀ first second : Actor π κ, .started first ∈ past → .started second ∈ past →
    first.place = second.place → holding role (trailOf first.thread past) = true →
      holding role (trailOf second.thread past) = true → first = second

/-- A holder that does not act keeps the lock through an operation of another call, and the
operation is at another place or apart from the lock. -/
theorem Exclusion.undisturbed (exclusion : Exclusion role held world past)
    (locking : Locking role machine held) {doing actor : Actor π κ} {input : ι}
    {outcome : Outcome S σ κ act} (known : .started doing ∈ past) (started : .started actor ∈ past)
    (other : actor ≠ doing) (orderly : Orderly role (trailOf doing.thread past) act)
    (handled : machine.handle doing.place input act world = some outcome)
    (holds : holding role (trailOf actor.thread past) = true) :
    actor.place ≠ doing.place ∨ role act = .apart := by
  by_cases here : actor.place = doing.place
  · refine .inr ?_
    have locked : held doing.place world := here ▸ exclusion.locked actor started holds
    unfold Orderly at orderly
    cases kind : role act with
    | takes => exact absurd locked (locking.waits handled (.inl kind))
    | brief => exact absurd locked (locking.waits handled (.inr kind))
    | under | gives =>
      rw [kind] at orderly
      exact absurd (exclusion.one actor doing started known here holds orderly) other
    | apart => rfl
  · exact .inl here

namespace History

theorem trailOf_fresh (history : History machine protocol condition world₀ world past) :
    trailOf (calls past) past = [] :=
  trailOf_eq_nil fun _ _ _ _ _ done same =>
    absurd (history.started_lt (history.did_started done)) (by omega)

variable {actor : Actor π κ}

/-- A call that has performed something had started before the newest operation. -/
theorem started_before (history : History machine protocol condition world₀ world past)
    {doing : Actor π κ} {act : S.Op} {input : ι} {reply : S.Reply act} {spawned : Option κ}
    (known : .started doing ∈ past)
    (started : .started actor ∈ begun doing.place spawned (.did doing act input reply world ::
      past))
    (busy : trailOf actor.thread (.did doing act input reply world :: past) ≠ []) :
    .started actor ∈ past := by
  rcases mem_begun.mp started with before | ⟨request, _, same⟩
  · exact (List.mem_cons.mp before).resolve_left nofun
  · cases same
    have other : doing.thread ≠ calls past := Nat.ne_of_lt (history.started_lt known)
    refine absurd ?_ busy
    rw [trailOf_did, calls, if_neg other]
    exact history.trailOf_fresh

theorem busy_of_holding {trail : Trail S} (holds : holding role trail = true) : trail ≠ [] := by
  rintro rfl
  cases holds

/-- Who holds the lock after an operation held it before, or has just taken it. -/
theorem holding_before (history : History machine protocol condition world₀ world past)
    {doing : Actor π κ} {act : S.Op} {input : ι} {reply : S.Reply act}
    (known : .started doing ∈ past) (started : .started actor ∈ past)

    (holds : holding role (trailOf actor.thread (.did doing act input reply world :: past)) =
      true) :
    holding role (trailOf actor.thread past) = true ∨ actor = doing ∧ role act = .takes := by
  rw [trailOf_did] at holds
  split at holds
  · next same =>
    obtain rfl := history.started_unique _ _ known started same
    by_cases takes : role act = .takes
    · exact .inr ⟨rfl, takes⟩
    · exact .inl (holding_of_cons holds takes)
  · exact .inl holds

/-- When every call keeps the order of the lock, no two calls at a place hold it. -/
theorem exclusion (history : History machine protocol condition world₀ world past)
    (orderly : ∀ place request trail act, protocol.allowed place request trail act →
      Orderly role trail act) (locking : Locking role machine held) :
    Exclusion role held world past := by
  induction history with
  | initial => exact ⟨fun _ started => absurd started List.not_mem_nil,
      fun _ _ started => absurd started List.not_mem_nil⟩
  | @arrives world past place request history client met step =>
    have before : ∀ actor : Actor π κ, .started actor ∈ enter place past request →
        holding role (trailOf actor.thread past) = true → .started actor ∈ past := by
      intro actor started holds
      rcases List.mem_cons.mp started with fresh | earlier
      · cases fresh
        exact absurd history.trailOf_fresh (busy_of_holding holds)
      · exact earlier
    exact ⟨fun actor started holds => step.locked actor (before actor started holds) holds,
      fun first second one other same holds holds' =>
        step.one first second (before first one holds) (before second other holds') same holds
          holds'⟩
  | @returns world past actor result history known _ _ _ step =>
    have before : ∀ other : Actor π κ, .started other ∈ .returned actor result :: past →
        .started other ∈ past := fun other started =>
      (List.mem_cons.mp started).resolve_left nofun
    exact ⟨fun other started => step.locked other (before other started),
      fun first second one other => step.one first second (before first one) (before second other)⟩
  | @performs world past doing act input outcome history known running allowed handled met step =>
    have order := orderly _ _ _ _ allowed
    have before : ∀ actor : Actor π κ, .started actor ∈ begun doing.place outcome.spawned
        (.did doing act input outcome.reply world :: past) →
        holding role (trailOf actor.thread (begun doing.place outcome.spawned
          (.did doing act input outcome.reply world :: past))) = true →
        .started actor ∈ past ∧ (holding role (trailOf actor.thread past) = true ∨
          actor = doing ∧ role act = .takes) := by
      intro actor started holds
      rw [trailOf_begun] at holds
      have started := history.started_before known started (busy_of_holding holds)
      exact ⟨started, history.holding_before known started holds⟩
    -- Who has just taken the lock found it free, so no one else at the place held it.
    have free : role act = .takes → ∀ actor : Actor π κ, .started actor ∈ past →
        actor.place = doing.place → holding role (trailOf actor.thread past) = false := by
      intro takes actor started here
      refine Bool.eq_false_iff.mpr fun holds => locking.waits handled (.inl takes) ?_
      exact here ▸ step.locked actor started holds
    refine ⟨fun actor started holds => ?_, fun first second one other same holds holds' => ?_⟩
    · obtain ⟨known', held' | ⟨rfl, takes⟩⟩ := before actor started holds
      · have locked := step.locked actor known' held'
        by_cases own : actor = doing
        · subst own
          rw [trailOf_begun, trailOf_did, if_pos rfl] at holds
          exact locking.kept handled (order.stays held' holds) locked
        · rcases step.undisturbed locking known known' own order handled held' with away | apart
          · exact locking.elsewhere handled away locked
          · by_cases here : actor.place = doing.place
            · exact here ▸ locking.kept handled (.inr apart) (here ▸ locked)
            · exact locking.elsewhere handled here locked
      · exact locking.taken handled takes
    · obtain ⟨known₁, first' | ⟨rfl, takes⟩⟩ := before first one holds
      · obtain ⟨known₂, second' | ⟨rfl, takes⟩⟩ := before second other holds'
        · exact step.one first second known₁ known₂ same first' second'
        · rw [free takes first known₁ same] at first'
          cases first'
      · obtain ⟨known₂, second' | ⟨rfl, _⟩⟩ := before second other holds'
        · rw [free takes second known₂ same.symm] at second'
          cases second'
        · rfl

/-- What a holder has found out stays true while it holds the lock: it is so when it takes the lock,
its own operations keep it, and so do operations at other places and operations apart from the lock.
-/
theorem guarded (history : History machine protocol condition world₀ world past)
    (orderly : ∀ place request trail act, protocol.allowed place request trail act →
      Orderly role trail act)
    (locking : Locking role machine held) (fact : π → Trail S → σ → Prop)
    (takes : ∀ {place input act world outcome trail}, machine.handle place input act world =
      some outcome → role act = .takes → fact place (⟨act, outcome.reply⟩ :: trail) outcome.world)
    (own : ∀ {place input act world outcome trail}, machine.handle place input act world =
      some outcome → role act = .under ∨ role act = .apart → fact place trail world →
      fact place (⟨act, outcome.reply⟩ :: trail) outcome.world)
    (others : ∀ {place away input act world outcome trail}, machine.handle place input act world =
      some outcome → away ≠ place ∨ role act = .apart → fact away trail world →
      fact away trail outcome.world)
    (started : .started actor ∈ past) (holds : holding role (trailOf actor.thread past) = true) :
    fact actor.place (trailOf actor.thread past) world := by
  induction history generalizing actor with
  | initial => exact absurd started List.not_mem_nil
  | @arrives world past place request history client met step =>
    rcases List.mem_cons.mp started with fresh | earlier
    · cases fresh
      exact absurd history.trailOf_fresh (busy_of_holding holds)
    · exact step earlier holds
  | @returns world past other result history known _ _ _ step =>
    exact step ((List.mem_cons.mp started).resolve_left nofun) holds
  | @performs world past doing act input outcome history known running allowed handled met step =>
    have order := orderly _ _ _ _ allowed
    rw [trailOf_begun] at holds ⊢
    have earlier := history.started_before known started (busy_of_holding holds)
    by_cases acts : doing = actor
    · subst acts
      rw [trailOf_did, if_pos rfl] at holds ⊢
      by_cases taking : role act = .takes
      · exact takes handled taking
      · have before := holding_of_cons holds taking
        exact own handled (order.stays before holds) (step known before)
    · have apart : doing.thread ≠ actor.thread := fun same =>
        acts (history.started_unique _ _ known earlier same)
      rw [trailOf_did, if_neg apart] at holds ⊢
      have exclusion := history.exclusion orderly locking
      exact others handled (exclusion.undisturbed locking known earlier (Ne.symm acts) order handled
        holds) (step earlier holds)

end History

end
