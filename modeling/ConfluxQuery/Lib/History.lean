import ConfluxQuery.Lib.Pool

/-!
# Histories

A history is what a pool's run leaves behind, described without the pool: a world, and a past in
which every operation was allowed by a protocol, performed on the world before it and met a
condition, and every outcome satisfied its postcondition. When each program follows the protocol,
every run of the machine is such a history (`Machine.run_history`). An invariant of all runs is
therefore proved by induction on `History`, one case for an arriving request, one for an operation
and one for a return, without looking at programs again.
-/

section

variable {S : Signature} {σ π ι κ ε ρ : Type}

/-- What the calls of a system keep to: the operations each request allows after its own trail, the
replies operations can have, and what the outcome of each request satisfies. -/
structure Protocol (S : Signature) (π κ ε ρ : Type) where
  /-- Operations a request allows at a place after a trail. -/
  allowed : π → κ → Trail S → S.Op → Prop
  /-- Replies an operation can have. -/
  possible : (act : S.Op) → S.Reply act → Prop
  /-- Outcomes a request can have at a place after a trail. -/
  post : π → κ → Trail S → Except ε ρ → Prop

/-- The rule one request follows. -/
def Protocol.rule (protocol : Protocol S π κ ε ρ) (place : π) (request : κ) : Rule S :=
  ⟨protocol.allowed place request, protocol.possible⟩

/-- Two protocols at once. -/
def Protocol.both (one other : Protocol S π κ ε ρ) : Protocol S π κ ε ρ where
  allowed place request trail act :=
    one.allowed place request trail act ∧ other.allowed place request trail act
  possible act reply := one.possible act reply ∧ other.possible act reply
  post place request trail outcome :=
    one.post place request trail outcome ∧ other.post place request trail outcome

/-- Number of calls that have started. -/
def calls : List (Moment S σ π ι κ ε ρ) → Nat
  | [] => 0
  | .started _ :: rest => calls rest + 1
  | .did _ _ _ _ _ :: rest => calls rest
  | .returned _ _ :: rest => calls rest

/-- The past after one more call has started. -/
def enter (place : π) (past : List (Moment S σ π ι κ ε ρ)) (request : κ) :
    List (Moment S σ π ι κ ε ρ) :=
  .started ⟨calls past, place, request⟩ :: past

/-- The past after an operation has started the call it spawns, if any. -/
def begun (place : π) (spawned : Option κ) (past : List (Moment S σ π ι κ ε ρ)) :
    List (Moment S σ π ι κ ε ρ) :=
  match spawned with
  | none => past
  | some request => enter place past request

/-- Worlds and pasts that follow the protocol and meet the condition at every step. -/
inductive History (machine : Machine S σ π ι κ ε ρ) (protocol : Protocol S π κ ε ρ)
    (condition : σ → List (Moment S σ π ι κ ε ρ) → Upcoming S π ι κ ε ρ → Prop) (world₀ : σ) :
    σ → List (Moment S σ π ι κ ε ρ) → Prop
  | initial : History machine protocol condition world₀ world₀ []
  | arrives {world : σ} {past : List (Moment S σ π ι κ ε ρ)} (place : π) (request : κ)
      (history : History machine protocol condition world₀ world past)
      (client : machine.client request = true)
      (met : condition world past (.starts ⟨calls past, place, request⟩)) :
      History machine protocol condition world₀ world (enter place past request)
  | performs {world : σ} {past : List (Moment S σ π ι κ ε ρ)} (actor : Actor π κ) (act : S.Op)
      (input : ι) (outcome : Outcome S σ κ act)
      (history : History machine protocol condition world₀ world past)
      (known : .started actor ∈ past)
      (running : ∀ result, .returned actor result ∉ past)
      (allowed : protocol.allowed actor.place actor.request (trailOf actor.thread past) act)
      (handled : machine.handle actor.place input act world = some outcome)
      (met : condition world past (.performs actor act input)) :
      History machine protocol condition world₀ outcome.world
        (begun actor.place outcome.spawned (.did actor act input outcome.reply world :: past))
  | returns {world : σ} {past : List (Moment S σ π ι κ ε ρ)} (actor : Actor π κ)
      (result : Except ε ρ)
      (history : History machine protocol condition world₀ world past)
      (known : .started actor ∈ past)
      (running : ∀ result, .returned actor result ∉ past)
      (post : protocol.post actor.place actor.request (trailOf actor.thread past) result)
      (met : condition world past (.returns actor result)) :
      History machine protocol condition world₀ world (.returned actor result :: past)

/-- An operation of one call extends the trail of that call alone. -/
theorem trailOf_did (thread : Nat) (actor : Actor π κ) (act : S.Op) (input : ι)
    (reply : S.Reply act) (before : σ) (past : List (Moment S σ π ι κ ε ρ)) :
    trailOf thread (.did actor act input reply before :: past) =
      if actor.thread = thread then ⟨act, reply⟩ :: trailOf thread past
      else trailOf thread past := rfl

theorem trailOf_append (thread : Nat) (newer older : List (Moment S σ π ι κ ε ρ)) :
    trailOf thread (newer ++ older) = trailOf thread newer ++ trailOf thread older := by
  induction newer with
  | nil => rfl
  | cons moment rest step =>
    cases moment with
    | started | returned => exact step
    | did actor act input reply before =>
      rw [List.cons_append, trailOf_did, trailOf_did, step]
      split <;> rfl

theorem mem_trailOf {thread : Nat} {act : S.Op} {reply : S.Reply act}
    {past : List (Moment S σ π ι κ ε ρ)} (member : ⟨act, reply⟩ ∈ trailOf thread past) :
    ∃ actor input before, actor.thread = thread ∧
      .did actor act input reply before ∈ past := by
  induction past with
  | nil => exact absurd member List.not_mem_nil
  | cons moment rest step =>
    cases moment with
    | started actor =>
      obtain ⟨other, input, before, same, found⟩ := step member
      exact ⟨other, input, before, same, List.mem_cons_of_mem _ found⟩
    | returned actor outcome =>
      obtain ⟨other, input, before, same, found⟩ := step member
      exact ⟨other, input, before, same, List.mem_cons_of_mem _ found⟩
    | did actor performed input answer before =>
      rw [trailOf_did] at member
      split at member
      · next same =>
        rcases List.mem_cons.mp member with head | tail
        · cases head
          exact ⟨actor, input, before, same, List.mem_cons_self⟩
        · obtain ⟨other, input, earlier, agrees, found⟩ := step tail
          exact ⟨other, input, earlier, agrees, List.mem_cons_of_mem _ found⟩
      · obtain ⟨other, input, earlier, agrees, found⟩ := step member
        exact ⟨other, input, earlier, agrees, List.mem_cons_of_mem _ found⟩

/-- A step of a trail is an operation of the past, performed after the rest of the trail. -/
theorem trailOf_split {thread : Nat} {act : S.Op} {reply : S.Reply act} {newest rest : Trail S}
    {past : List (Moment S σ π ι κ ε ρ)}
    (split : trailOf thread past = newest ++ ⟨act, reply⟩ :: rest) :
    ∃ newer actor input before older, past = newer ++ .did actor act input reply before :: older ∧
      actor.thread = thread ∧ trailOf thread older = rest := by
  induction past generalizing newest with
  | nil => simp [trailOf] at split
  | cons moment earlier step =>
    have skip {steps : Trail S} (same : trailOf thread earlier = steps ++ ⟨act, reply⟩ :: rest) :
        ∃ newer actor input before older, moment :: earlier =
          newer ++ .did actor act input reply before :: older ∧
          actor.thread = thread ∧ trailOf thread older = rest := by
      obtain ⟨newer, actor, input, before, older, split, found⟩ := step same
      exact ⟨moment :: newer, actor, input, before, older, by rw [split]; rfl, found⟩
    cases moment with
    | started actor => exact skip split
    | returned actor outcome => exact skip split
    | did actor performed input answer before =>
      rw [trailOf_did] at split
      split_ifs at split with same
      · cases newest with
        | nil =>
          cases split
          exact ⟨[], actor, input, before, earlier, rfl, same, rfl⟩
        | cons head tail => exact skip (List.cons.inj split).2
      · exact skip split

@[simp] theorem trailOf_begun (thread : Nat) (place : π) (spawned : Option κ)
    (past : List (Moment S σ π ι κ ε ρ)) :
    trailOf thread (begun place spawned past) = trailOf thread past := by
  cases spawned <;> rfl

/-- A call has performed an operation and got a reply. -/
def Done (past : List (Moment S σ π ι κ ε ρ)) (actor : Actor π κ) (act : S.Op)
    (reply : S.Reply act) : Prop :=
  ∃ input before, .did actor act input reply before ∈ past

@[simp] theorem done_enter {place : π} {past : List (Moment S σ π ι κ ε ρ)} {request : κ}
    {actor : Actor π κ} {act : S.Op} {reply : S.Reply act} :
    Done (enter place past request) actor act reply ↔ Done past actor act reply := by
  simp [Done, enter]

@[simp] theorem done_returned {past : List (Moment S σ π ι κ ε ρ)} {result : Except ε ρ}
    {returning actor : Actor π κ} {act : S.Op} {reply : S.Reply act} :
    Done (.returned returning result :: past) actor act reply ↔ Done past actor act reply := by
  simp [Done]

variable {spawned : Option κ}

/-- What has been performed after one more operation. -/
@[simp] theorem done_did {place : π} {past : List (Moment S σ π ι κ ε ρ)} {doing actor : Actor π κ}
    {act done : S.Op} {input : ι} {reply : S.Reply act} {answer : S.Reply done} {before : σ} :
    Done (begun place spawned (.did doing act input reply before :: past)) actor done answer ↔
      (actor = doing ∧ (⟨done, answer⟩ : Σ act : S.Op, S.Reply act) = ⟨act, reply⟩) ∨
        Done past actor done answer := by
  have unspawned : Done (begun place spawned (.did doing act input reply before :: past)) actor
      done answer ↔ Done (.did doing act input reply before :: past) actor done answer := by
    cases spawned <;> simp [begun]
  rw [unspawned]
  constructor
  · rintro ⟨input', before', member⟩
    rcases List.mem_cons.mp member with head | tail
    · cases head
      exact .inl ⟨rfl, rfl⟩
    · exact .inr ⟨input', before', tail⟩
  · rintro (⟨rfl, same⟩ | ⟨input', before', member⟩)
    · cases same
      exact ⟨input, before, List.mem_cons_self⟩
    · exact ⟨input', before', List.mem_cons_of_mem _ member⟩

/-- The past with a spawned call is the past before it and the start of that call. -/
theorem mem_begun {place : π} {past : List (Moment S σ π ι κ ε ρ)} {moment : Moment S σ π ι κ ε ρ} :
    moment ∈ begun place spawned past ↔
      moment ∈ past ∨ ∃ request, spawned = some request ∧
        moment = .started ⟨calls past, place, request⟩ := by
  cases spawned <;> simp [begun, enter, or_comm]

/-- What is not the start of a call is found below the call that an operation has spawned. -/
theorem split_begun {place : π} {newer older past : List (Moment S σ π ι κ ε ρ)}
    {moment : Moment S σ π ι κ ε ρ} (same : newer ++ moment :: older = begun place spawned past)
    (other : ∀ actor, moment ≠ .started actor) :
    ∃ rest, rest ++ moment :: older = past ∧ rest <:+ newer := by
  cases spawned with
  | none => exact ⟨newer, same, List.suffix_rfl⟩
  | some request =>
    cases newer with
    | nil => exact absurd (List.cons.inj same).1 (other _)
    | cons head tail => exact ⟨tail, (List.cons.inj same).2, List.suffix_cons head tail⟩

namespace History

variable {machine : Machine S σ π ι κ ε ρ} {protocol : Protocol S π κ ε ρ}
  {condition : σ → List (Moment S σ π ι κ ε ρ) → Upcoming S π ι κ ε ρ → Prop} {world₀ world : σ}
  {past : List (Moment S σ π ι κ ε ρ)}

variable {actor : Actor π κ} {act : S.Op} {input : ι} {before : σ} {result : Except ε ρ}
  {newer older : List (Moment S σ π ι κ ε ρ)}

theorem started_lt (history : History machine protocol condition world₀ world past)
    (known : .started actor ∈ past) : actor.thread < calls past := by
  induction history generalizing actor with
  | initial => exact absurd known List.not_mem_nil
  | arrives place request _ _ _ step =>
    rcases List.mem_cons.mp known with head | tail
    · cases head
      exact Nat.lt_succ_self _
    · exact Nat.lt_succ_of_lt (step tail)
  | @performs _ _ other _ _ outcome _ _ _ _ _ _ step =>
    cases spawned : outcome.spawned with
    | none =>
      rw [spawned] at known
      exact step (by simpa [begun] using known)
    | some request =>
      rw [spawned] at known
      rcases List.mem_cons.mp known with head | tail
      · cases head
        exact Nat.lt_succ_self _
      · exact Nat.lt_succ_of_lt (step (by simpa using tail))
  | returns other result _ _ _ _ _ step =>
    exact step (by simpa using known)

/-- A call that starts takes a number no earlier call has. -/
theorem enter_unique {place : π} {request : κ}
    (below : ∀ actor : Actor π κ, .started actor ∈ past → actor.thread < calls past)
    (unique : ∀ first second : Actor π κ, .started first ∈ past → .started second ∈ past →
      first.thread = second.thread → first = second)
    (first second : Actor π κ) (one : .started first ∈ enter place past request)
    (other : .started second ∈ enter place past request) (same : first.thread = second.thread) :
    first = second := by
  rcases List.mem_cons.mp one with head | tail <;> rcases List.mem_cons.mp other with head' | tail'
  · cases head
    cases head'
    rfl
  · cases head
    have lower := below second tail'
    simp only at same
    omega
  · cases head'
    have lower := below first tail
    simp only at same
    omega
  · exact unique first second tail tail' same

/-- A call is determined by its number. -/
theorem started_unique (history : History machine protocol condition world₀ world past)
    (first second : Actor π κ) (one : .started first ∈ past) (other : .started second ∈ past)
    (same : first.thread = second.thread) : first = second := by
  induction history generalizing first second with
  | initial => exact absurd one List.not_mem_nil
  | arrives place request held _ _ step =>
    exact enter_unique (fun _ => held.started_lt) step first second one other same
  | @performs before earlier actor act _ outcome held _ _ _ _ _ step =>
    cases spawned : outcome.spawned with
    | none =>
      rw [spawned] at one other
      exact step _ _ (by simpa [begun] using one) (by simpa [begun] using other) same
    | some request =>
      rw [spawned] at one other
      refine enter_unique ?_ ?_ first second one other same
      · intro other member
        exact held.started_lt (by simpa using member)
      · intro first second one other same
        exact step _ _ (by simpa using one) (by simpa using other) same
  | returns _ _ _ _ _ _ _ step =>
    exact step _ _ (by simpa using one) (by simpa using other) same

theorem did_started (history : History machine protocol condition world₀ world past)
    {reply : S.Reply act} (done : .did actor act input reply before ∈ past) :
    .started actor ∈ past := by
  induction history with
  | initial => exact absurd done List.not_mem_nil
  | arrives _ _ _ _ _ step => exact List.mem_cons_of_mem _ (step (by simpa [enter] using done))
  | performs other _ _ _ _ known _ _ _ _ step =>
    rw [mem_begun] at done ⊢
    rcases done with old | ⟨request, _, impossible⟩
    · rcases List.mem_cons.mp old with head | tail
      · cases head
        exact .inl (List.mem_cons_of_mem _ known)
      · exact .inl (List.mem_cons_of_mem _ (step tail))
    · cases impossible
  | returns _ _ _ _ _ _ _ step => exact List.mem_cons_of_mem _ (step (by simpa using done))

theorem returned_started (history : History machine protocol condition world₀ world past)
    (done : .returned actor result ∈ past) :
    .started actor ∈ past := by
  induction history with
  | initial => exact absurd done List.not_mem_nil
  | arrives _ _ _ _ _ step => exact List.mem_cons_of_mem _ (step (by simpa [enter] using done))
  | performs _ _ _ _ _ _ _ _ _ _ step =>
    rw [mem_begun] at done ⊢
    rcases done with old | ⟨request, _, impossible⟩
    · exact .inl (List.mem_cons_of_mem _ (step (by simpa using old)))
    · cases impossible
  | returns other _ _ known _ _ _ step =>
    rcases List.mem_cons.mp done with head | tail
    · cases head
      exact List.mem_cons_of_mem _ known
    · exact List.mem_cons_of_mem _ (step tail)

/-- A history of a protocol is one of every protocol that asks for less. -/
theorem imp {weaker : Protocol S π κ ε ρ}
    (history : History machine protocol condition world₀ world past)
    (allowed : ∀ {place request trail act}, protocol.allowed place request trail act →
      weaker.allowed place request trail act)
    (post : ∀ {place request trail outcome}, protocol.post place request trail outcome →
      weaker.post place request trail outcome) :
    History machine weaker condition world₀ world past := by
  induction history with
  | initial => exact .initial
  | arrives place request _ client met step => exact .arrives place request step client met
  | performs actor act input outcome _ known running permitted handled met step =>
    exact .performs actor act input outcome step known running (allowed permitted) handled met
  | returns actor result _ known running ended met step =>
    exact .returns actor result step known running (post ended) met

theorem left {other : Protocol S π κ ε ρ}
    (history : History machine (protocol.both other) condition world₀ world past) :
    History machine protocol condition world₀ world past :=
  history.imp And.left And.left

theorem right {other : Protocol S π κ ε ρ}
    (history : History machine (protocol.both other) condition world₀ world past) :
    History machine other condition world₀ world past :=
  history.imp And.right And.right

/-- Whatever happened, happened after a history: the operation was allowed and performed on the
world of its time, and met the condition then. -/
theorem did_split {reply : S.Reply act}

    (history : History machine protocol condition world₀ world (newer ++ .did actor act input reply
      before :: older)) :
    ∃ outcome, History machine protocol condition world₀ before older ∧
      .started actor ∈ older ∧
      protocol.allowed actor.place actor.request (trailOf actor.thread older) act ∧
      machine.handle actor.place input act before = some outcome ∧ outcome.reply = reply ∧
      condition before older (.performs actor act input) := by
  generalize same : newer ++ .did actor act input reply before :: older = past at history
  induction history generalizing newer with
  | initial => simp at same
  | arrives place request _ _ _ step =>
    cases newer with
    | nil => cases same
    | cons head tail => exact step (List.cons.inj same).2
  | @performs now earlier other act' input' outcome held known _ allowed handled met step =>
    obtain ⟨rest, same, _⟩ := split_begun same (by simp)
    cases rest with
    | nil =>
      cases same
      exact ⟨outcome, held, known, allowed, handled, rfl, met⟩
    | cons head tail => exact step (List.cons.inj same).2
  | returns _ _ _ _ _ _ _ step =>
    cases newer with
    | nil => cases same
    | cons head tail => exact step (List.cons.inj same).2

/-- A step of a call was performed after a history in which the call's trail was the rest of it. -/
theorem step_split (history : History machine protocol condition world₀ world past)
    (known : .started actor ∈ past) {reply : S.Reply act} {rest : Trail S}
    (suffix : ⟨act, reply⟩ :: rest <:+ trailOf actor.thread past) :
    ∃ newer older input before outcome,
      past = newer ++ .did actor act input reply before :: older ∧
      trailOf actor.thread older = rest ∧
      machine.handle actor.place input act before = some outcome ∧ outcome.reply = reply ∧
      condition before older (.performs actor act input) := by
  obtain ⟨newest, split⟩ := suffix
  obtain ⟨newer, doing, input, before, older, rfl, same, tail⟩ := trailOf_split split.symm
  have started := history.did_started (List.mem_append_right newer List.mem_cons_self)
  obtain rfl := history.started_unique _ _ started known same
  obtain ⟨outcome, _, _, _, handled, replied, met⟩ := history.did_split
  exact ⟨newer, older, input, before, outcome, rfl, tail, handled, replied, met⟩

/-- The newest step of a call was performed after a history in which its trail was the rest. -/
theorem newest (history : History machine protocol condition world₀ world past)
    (known : .started actor ∈ past) {reply : S.Reply act} {rest : Trail S}
    (trail : trailOf actor.thread past = ⟨act, reply⟩ :: rest) :
    ∃ newer older input before outcome,
      past = newer ++ .did actor act input reply before :: older ∧
      trailOf actor.thread older = rest ∧
      machine.handle actor.place input act before = some outcome ∧ outcome.reply = reply ∧
      condition before older (.performs actor act input) :=
  history.step_split known (trail ▸ List.suffix_rfl)

/-- Whatever was returned, was returned once after a history and satisfied its postcondition. -/
theorem returned_split

    (history : History machine protocol condition world₀ world (newer ++ .returned actor result ::
      older)) :
    ∃ before, History machine protocol condition world₀ before older ∧ .started actor ∈ older ∧
      (∀ other, .returned actor other ∉ older) ∧
      protocol.post actor.place actor.request (trailOf actor.thread older) result := by
  generalize same : newer ++ .returned actor result :: older = past at history
  induction history generalizing newer with
  | initial => simp at same
  | arrives place request _ _ _ step =>
    cases newer with
    | nil => cases same
    | cons head tail => exact step (List.cons.inj same).2
  | @performs now earlier other act' input' outcome _ _ _ _ _ _ step =>
    obtain ⟨rest, same, _⟩ := split_begun same (by simp)
    cases rest with
    | nil => cases same
    | cons head tail => exact step (List.cons.inj same).2
  | returns _ _ held known running post _ step =>
    cases newer with
    | nil =>
      cases same
      exact ⟨_, held, known, running, post⟩
    | cons head tail => exact step (List.cons.inj same).2

/-- A call that starts takes a number above those of earlier calls. It arrived from outside and met
the condition, or the operation performed just before had spawned it. -/
theorem started_split
    (history : History machine protocol condition world₀ world (newer ++ .started actor :: older)) :
    (∀ other, .started other ∈ older → other.thread < actor.thread) ∧
      ((∃ before, condition before older (.starts actor)) ∨
        ∃ place input act before outcome, machine.handle place input act before = some outcome ∧
          outcome.spawned = some actor.request) := by
  generalize same : newer ++ .started actor :: older = past at history
  induction history generalizing newer with
  | initial => simp at same
  | arrives place request held _ met step =>
    cases newer with
    | nil =>
      cases same
      exact ⟨fun _ => held.started_lt, .inl ⟨_, met⟩⟩
    | cons head tail => exact step (List.cons.inj same).2
  | @performs now earlier other act input outcome held _ _ _ handled _ step =>
    cases spawned : outcome.spawned with
    | none =>
      rw [spawned] at same
      cases newer with
      | nil => cases same
      | cons head tail => exact step (List.cons.inj same).2
    | some request =>
      rw [spawned] at same
      cases newer with
      | nil =>
        cases same
        refine ⟨fun caller known => held.started_lt ?_,
          .inr ⟨_, _, _, _, outcome, handled, spawned⟩⟩
        simpa using known
      | cons head tail =>
        cases tail with
        | nil => cases (List.cons.inj same).2
        | cons second rest => exact step (List.cons.inj (List.cons.inj same).2).2
  | returns _ _ _ _ _ _ _ step =>
    cases newer with
    | nil => cases same
    | cons head tail => exact step (List.cons.inj same).2

/-- Calls that start later get numbers no earlier call has. -/
theorem started_later (history : History machine protocol condition world₀ world (newer ++ older))
    (later : .started actor ∈ newer) : .started actor ∉ older := by
  intro early
  obtain ⟨front, back, rfl⟩ := List.append_of_mem later
  rw [List.append_assoc, List.cons_append] at history
  exact Nat.lt_irrefl _ (history.started_split.1 actor (List.mem_append_right back early))

/-- Once a call has started, the past has everything up to what happened before that. -/
theorem split_of_started_later {rest : List (Moment S σ π ι κ ε ρ)} {moment : Moment S σ π ι κ ε ρ}
    (history : History machine protocol condition world₀ world (newer ++ moment :: older))
    (later : .started actor ∈ newer) (suffix : rest <:+ newer ++ moment :: older)
    (known : .started actor ∈ rest) :
    ∃ between, rest = between ++ moment :: older ∧ between <:+ newer := by
  rcases List.suffix_or_suffix_of_suffix suffix (List.suffix_append newer (moment :: older)) with
    short | ⟨between, rfl⟩
  · exact absurd (short.subset known) (history.started_later later)
  · obtain ⟨front, same⟩ := suffix
    rw [← List.append_assoc] at same
    exact ⟨between, rfl, front, List.append_cancel_right same⟩

/-- Whatever happened before a call started is in the past by the time the call has started. -/
theorem mem_of_started_later {rest : List (Moment S σ π ι κ ε ρ)} {moment : Moment S σ π ι κ ε ρ}
    (history : History machine protocol condition world₀ world (newer ++ moment :: older))
    (later : .started actor ∈ newer) (suffix : rest <:+ newer ++ moment :: older)
    (known : .started actor ∈ rest) : moment ∈ rest := by
  obtain ⟨between, rfl, _⟩ := history.split_of_started_later later suffix known
  exact List.mem_append_right _ List.mem_cons_self

/-- A call that has returned has performed nothing since. -/
theorem trailOf_returned

    (history : History machine protocol condition world₀ world (newer ++ .returned actor result ::
      older)) :
    trailOf actor.thread (newer ++ .returned actor result :: older) =
      trailOf actor.thread older := by
  generalize same : newer ++ .returned actor result :: older = past at history
  induction history generalizing newer with
  | initial => simp at same
  | arrives place request _ _ _ step =>
    cases newer with
    | nil => cases same
    | cons head tail => exact step (List.cons.inj same).2
  | @performs now earlier other act' input' outcome held known running _ _ _ step =>
    obtain ⟨rest, same, _⟩ := split_begun same (by simp)
    cases rest with
    | nil => cases same
    | cons head tail =>
      have returned : .returned actor result ∈ earlier := by
        rw [← (List.cons.inj same).2]
        simp
      have others : other.thread ≠ actor.thread := by
        intro agrees
        have unique := held.started_unique _ _ known (held.returned_started returned) agrees
        exact running result (unique ▸ returned)
      rw [trailOf_begun, trailOf_did, if_neg others]
      exact step (List.cons.inj same).2
  | returns _ _ held known _ post _ step =>
    cases newer with
    | nil =>
      cases same
      rfl
    | cons head tail => exact step (List.cons.inj same).2

/-- What holds after a step and is kept by every step since holds now. -/
theorem after (property : σ → Prop) {reply : S.Reply act}
    (history : History machine protocol condition world₀ world (newer ++ .did actor act input reply
      before :: older))
    (here : ∀ outcome, machine.handle actor.place input act before = some outcome →
      property outcome.world)

    (steps : ∀ doing done reading answer earlier, .did doing done reading answer earlier ∈ newer →
      ∀ outcome, machine.handle doing.place reading done earlier = some outcome → property earlier →
      property outcome.world) :
    property world := by
  generalize same : newer ++ .did actor act input reply before :: older = past at history
  induction history generalizing newer with
  | initial => simp at same
  | arrives place request _ _ _ step =>
    cases newer with
    | nil => cases same
    | cons head tail =>
      refine step (fun _ _ _ _ _ member => ?_) (List.cons.inj same).2
      exact steps _ _ _ _ _ (List.mem_cons_of_mem _ member)
  | @performs now earlier other act' input' outcome held known _ allowed handled met step =>
    obtain ⟨rest, same, inner⟩ := split_begun same (by simp)
    cases rest with
    | nil =>
      cases same
      exact here _ handled
    | cons head tail =>
      obtain ⟨rfl, split⟩ := List.cons.inj same
      refine steps _ _ _ _ _ (inner.subset List.mem_cons_self) _ handled (step ?_ split)
      intro doing done reading answer before member
      exact steps doing done reading answer before
        (inner.subset (List.mem_cons_of_mem _ member))
  | returns _ _ _ _ _ _ _ step =>
    cases newer with
    | nil => cases same
    | cons head tail =>
      refine step (fun _ _ _ _ _ member => ?_) (List.cons.inj same).2
      exact steps _ _ _ _ _ (List.mem_cons_of_mem _ member)

/-- A preorder on worlds that a part of the past respects relates the world before that part to the
world after it. -/
theorem since (relation : σ → σ → Prop)
    (trans : ∀ {first second third}, relation first second → relation second third →
      relation first third)
    {reply : S.Reply act}
    (history : History machine protocol condition world₀ world (newer ++ .did actor act input reply
      before :: older))

    (steps : ∀ doing done reading answer earlier,
      .did doing done reading answer earlier ∈ newer ++ [.did actor act input reply before] →
      ∀ outcome, machine.handle doing.place reading done earlier = some outcome →
      relation earlier outcome.world) :
    relation before world := by
  refine history.after (relation before)
    (steps _ _ _ _ _ (List.mem_append_right _ List.mem_cons_self))
    fun doing done reading answer earlier member outcome handled held => ?_
  exact trans held (steps _ _ _ _ _ (List.mem_append_left _ member) _ handled)

theorem persists (property : σ → Prop)
    (step : ∀ {place : π} {input : ι} {act : S.Op} {world : σ} {outcome : Outcome S σ κ act},
      machine.handle place input act world = some outcome → property world → property outcome.world)
    {reply : S.Reply act}
    (history : History machine protocol condition world₀ world (newer ++ .did actor act input reply
      before :: older))
    (held : property before) : property world :=
  history.since (fun first second => property first → property second)
    (fun one other held => other (one held)) (fun _ _ _ _ _ _ _ handled => step handled) held

/-- Whatever was performed was allowed after what its call had performed before. -/
theorem done_allowed (history : History machine protocol condition world₀ world past)
    {reply : S.Reply act} (done : Done past actor act reply) :
    ∃ older, older <:+ past ∧
      protocol.allowed actor.place actor.request (trailOf actor.thread older) act := by
  obtain ⟨input, before, member⟩ := done
  obtain ⟨newer, older, rfl⟩ := List.append_of_mem member
  obtain ⟨_, _, _, allowed, _⟩ := history.did_split
  exact ⟨older, (List.suffix_cons _ _).trans (List.suffix_append _ _), allowed⟩

theorem done_started (history : History machine protocol condition world₀ world past)
    {reply : S.Reply act} (done : Done past actor act reply) :
    .started actor ∈ past := by
  obtain ⟨_, _, member⟩ := done
  exact history.did_started member

/-- The steps of a call's trail are its own operations in the past. -/
theorem did_of_trail (history : History machine protocol condition world₀ world past)
    (known : .started actor ∈ past) {reply : S.Reply act}
    (member : ⟨act, reply⟩ ∈ trailOf actor.thread past) :
    ∃ input before, .did actor act input reply before ∈ past := by
  obtain ⟨other, input, before, same, done⟩ := mem_trailOf member
  have agrees := history.started_unique _ _ (history.did_started done) known same
  exact ⟨input, before, agrees ▸ done⟩

theorem trail_of_did {reply : S.Reply act} (done : .did actor act input reply before ∈ past) :
    ⟨act, reply⟩ ∈ trailOf actor.thread past := by
  obtain ⟨newer, older, rfl⟩ := List.append_of_mem done
  rw [trailOf_append, trailOf_did, if_pos rfl]
  exact List.mem_append_right _ List.mem_cons_self

theorem mem_trail_iff (history : History machine protocol condition world₀ world past)
    (known : .started actor ∈ past) {reply : S.Reply act} :
    ⟨act, reply⟩ ∈ trailOf actor.thread past ↔ Done past actor act reply :=
  ⟨history.did_of_trail known, fun ⟨_, _, done⟩ => trail_of_did done⟩

/-- What a call had performed at an earlier time it has performed. -/
theorem done_of_trail_suffix (history : History machine protocol condition world₀ world past)
    (known : .started actor ∈ past) (suffix : older <:+ past) {reply : S.Reply act}
    (member : ⟨act, reply⟩ ∈ trailOf actor.thread older) : Done past actor act reply := by
  obtain ⟨other, input, before, same, done⟩ := mem_trailOf member
  have done := suffix.subset done
  have unique := history.started_unique _ _ (history.did_started done) known same
  exact ⟨input, before, unique ▸ done⟩

/-- A call that has returned satisfied its postcondition after what it had performed. -/
theorem returned_post (history : History machine protocol condition world₀ world past)
    (returned : .returned actor result ∈ past) :
    ∃ trail, protocol.post actor.place actor.request trail result ∧
      ∀ {act : S.Op} {reply : S.Reply act}, ⟨act, reply⟩ ∈ trail → Done past actor act reply := by
  have known := history.returned_started returned
  obtain ⟨newer, older, rfl⟩ := List.append_of_mem returned
  obtain ⟨_, _, _, _, post⟩ := history.returned_split
  exact ⟨trailOf actor.thread older, post, history.done_of_trail_suffix known
    ((List.suffix_cons _ _).trans (List.suffix_append _ _))⟩

end History

/-- A call of a pool, beside the past: it has started, what is left of its program follows the
protocol from its trail, and it has nothing left to perform once it has returned. -/
structure Tracked (protocol : Protocol S π κ ε ρ) (past : List (Moment S σ π ι κ ε ρ))
    (number : Nat) (thread : Thread S π κ ε ρ) : Prop where
  known : .started ⟨number, thread.place, thread.request⟩ ∈ past
  /-- The rest of its program follows the protocol. -/
  follows : Follows (protocol.rule thread.place thread.request) thread.prog
    (trailOf number past) (protocol.post thread.place thread.request)
  /-- Only a finished program returns. -/
  finished : thread.returned = true → thread.prog.result.isSome
  /-- A call marked as running has not returned. -/
  running : thread.returned = false →
    ∀ result, .returned ⟨number, thread.place, thread.request⟩ result ∉ past

/-- A pool whose past is a history and whose calls are tracked. -/
structure Follower (machine : Machine S σ π ι κ ε ρ) (protocol : Protocol S π κ ε ρ)
    (condition : σ → List (Moment S σ π ι κ ε ρ) → Upcoming S π ι κ ε ρ → Prop) (world₀ : σ)
    (pool : Pool S σ π ι κ ε ρ) : Prop where
  history : History machine protocol condition world₀ pool.world pool.past
  /-- Calls are numbered by their positions. -/
  counted : calls pool.past = pool.threads.length
  tracked : ∀ number thread, pool.threads[number]? = some thread →
    Tracked protocol pool.past number thread

/-- Every program of the machine follows the protocol, and the machine's replies are possible. -/
structure Machine.Obeys (machine : Machine S σ π ι κ ε ρ) (protocol : Protocol S π κ ε ρ) :
    Prop where
  /-- Programs follow their rules from the start. -/
  follows : ∀ place request, Follows (protocol.rule place request)
    (machine.program place request) [] (protocol.post place request)
  replies : ∀ place input act world outcome, machine.handle place input act world = some outcome →
    protocol.possible act outcome.reply

/-- A machine that obeys two protocols obeys both at once. -/
theorem Machine.Obeys.both {machine : Machine S σ π ι κ ε ρ} {one other : Protocol S π κ ε ρ}
    (first : machine.Obeys one) (second : machine.Obeys other) :
    machine.Obeys (one.both other) where
  follows place request := (first.follows place request).both (second.follows place request)
  replies place input act world outcome handled :=
    ⟨first.replies place input act world outcome handled,
      second.replies place input act world outcome handled⟩

theorem trailOf_eq_nil {number : Nat} {past : List (Moment S σ π ι κ ε ρ)}
    (none : ∀ actor act input reply before, .did actor act input reply before ∈ past →
      actor.thread ≠ number) : trailOf number past = [] := by
  by_contra some
  obtain ⟨⟨act, reply⟩, member⟩ := List.exists_mem_of_ne_nil _ some
  obtain ⟨actor, input, before, same, done⟩ := mem_trailOf member
  exact none actor act input reply before done same

section

variable {machine : Machine S σ π ι κ ε ρ} {protocol : Protocol S π κ ε ρ}
  {condition : σ → List (Moment S σ π ι κ ε ρ) → Upcoming S π ι κ ε ρ → Prop} {world₀ world : σ}
  {past : List (Moment S σ π ι κ ε ρ)}

theorem Tracked.grow {number : Nat} {thread : Thread S π κ ε ρ}
    (tracked : Tracked protocol past number thread) {more : List (Moment S σ π ι κ ε ρ)}
    (kept : ∀ moment, moment ∈ past → moment ∈ more)
    (trail : trailOf number more = trailOf number past)
    (quiet : ∀ result, .returned ⟨number, thread.place, thread.request⟩ result ∈ more →
      .returned ⟨number, thread.place, thread.request⟩ result ∈ past) :
    Tracked protocol more number thread where
  known := kept _ tracked.known
  follows := trail ▸ tracked.follows
  finished := tracked.finished
  running := fun open_ result done => tracked.running open_ result (quiet result done)

/-- Starting a call keeps every call tracked and tracks the new one. -/
theorem tracked_spawn {threads : List (Thread S π κ ε ρ)} (obeys : machine.Obeys protocol)
    (counted : calls past = threads.length)
    (idle : ∀ actor act input reply before, .did actor act input reply before ∈ past →
      actor.thread < calls past)
    (silent : ∀ actor result, .returned actor result ∈ past → actor.thread < calls past)
    (tracked : ∀ number thread, threads[number]? = some thread →
      Tracked protocol past number thread)
    (place : π) (request : κ) (number : Nat) (thread : Thread S π κ ε ρ)
    (found : (threads ++ [⟨place, request, machine.program place request, false⟩])[number]? =
      some thread) :
    Tracked protocol (enter place past request) number thread := by
  rcases Nat.lt_or_ge number threads.length with old | new
  · rw [List.getElem?_append_left old] at found
    refine (tracked number thread found).grow (fun _ => List.mem_cons_of_mem _) rfl ?_
    intro result done
    simpa [enter] using done
  · rw [List.getElem?_append_right new] at found
    have last : number = threads.length ∧
        thread = ⟨place, request, machine.program place request, false⟩ := by
      rcases Nat.eq_or_lt_of_le new with same | above
      · subst same
        simpa [eq_comm] using found
      · rw [List.getElem?_eq_none (by simp only [List.length_singleton]; omega)] at found
        cases found
    obtain ⟨rfl, rfl⟩ := last
    have fresh : trailOf threads.length (enter place past request) = [] := by
      refine trailOf_eq_nil fun actor act input reply before done same => ?_
      have below := idle actor act input reply before (by simpa [enter] using done)
      omega
    refine ⟨by simp [enter, counted], ?_, by simp, ?_⟩
    · rw [fresh]
      exact obeys.follows place request
    · intro _ result done
      have below := silent _ result (by simpa [enter] using done)
      simp only at below
      omega

/-- An outcome handed to its caller keeps the other calls tracked. -/
theorem Follower.returns {pool : Pool S σ π ι κ ε ρ}
    (follower : Follower machine protocol condition world₀ pool) {number : Nat}
    {thread : Thread S π κ ε ρ} (found : pool.threads[number]? = some thread)
    (waiting : thread.returned = false) {result : Except ε ρ}
    (outcome : thread.prog.result = some result)
    (met : condition pool.world pool.past
      (.returns ⟨number, thread.place, thread.request⟩ result)) :
    Follower machine protocol condition world₀
      { pool with
        threads := pool.threads.set number { thread with returned := true }
        past := .returned ⟨number, thread.place, thread.request⟩ result :: pool.past } := by
  have tracked := follower.tracked number thread found
  have post : protocol.post thread.place thread.request (trailOf number pool.past) result := by
    have follows := tracked.follows
    cases shape : thread.prog with
    | ret value =>
      rw [shape] at outcome follows
      cases outcome
      exact follows
    | fail error =>
      rw [shape] at outcome follows
      cases outcome
      exact follows
    | op act next =>
      rw [shape] at outcome
      cases outcome
  refine ⟨.returns _ result follower.history tracked.known (tracked.running waiting) post met,
    by simpa [calls] using follower.counted, ?_⟩
  intro other call seen
  rw [List.getElem?_set] at seen
  split at seen
  · next same =>
    subst same
    split at seen
    · cases seen
      exact ⟨List.mem_cons_of_mem _ tracked.known, tracked.follows, fun _ => by simp [outcome],
        by simp⟩
    · cases seen
  · next different =>
    refine (follower.tracked other call seen).grow (fun _ => List.mem_cons_of_mem _) rfl ?_
    intro result done
    rcases List.mem_cons.mp done with head | tail
    · simp only [Moment.returned.injEq, Actor.mk.injEq] at head
      exact absurd head.1.1.symm different
    · exact tail

variable {pool : Pool S σ π ι κ ε ρ} {choices : List (Choice π ι κ)}

/-- After an operation, every call is tracked against the past that records it. -/
theorem Follower.tracked_did (follower : Follower machine protocol condition world₀ pool)
    {number : Nat} {thread : Thread S π κ ε ρ} (found : pool.threads[number]? = some thread)
    {act : S.Op} {next : S.Reply act → Prog S ε ρ} (shape : thread.prog = .op act next) (input : ι)
    (reply : S.Reply act) (possible : protocol.possible act reply) (other : Nat)
    (call : Thread S π κ ε ρ)
    (seen : (pool.threads.set number { thread with prog := next reply })[other]? = some call) :
    Tracked protocol
      (.did ⟨number, thread.place, thread.request⟩ act input reply pool.world :: pool.past)
      other call := by
  have tracked := follower.tracked number thread found
  have running : thread.returned = false := by
    by_contra finished
    have isOver := tracked.finished (by simpa using finished)
    simp [shape, Prog.result] at isOver
  rw [List.getElem?_set] at seen
  split at seen
  · next same =>
    subst same
    split at seen
    · cases seen
      have follows := tracked.follows
      rw [shape] at follows
      refine ⟨List.mem_cons_of_mem _ tracked.known, ?_, by simp [running], ?_⟩
      · simpa [trailOf] using follows.2 reply possible
      · intro _ result done
        exact tracked.running running result (by simpa using done)
    · cases seen
  · next different =>
    refine (follower.tracked other call seen).grow (fun _ => List.mem_cons_of_mem _) ?_ ?_
    · simp [trailOf, different]
    · intro result done
      simpa using done

/-- An operation, with the call it spawns, keeps the pool a follower of its protocol. -/
theorem Follower.performs (obeys : machine.Obeys protocol) {pool : Pool S σ π ι κ ε ρ}
    (follower : Follower machine protocol condition world₀ pool) {number : Nat} {input : ι}
    {thread : Thread S π κ ε ρ} (found : pool.threads[number]? = some thread) {act : S.Op}
    {next : S.Reply act → Prog S ε ρ} (shape : thread.prog = .op act next)
    {outcome : Outcome S σ κ act}
    (handled : machine.handle thread.place input act pool.world = some outcome)
    (met : condition pool.world pool.past
      (.performs ⟨number, thread.place, thread.request⟩ act input)) :
    Follower machine protocol condition world₀
      (machine.advance pool (.step number input)) := by
  have tracked := follower.tracked number thread found
  have follows := tracked.follows
  rw [shape] at follows
  have running : thread.returned = false := by
    by_contra finished
    have isOver := tracked.finished (by simpa using finished)
    simp [shape, Prog.result] at isOver
  have performed := History.performs ⟨number, thread.place, thread.request⟩ act input outcome
    follower.history tracked.known (tracked.running running) follows.1 handled met
  have after := follower.tracked_did found shape input outcome.reply
    (obeys.replies _ _ _ _ _ handled)
  cases spawned : outcome.spawned with
  | none =>
    rw [spawned] at performed
    have advanced : machine.advance pool (.step number input) =
        ⟨outcome.world, pool.threads.set number { thread with prog := next outcome.reply },
          .did ⟨number, thread.place, thread.request⟩ act input outcome.reply pool.world ::
            pool.past⟩ := by
      simp [Machine.advance, found, shape, handled, spawned]
    rw [advanced]
    exact ⟨performed, by simpa [calls] using follower.counted, after⟩
  | some request =>
    rw [spawned] at performed
    have advanced : machine.advance pool (.step number input) =
        machine.spawn thread.place
          ⟨outcome.world, pool.threads.set number { thread with prog := next outcome.reply },
            .did ⟨number, thread.place, thread.request⟩ act input outcome.reply pool.world ::
              pool.past⟩ request := by
      simp [Machine.advance, found, shape, handled, spawned]
    have counted : calls (.did ⟨number, thread.place, thread.request⟩ act input outcome.reply
        pool.world :: pool.past) =
          (pool.threads.set number { thread with prog := next outcome.reply }).length := by
      simpa [calls] using follower.counted
    have lower := follower.history.started_lt tracked.known
    rw [advanced]
    refine ⟨?_, by simp [Machine.spawn, calls, follower.counted], ?_⟩
    · simpa [Machine.spawn, begun, enter, counted] using performed
    · have tracking := tracked_spawn obeys counted ?_ ?_ after thread.place request
      · simpa [Machine.spawn, enter, counted] using tracking
      · intro actor act input reply before done
        rcases List.mem_cons.mp done with head | tail
        · simp only [Moment.did.injEq] at head
          rw [head.1]
          exact lower
        · exact follower.history.started_lt (follower.history.did_started tail)
      · intro actor result done
        exact follower.history.started_lt
          (follower.history.returned_started (by simpa using done))

/-- One choice of the schedule keeps the pool a follower of its protocol. -/
theorem Follower.advance (obeys : machine.Obeys protocol)
    (follower : Follower machine protocol condition world₀ pool) (choice : Choice π ι κ)
    (met : ∀ next, machine.upcoming pool choice = some next → condition pool.world pool.past next) :
    Follower machine protocol condition world₀ (machine.advance pool choice) := by
  have idle : ∀ actor act input reply before, .did actor act input reply before ∈ pool.past →
      actor.thread < calls pool.past := fun _ _ _ _ _ done =>
    follower.history.started_lt (follower.history.did_started done)
  have silent : ∀ actor result, .returned actor result ∈ pool.past →
      actor.thread < calls pool.past := fun _ _ done =>
    follower.history.started_lt (follower.history.returned_started done)
  cases choice with
  | start place request =>
    simp only [Machine.advance]
    split
    · next client =>
      refine ⟨?_, by simp [Machine.spawn, calls, follower.counted], ?_⟩
      · have arrived := History.arrives place request follower.history client
          (follower.counted ▸ met _ (by simp [Machine.upcoming, client]))
        simpa [Machine.spawn, enter, follower.counted] using arrived
      · have spawned := tracked_spawn obeys follower.counted idle silent follower.tracked place
          request
        simpa [Machine.spawn, enter, follower.counted] using spawned
    · exact follower
  | step number input =>
    cases found : pool.threads[number]? with
    | none => simpa [Machine.advance, found] using follower
    | some thread =>
      have tracked := follower.tracked number thread found
      have bound : number < pool.threads.length := (List.getElem?_eq_some_iff.mp found).1
      cases shape : thread.prog with
      | ret value =>
        cases waiting : thread.returned with
        | true => simpa [Machine.advance, found, shape, waiting] using follower
        | false =>
          have met := met _ (by simp [Machine.upcoming, found, shape, waiting]; rfl)
          have outcome : thread.prog.result = some (.ok value) := by simp [shape, Prog.result]
          simpa [Machine.advance, found, shape, waiting] using
            follower.returns found waiting outcome met
      | fail error =>
        cases waiting : thread.returned with
        | true => simpa [Machine.advance, found, shape, waiting] using follower
        | false =>
          have met := met _ (by simp [Machine.upcoming, found, shape, waiting]; rfl)
          have outcome : thread.prog.result = some (.error error) := by simp [shape, Prog.result]
          simpa [Machine.advance, found, shape, waiting] using
            follower.returns found waiting outcome met
      | op act next =>
        cases handled : machine.handle thread.place input act pool.world with
        | none => simpa [Machine.advance, found, shape, handled] using follower
        | some outcome =>
          exact follower.performs obeys found shape handled
            (met _ (by simp [Machine.upcoming, found, shape, handled]))

/-- A schedule keeps the pool a follower of its protocol. -/
theorem Follower.run (obeys : machine.Obeys protocol) (choices : List (Choice π ι κ))
    (follower : Follower machine protocol condition world₀ pool)
    (met : machine.Meets condition pool choices) :
    Follower machine protocol condition world₀ (machine.run pool choices) := by
  induction choices generalizing pool with
  | nil => exact follower
  | cons choice rest step => exact step (follower.advance obeys choice met.1) met.2

/-- A pool in which nothing has happened follows any protocol. -/
theorem follower_initial : Follower machine protocol condition world₀ (Machine.initial world₀) :=
  ⟨.initial, rfl, by simp [Machine.initial]⟩

/-- Every run of a machine whose programs follow a protocol is a history of that protocol, when its
choices meet the condition. -/
theorem Machine.run_history (obeys : machine.Obeys protocol) (choices : List (Choice π ι κ))
    (met : machine.Meets condition (Machine.initial world₀) choices) :
    History machine protocol condition world₀
      (machine.run (Machine.initial world₀) choices).world
      (machine.run (Machine.initial world₀) choices).past :=
  (follower_initial.run obeys choices met).history

/-- A schedule in two parts. -/
theorem Machine.run_append (pool : Pool S σ π ι κ ε ρ) (first second : List (Choice π ι κ)) :
    machine.run pool (first ++ second) = machine.run (machine.run pool first) second :=
  List.foldl_append

/-- A schedule in two parts meets a condition when each part does from where it starts. -/
theorem Machine.meets_append {first second : List (Choice π ι κ)} :
    machine.Meets condition pool (first ++ second) ↔
      machine.Meets condition pool first ∧
        machine.Meets condition (machine.run pool first) second := by
  induction first generalizing pool with
  | nil => simp [Machine.Meets, Machine.run]
  | cons choice rest step =>
    simp only [List.cons_append, Machine.Meets, step, and_assoc]
    rfl

/-- What one choice performs reads the input of that choice. -/
theorem Machine.did_advance {choice : Choice π ι κ} {actor : Actor π κ} {act : S.Op} {input : ι}
    {reply : S.Reply act} {before : σ}
    (done : .did actor act input reply before ∈ (machine.advance pool choice).past) :
    .did actor act input reply before ∈ pool.past ∨ ∃ number, choice = .step number input := by
  cases choice with
  | start place request =>
    simp only [Machine.advance] at done
    split at done
    · exact .inl (by simpa [Machine.spawn] using done)
    · exact .inl done
  | step number reading =>
    cases found : pool.threads[number]? with
    | none =>
      simp only [Machine.advance, found] at done
      exact .inl done
    | some thread =>
      cases shape : thread.prog with
      | ret value =>
        simp only [Machine.advance, found, shape] at done
        split at done
        · exact .inl done
        · exact .inl (by simpa using done)
      | fail error =>
        simp only [Machine.advance, found, shape] at done
        split at done
        · exact .inl done
        · exact .inl (by simpa using done)
      | op performed rest =>
        cases handled : machine.handle thread.place reading performed pool.world with
        | none =>
          simp only [Machine.advance, found, shape, handled] at done
          exact .inl done
        | some outcome =>
          simp only [Machine.advance, found, shape, handled] at done
          have member : .did actor act input reply before ∈
              .did ⟨number, thread.place, thread.request⟩ performed reading outcome.reply
                pool.world :: pool.past := by
            split at done
            · exact done
            · simpa [Machine.spawn] using done
          rcases List.mem_cons.mp member with head | tail
          · cases head
            exact .inr ⟨number, rfl⟩
          · exact .inl tail

/-- What a schedule performs reads an input of the schedule. -/
theorem Machine.did_input {actor : Actor π κ} {act : S.Op} {input : ι} {reply : S.Reply act}
    {before : σ} (done : .did actor act input reply before ∈ (machine.run pool choices).past) :
    .did actor act input reply before ∈ pool.past ∨ ∃ number, .step number input ∈ choices := by
  induction choices generalizing pool with
  | nil => exact .inl done
  | cons choice rest later =>
    rcases later done with earlier | ⟨number, member⟩
    · refine (Machine.did_advance earlier).imp_right fun ⟨number, same⟩ => ?_
      exact ⟨number, same ▸ List.mem_cons_self⟩
    · exact .inr ⟨number, List.mem_cons_of_mem _ member⟩

theorem Machine.Meets.mono {weaker : σ → List (Moment S σ π ι κ ε ρ) → Upcoming S π ι κ ε ρ → Prop}
    (met : machine.Meets condition pool choices)
    (implied : ∀ world past next, condition world past next → weaker world past next) :
    machine.Meets weaker pool choices := by
  induction choices generalizing pool with
  | nil => trivial
  | cons choice rest step =>
    exact ⟨fun next upcoming => implied _ _ _ (met.1 next upcoming), step met.2⟩

/-- A schedule meets a condition when each of its choices does where it is made. -/
theorem Machine.meets_iff :
    machine.Meets condition pool choices ↔
      ∀ first choice rest, choices = first ++ choice :: rest →
        ∀ next, machine.upcoming (machine.run pool first) choice = some next →
          condition (machine.run pool first).world (machine.run pool first).past next := by
  induction choices generalizing pool with
  | nil => simp [Machine.Meets]
  | cons head tail step =>
    simp only [Machine.Meets, step]
    constructor
    · rintro ⟨now, later⟩ first choice rest split
      cases first with
      | nil =>
        cases split
        exact now
      | cons other more =>
        cases split
        exact later more choice rest rfl
    · intro each
      exact ⟨each [] head tail rfl, fun first choice rest split =>
        each (head :: first) choice rest (by rw [split, List.cons_append])⟩

/-- A choice that performs an operation does what the machine says, and the protocol allows it. -/
theorem Follower.upcoming_performs (follower : Follower machine protocol condition world₀ pool)
    {choice : Choice π ι κ} {actor : Actor π κ} {act : S.Op} {input : ι}
    (next : machine.upcoming pool choice = some (.performs actor act input)) :
    ∃ outcome, .started actor ∈ pool.past ∧
      protocol.allowed actor.place actor.request (trailOf actor.thread pool.past) act ∧
      machine.handle actor.place input act pool.world = some outcome ∧
      (machine.advance pool choice).world = outcome.world := by
  cases choice with
  | start place request =>
    simp only [Machine.upcoming] at next
    split at next <;> cases next
  | step number reading =>
    cases found : pool.threads[number]? with
    | none =>
      simp only [Machine.upcoming, found] at next
      cases next
    | some thread =>
      have tracked := follower.tracked number thread found
      cases shape : thread.prog with
      | ret value =>
        simp only [Machine.upcoming, found, shape] at next
        split at next <;> cases next
      | fail error =>
        simp only [Machine.upcoming, found, shape] at next
        split at next <;> cases next
      | op performed rest =>
        have follows := tracked.follows
        rw [shape] at follows
        cases handled : machine.handle thread.place reading performed pool.world with
        | none => simp [Machine.upcoming, found, shape, handled] at next
        | some outcome =>
          simp only [Machine.upcoming, found, shape, handled, Option.isSome_some, if_true] at next
          cases next
          refine ⟨outcome, tracked.known, follows.1, handled, ?_⟩
          simp only [Machine.advance, found, shape, handled]
          split <;> rfl

section Relations

variable (relation : σ → σ → Prop) (refl : ∀ world, relation world world)
    (step : ∀ {world : σ} {past : List (Moment S σ π ι κ ε ρ)} {actor : Actor π κ} {act : S.Op}
      {input : ι} {outcome : Outcome S σ κ act},
      History machine protocol condition world₀ world past → .started actor ∈ past →
      protocol.allowed actor.place actor.request (trailOf actor.thread past) act →
      machine.handle actor.place input act world = some outcome →
      condition world past (.performs actor act input) → relation world outcome.world)
include refl step

/-- What one operation can do to the world, as a reflexive relation, is what one choice can do. -/
theorem Follower.related {pool : Pool S σ π ι κ ε ρ}
    (follower : Follower machine protocol condition world₀ pool) (choice : Choice π ι κ)
    (met : ∀ next, machine.upcoming pool choice = some next →
      condition pool.world pool.past next) :
    relation pool.world (machine.advance pool choice).world := by
  cases choice with
  | start place request =>
    simp only [Machine.advance]
    split <;> exact refl _
  | step number input =>
    cases found : pool.threads[number]? with
    | none =>
      simp only [Machine.advance, found]
      exact refl _
    | some thread =>
      have tracked := follower.tracked number thread found
      cases shape : thread.prog with
      | ret value =>
        simp only [Machine.advance, found, shape]
        split <;> exact refl _
      | fail error =>
        simp only [Machine.advance, found, shape]
        split <;> exact refl _
      | op act next =>
        have follows := tracked.follows
        rw [shape] at follows
        cases handled : machine.handle thread.place input act pool.world with
        | none =>
          simp only [Machine.advance, found, shape, handled]
          exact refl _
        | some outcome =>
          have related := step follower.history tracked.known follows.1 handled
            (met _ (by simp [Machine.upcoming, found, shape, handled]))
          simp only [Machine.advance, found, shape, handled]
          split <;> exact related

/-- A preorder on worlds that every operation respects relates the world of a run to the world of
every longer run. -/
theorem Machine.run_related (obeys : machine.Obeys protocol)
    (trans : ∀ {first second third}, relation first second → relation second third →
      relation first third)
    (first second : List (Choice π ι κ))
    (met : machine.Meets condition (Machine.initial world₀) (first ++ second)) :
    relation (machine.run (Machine.initial world₀) first).world
      (machine.run (Machine.initial world₀) (first ++ second)).world := by
  rw [Machine.run_append]
  obtain ⟨before, after⟩ := Machine.meets_append.mp met
  have follower := follower_initial.run obeys first before
  clear met before
  generalize machine.run (Machine.initial world₀) first = pool at follower after
  induction second generalizing pool with
  | nil => exact refl _
  | cons choice rest later =>
    refine trans (follower.related relation refl step choice after.1) ?_
    exact later _ (follower.advance obeys choice after.1) after.2

end Relations

end

end
