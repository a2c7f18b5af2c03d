import ConfluxQuery.Lib.History
import ConfluxQuery.Metadata.Cache
import Mathlib

/-!
# What the metadata cache answers

An answer from the cache is good when an adapter gave it to the same lookup, the adapter was called
after the last invalidation of the target, and the answer has not been in the cache for too long.
The age is checked under the cache's lock, so it always holds. The other two can fail: a call that
waits for its adapter while the target is invalidated puts the old answer back afterwards, and two
property maps can have one hash. Both are excluded here by a condition on the run: no target is
invalidated while a call on it is between the adapter and the cache, and no two calls have one key
but different properties. Under it every answer from the cache is good, in every run.
-/

namespace ConfluxQuery

/-- An event of a run of the metadata service. -/
abbrev MetadataMoment : Type :=
  Moment metadataOps MetadataWorld Unit MetadataReading MetadataCall DriverError MetadataReply

/-- A choice of the schedule of a metadata service. -/
abbrev MetadataChoice : Type := Choice Unit MetadataReading MetadataCall

/-- A call of the metadata service. -/
abbrev MetadataActor : Type := Actor Unit MetadataCall

/-- Requests that agree in everything an adapter is given. -/
structure MetadataRequest.Same (one other : MetadataRequest) : Prop where
  identity : one.identity = other.identity
  target : one.target = other.target
  engine : one.engine = other.engine
  catalog : one.catalog = other.catalog
  schema : one.schema = other.schema
  pattern : one.pattern = other.pattern
  properties : one.properties.entries.Perm other.properties.entries

/-- The event drops the entries of the target. -/
def invalidates (target : String) : MetadataMoment → Bool
  | .did _ (.invalidateTarget other) _ _ _ => other == target
  | _ => false

/-- An answer that was put into the cache at a time: a call asked an adapter for it, the answer came
and was inserted, and the target has not been invalidated since the adapter was called. -/
inductive Provided (hasher : PropertyHash) (operation : MetadataOperation)
    (request : MetadataRequest)
    (value : CachedValue) (inserted : Nat) : List MetadataMoment → Prop
  | intro {fetcher : MetadataActor} {answer : operation.Answer}
      {departure arrival insertion : MetadataReading} {first second third : MetadataWorld}
      (older early middle late : List MetadataMoment)
      (answered : value = operation.cachedValue answer)
      (timed : inserted = third.now insertion)
      (valid : ∀ moment ∈ late ++ middle ++ early, invalidates request.target moment = false) :
      Provided hasher operation request value inserted
        (late ++ .did fetcher (.insert (cacheKey hasher request operation) value) insertion () third
          :: (middle ++ .did fetcher (.awaits operation request) arrival (.ok answer) second
            :: (early ++ .did fetcher (.calls operation request) departure () first :: older)))

/-- A good answer from the cache: the last time the target was invalidated lies before the adapter
was asked, by a call for the same, and the answer was inserted at most `ttl` ago. -/
def MetadataService.Good (service : MetadataService) (operation : MetadataOperation)
    (request : MetadataRequest) (value : CachedValue) (now : Nat) (past : List MetadataMoment) :
    Prop :=
  ∃ asked inserted, asked.Same request ∧
    Provided service.hasher operation asked value inserted past ∧ now - inserted ≤ service.ttl

/-- Every answer a call has given without calling an adapter is a good one from the cache. -/
def MetadataService.AnswersWell (service : MetadataService) (past : List MetadataMoment) : Prop :=
  ∀ actor value, .returned actor (.ok (.found value)) ∈ past →
    (∀ operation request, ¬ Done past actor (.calls operation request) ()) →
    ∃ operation request reading before newer older,
      actor.request.query = some (operation, request) ∧
      past = newer ++ .did actor (.cached (cacheKey service.hasher request operation)) reading
        (some value) before :: older ∧
      service.Good operation request value (before.now reading) older

/-- Two calls with one key and different properties. -/
def MetadataService.collides (service : MetadataService) (one other : MetadataCall) : Bool :=
  match one.query, other.query with
  | some (operation, request), some (operation', request') =>
    decide (cacheKey service.hasher request operation = cacheKey service.hasher request' operation')
      && !decide (request.properties.entries.Perm request'.properties.entries)
  | _, _ => false

/-- A call with this trail has called the adapter for the target and has yet to insert the answer.
-/
def fetching (target : String) : Trail metadataOps → Bool
  | ⟨.calls _ request, _⟩ :: _ => request.target == target
  | ⟨.awaits _ request, .ok _⟩ :: _ => request.target == target
  | _ => false

/-- Everything that has started satisfies a test. -/
def everyStarted (test : MetadataActor → Bool) (past : List MetadataMoment) : Bool :=
  past.all fun moment =>
    match moment with
    | .started actor => test actor
    | _ => true

/-- The condition on a run: a call arrives only if its key stands for its properties, and a target
is invalidated only while no call is fetching from it. -/
def MetadataService.careful (service : MetadataService) (past : List MetadataMoment) :
    Upcoming metadataOps Unit MetadataReading MetadataCall DriverError MetadataReply → Bool
  | .starts actor => everyStarted (fun other => !service.collides other.request actor.request) past
  | .performs _ (.invalidateTarget target) _ =>
    everyStarted (fun other => !fetching target (trailOf other.thread past)) past
  | _ => true

/-- A test of everything that has started holds of each call. -/
theorem everyStarted_spec {test : MetadataActor → Bool} {past : List MetadataMoment}
    (all : everyStarted test past = true) {actor : MetadataActor} (known : .started actor ∈ past) :
    test actor = true :=
  List.all_eq_true.mp all _ known

/-- What each call does: it looks under its own key, calls the adapter for its own lookup, waits for
the answer to that call and inserts what it got; an answer without a call of the adapter is what the
cache gave. -/
def metadataProtocol (hasher : PropertyHash) :
    Protocol metadataOps Unit MetadataCall DriverError MetadataReply where
  allowed _ call trail act :=
    match act with
    | .cached key => ∃ operation request, call.query = some (operation, request) ∧
        key = cacheKey hasher request operation
    | .calls operation request => call.query = some (operation, request)
    | .awaits operation request => call.query = some (operation, request) ∧
        ∃ rest, trail = ⟨.calls operation request, ()⟩ :: rest
    | .insert key value => ∃ operation request answer rest,
        call.query = some (operation, request) ∧ key = cacheKey hasher request operation ∧
        value = operation.cachedValue answer ∧
        trail = ⟨.awaits operation request, .ok answer⟩ :: ⟨.calls operation request, ()⟩ :: rest
    | .invalidateTarget target => call = .invalidateTarget target
  possible _ _ := True
  post _ call trail outcome := ∀ value, outcome = .ok (.found value) →
    (∀ operation request, ⟨.calls operation request, ()⟩ ∉ trail) →
    ∃ operation request, call.query = some (operation, request) ∧
      ⟨.cached (cacheKey hasher request operation), some value⟩ ∈ trail

/-- The cache's answer to a lookup is the answer it holds. -/
theorem MetadataOperation.cachedValue_answer {operation : MetadataOperation} {value : CachedValue}
    {answer : operation.Answer} (found : operation.answer value = some answer) :
    operation.cachedValue answer = value := by
  cases operation <;> cases value <;> cases found <;> rfl

/-- A lookup keeps to the protocol; without a call of the adapter it returns what the cache gave. -/
theorem MetadataService.lookup_follows (service : MetadataService) {call : MetadataCall}
    {operation : MetadataOperation} {request : MetadataRequest}
    (asks : call.query = some (operation, request)) :
    Follows ((metadataProtocol service.hasher).rule () call) (service.lookup operation request) []
      (fun trail outcome => ∀ answer, outcome = .ok answer →
        (∀ operation request, ⟨.calls operation request, ()⟩ ∉ trail) →
        ⟨.cached (cacheKey service.hasher request operation),
          some (operation.cachedValue answer)⟩ ∈ trail) := by
  unfold lookup
  refine Follows.perform ⟨operation, request, asks, rfl⟩ fun held _ => ?_
  cases found : held.bind operation.answer with
  | some answer =>
    obtain ⟨value, rfl, same⟩ := Option.bind_eq_some_iff.mp found
    simp only [Follows.pure_iff]
    rintro answer' same' _
    cases same'
    rw [MetadataOperation.cachedValue_answer same]
    exact List.mem_cons_self
  | none =>
    simp only [Follows.bind_iff, Follows.lift_iff]
    cases service.adapter request.engine with
    | error error =>
      intro _ same
      cases same
    | ok _ =>
      refine ⟨asks, fun _ _ => ⟨⟨asks, _, rfl⟩, fun answered _ => ?_⟩⟩
      cases answered with
      | error error =>
        intro _ same
        cases same
      | ok value =>
        refine ⟨⟨operation, request, value, _, asks, rfl, rfl, rfl⟩, fun _ _ => ?_⟩
        intro answer _ unasked
        exact absurd (by simp) (unasked operation request)

/-- The service obeys the protocol. -/
theorem MetadataService.obeys (service : MetadataService) :
    service.machine.Obeys (metadataProtocol service.hasher) where
  replies _ _ _ _ _ _ := trivial
  follows place call := by
    have looks (operation : MetadataOperation) (request : MetadataRequest)
        (asks : call.query = some (operation, request))
        (wrap : operation.Answer → MetadataReply)
        (wraps : ∀ answer, wrap answer = .found (operation.cachedValue answer)) :
        Follows ((metadataProtocol service.hasher).rule place call)
          (wrap <$> service.lookup operation request) []
          ((metadataProtocol service.hasher).post place call) := by
      rw [Follows.map_iff]
      refine (service.lookup_follows asks).mono ?_
      intro trail outcome _ held value returned unasked
      cases outcome with
      | error error => cases returned
      | ok answer =>
        cases (wraps answer).symm.trans (Except.ok.inj returned)
        exact ⟨operation, request, asks, held answer rfl unasked⟩
    cases call with
    | catalogs request => exact looks .catalogs request rfl _ fun _ => rfl
    | schemas request => exact looks .schemas request rfl _ fun _ => rfl
    | objects request => exact looks .objects request rfl _ fun _ => rfl
    | describe request object => exact looks (.describe object) request rfl _ fun _ => rfl
    | invalidateTarget target => exact ⟨rfl, fun _ _ => nofun⟩

/-- A history of the service in a run that keeps to the condition. -/
abbrev MetadataHistory (service : MetadataService) :
    MetadataWorld → List MetadataMoment → Prop :=
  History service.machine (metadataProtocol service.hasher)
    (fun _ past next => service.careful past next = true) .new

/-- The adapter was called, and the target has not been invalidated since. -/
inductive Called (fetcher : MetadataActor) (operation : MetadataOperation)
    (request : MetadataRequest) :
    List MetadataMoment → Prop
  | intro {departure : MetadataReading} {first : MetadataWorld} (older early : List MetadataMoment)
      (valid : ∀ moment ∈ early, invalidates request.target moment = false) :
      Called fetcher operation request
        (early ++ .did fetcher (.calls operation request) departure () first :: older)

/-- The adapter's answer has come, and the target has not been invalidated since the adapter was
called. -/
inductive Arrived (fetcher : MetadataActor) (operation : MetadataOperation)
    (request : MetadataRequest)
    (answer : operation.Answer) : List MetadataMoment → Prop
  | intro {arrival : MetadataReading} {second : MetadataWorld} (older late : List MetadataMoment)
      (called : Called fetcher operation request older)
      (valid : ∀ moment ∈ late, invalidates request.target moment = false) :
      Arrived fetcher operation request answer
        (late ++ .did fetcher (.awaits operation request) arrival (.ok answer) second :: older)

theorem Provided.cons {hasher : PropertyHash} {operation : MetadataOperation}
    {request : MetadataRequest}
    {value : CachedValue} {inserted : Nat} {past : List MetadataMoment} {moment : MetadataMoment}
    (provided : Provided hasher operation request value inserted past)
    (valid : invalidates request.target moment = false) :
    Provided hasher operation request value inserted (moment :: past) := by
  obtain ⟨older, early, middle, late, answered, timed, quiet⟩ := provided
  refine .intro older early middle (moment :: late) answered timed ?_
  simpa [valid] using quiet

/-- An answer that has come is provided once it is inserted. -/
theorem Arrived.inserted {hasher : PropertyHash} {fetcher : MetadataActor}
    {operation : MetadataOperation}
    {request : MetadataRequest} {answer : operation.Answer} {past : List MetadataMoment}
    {insertion : MetadataReading} {world : MetadataWorld}
    (arrived : Arrived fetcher operation request answer past) :
    Provided hasher operation request (operation.cachedValue answer) (world.now insertion)
      (.did fetcher (.insert (cacheKey hasher request operation) (operation.cachedValue answer))
        insertion () world :: past) := by
  obtain ⟨_, late, ⟨older, early, quiet⟩, valid⟩ := arrived
  refine .intro older early late [] rfl rfl ?_
  intro moment member
  rcases List.mem_append.mp member with before | after
  · exact valid moment before
  · exact quiet moment after

namespace MetadataService

variable (service : MetadataService)

/-- The service's steps start no calls. -/
theorem unspawned {place : Unit} {reading : MetadataReading} {act : MetadataOp}
    {world : MetadataWorld} {outcome : Outcome metadataOps MetadataWorld MetadataCall act}
    (handled : service.machine.handle place reading act world = some outcome) :
    outcome.spawned = none := by
  cases act <;> cases handled <;> rfl

theorem collides_self (call : MetadataCall) : service.collides call call = false := by
  unfold collides
  cases call.query <;> simp

/-- Calls collide with each other. -/
theorem collides_comm (one other : MetadataCall) :
    service.collides one other = service.collides other one := by
  unfold collides
  cases one.query <;> cases other.query <;> simp [eq_comm, List.perm_comm]

/-- Calls that do not collide and have one key ask for the same. -/
theorem same_of_key {one other : MetadataCall} (apart : service.collides one other = false)
    {operation operation' : MetadataOperation} {request request' : MetadataRequest}
    (asks : one.query = some (operation, request))
    (asks' : other.query = some (operation', request'))
    (key : cacheKey service.hasher request operation =
      cacheKey service.hasher request' operation') :
    operation = operation' ∧ request.Same request' := by
  have properties : request.properties.entries.Perm request'.properties.entries := by
    simpa [collides, asks, asks', key] using apart
  simp only [cacheKey, CacheKey.mk.injEq] at key
  obtain ⟨identity, target, engine, catalog, schema, pattern, _, operation⟩ := key
  exact ⟨operation, ⟨identity, target, engine, catalog, schema, pattern, properties⟩⟩

end MetadataService

namespace MetadataHistory

variable {service : MetadataService} {world : MetadataWorld} {past : List MetadataMoment}

variable {fetcher : MetadataActor} {operation : MetadataOperation} {request : MetadataRequest}

/-- While a call is fetching, its target is not invalidated. -/
theorem unbroken {newer older : List MetadataMoment}
    (history : MetadataHistory service world (newer ++ older)) (known : .started fetcher ∈ older)
    {target : String}

    (busy : ∀ later sooner, newer = later ++ sooner →
      fetching target (trailOf fetcher.thread (sooner ++ older)) = true) :
    ∀ moment ∈ newer, invalidates target moment = false := by
  intro moment member
  obtain ⟨later, sooner, rfl⟩ := List.append_of_mem member
  cases moment with
  | started actor => rfl
  | returned actor outcome => rfl
  | did actor act input reply before =>
    rw [List.append_assoc, List.cons_append] at history
    obtain ⟨_, _, _, _, _, _, met⟩ := history.did_split
    cases act with
    | invalidateTarget other =>
      by_contra same
      have same : other = target := by simpa [invalidates] using same
      subst same
      have idle := everyStarted_spec met (List.mem_append_right sooner known)
      rw [busy _ sooner (List.append_cons later _ sooner)] at idle
      cases idle
    | cached | calls | awaits | insert => rfl

/-- The steps a call has made since the newest of its trail are none. -/
theorem trail_since {thread : Nat} {newer older : List MetadataMoment}
    {step : Σ act : MetadataOp, metadataOps.Reply act} {rest : Trail metadataOps}
    (trail : trailOf thread (newer ++ older) = step :: rest)
    (earlier : trailOf thread older = step :: rest) {later sooner : List MetadataMoment}
    (split : newer = later ++ sooner) : trailOf thread (sooner ++ older) = step :: rest := by
  have nothing : trailOf thread newer = [] := by
    rw [trailOf_append, earlier] at trail
    exact List.append_left_eq_self.mp trail
  rw [split, trailOf_append] at nothing
  rw [trailOf_append, (List.append_eq_nil_iff.mp nothing).2, earlier]
  rfl

/-- A call that waits for its adapter has called it since the target was last invalidated. -/
theorem called (history : MetadataHistory service world past) (known : .started fetcher ∈ past)
    {rest : Trail metadataOps}
    (trail : trailOf fetcher.thread past = ⟨.calls operation request, ()⟩ :: rest) :
    Called fetcher operation request past := by
  obtain ⟨newer, older, input, before, _, rfl, earlier, _⟩ := history.newest known trail
  obtain ⟨_, _, started, _⟩ := history.did_split
  refine .intro older newer (unbroken history (List.mem_cons_of_mem _ started) ?_)
  intro later sooner split
  rw [trail_since trail (by rw [trailOf_did, if_pos rfl, earlier]) split]
  exact beq_self_eq_true _

/-- A call that has its adapter's answer has called it since the target was last invalidated. -/
theorem arrived (history : MetadataHistory service world past) (known : .started fetcher ∈ past)
    {answer : operation.Answer} {rest : Trail metadataOps}

    (trail : trailOf fetcher.thread past = ⟨.awaits operation request, .ok answer⟩ ::
      ⟨.calls operation request, ()⟩ :: rest) :
    Arrived fetcher operation request answer past := by
  obtain ⟨newer, older, input, before, _, rfl, earlier, _⟩ := history.newest known trail
  obtain ⟨_, held, started, _⟩ := history.did_split
  refine .intro older newer (called held started earlier)
    (unbroken history (List.mem_cons_of_mem _ started) ?_)
  intro later sooner split
  rw [trail_since trail (by rw [trailOf_did, if_pos rfl, earlier]) split]
  exact beq_self_eq_true _

/-- No two calls of the run have one key and different properties. -/
theorem keys_apart (history : MetadataHistory service world past) {one other : MetadataActor}
    (first : .started one ∈ past) (second : .started other ∈ past) :
    service.collides one.request other.request = false := by
  induction history with
  | initial => exact absurd first List.not_mem_nil
  | @arrives _ earlier place call _ _ met step =>
    have fresh {old : MetadataActor} (known : .started old ∈ earlier) :
        service.collides old.request call = false := by
      simpa using everyStarted_spec met known
    rcases List.mem_cons.mp first with head | tail <;>
      rcases List.mem_cons.mp second with head' | tail'
    · cases head
      cases head'
      exact service.collides_self call
    · cases head
      rw [service.collides_comm]
      exact fresh tail'
    · cases head'
      exact fresh tail
    · exact step tail tail'
  | @performs _ earlier actor act input outcome _ _ _ _ handled _ step =>
    rw [service.unspawned handled] at first second
    exact step (by simpa [begun] using first) (by simpa [begun] using second)
  | returns _ _ _ _ _ _ _ step =>
    exact step (by simpa using first) (by simpa using second)

/-- Every entry of the cache was put there by a call for its key, with an answer that was asked for
since the target was last invalidated. -/
theorem entries_provided (history : MetadataHistory service world past) {key : CacheKey}
    {entry : CacheEntry} (held : world.cache.lookup key = some entry) :
    ∃ fetcher operation request, .started fetcher ∈ past ∧
      fetcher.request.query = some (operation, request) ∧
      key = cacheKey service.hasher request operation ∧
      Provided service.hasher operation request entry.value entry.inserted past := by
  induction history generalizing key entry with
  | initial => cases held
  | arrives place call _ _ _ step =>
    obtain ⟨fetcher, operation, request, known, asks, same, provided⟩ := step held
    exact ⟨fetcher, operation, request, List.mem_cons_of_mem _ known, asks, same,
      provided.cons rfl⟩
  | returns actor result _ _ _ _ _ step =>
    obtain ⟨fetcher, operation, request, known, asks, same, provided⟩ := step held
    exact ⟨fetcher, operation, request, List.mem_cons_of_mem _ known, asks, same,
      provided.cons rfl⟩
  | @performs before earlier actor act input outcome history known _ allowed handled _ step =>
    rw [service.unspawned handled, begun]
    -- An entry that was there before stays provided unless its target is invalidated now.
    have stays (kept : before.cache.lookup key = some entry)
        (valid : invalidates key.target (.did actor act input outcome.reply before) = false) :
        ∃ fetcher operation request,
          .started fetcher ∈ .did actor act input outcome.reply before :: earlier ∧
          fetcher.request.query = some (operation, request) ∧
          key = cacheKey service.hasher request operation ∧
          Provided service.hasher operation request entry.value entry.inserted
            (.did actor act input outcome.reply before :: earlier) := by
      obtain ⟨fetcher, operation, request, known, asks, rfl, provided⟩ := step kept
      exact ⟨fetcher, operation, request, List.mem_cons_of_mem _ known, asks, rfl,
        provided.cons valid⟩
    cases act with
    | cached looked =>
      cases handled
      rw [MetadataService.unexpired, Registry.lookup_retain] at held
      exact stays (Option.filter_eq_some_iff.mp held).1 rfl
    | calls operation request =>
      cases handled
      exact stays held rfl
    | awaits operation request =>
      cases handled
      exact stays held rfl
    | invalidateTarget target =>
      cases handled
      rw [Registry.lookup_retain] at held
      obtain ⟨kept, apart⟩ := Option.filter_eq_some_iff.mp held
      exact stays kept (beq_eq_false_iff_ne.mpr (Ne.symm (of_decide_eq_true apart)))
    | insert stored value =>
      cases handled
      rw [Registry.lookup_insert_ite] at held
      split at held
      · next same =>
        subst same
        cases held
        obtain ⟨operation, request, answer, rest, asks, rfl, rfl, trail⟩ := allowed
        exact ⟨actor, operation, request, List.mem_cons_of_mem _ known, asks, rfl,
          (arrived history known trail).inserted⟩
      · exact stays held rfl

theorem good_of_hit (history : MetadataHistory service world past) {actor : MetadataActor}
    (known : .started actor ∈ past) (asks : actor.request.query = some (operation, request))
    {reading : MetadataReading}
    {outcome : Outcome metadataOps MetadataWorld MetadataCall (.cached (cacheKey service.hasher
      request operation))}
    {value : CachedValue}
    (handled : service.handle reading (.cached (cacheKey service.hasher request operation)) world =
      some outcome)
    (hit : outcome.reply = some value) :
    service.Good operation request value (world.now reading) past := by
  cases handled
  obtain ⟨entry, held, rfl⟩ := Option.map_eq_some_iff.mp hit
  rw [MetadataService.unexpired, Registry.lookup_retain] at held
  obtain ⟨kept, young⟩ := Option.filter_eq_some_iff.mp held
  obtain ⟨fetcher, operation', asked, started, asked_for, key, provided⟩ :=
    entries_provided history kept
  obtain ⟨rfl, same⟩ :=
    service.same_of_key (keys_apart history started known) asked_for asks key.symm
  exact ⟨asked, entry.inserted, same, provided, of_decide_eq_true young⟩

end MetadataHistory

/-- For any metadata calls and invalidations side by side, and any adapters' answers and times, in a
run in which no target is invalidated while a call is fetching from it and no two calls have one key
but different properties, every answer from the cache was given by the adapter to an equal request,
was asked for after the last invalidation of the target, and was inserted at most `ttl` ago. -/
theorem metadata_cache_answers_well (service : MetadataService) (schedule : List MetadataChoice)
    (careful : service.machine.Meets (fun _ past next => service.careful past next = true)
      (Machine.initial .new) schedule) :
    service.AnswersWell (service.machine.run (Machine.initial .new) schedule).past := by
  have history : MetadataHistory service _ _ :=
    service.machine.run_history service.obeys schedule careful
  generalize (service.machine.run (Machine.initial .new) schedule).past = past at history
  intro actor value returned unasked
  obtain ⟨trail, post, done⟩ := history.returned_post returned
  obtain ⟨operation, request, asks, looked⟩ := post value rfl
    fun operation request member => unasked operation request (done member)
  obtain ⟨reading, before, member⟩ := done looked
  obtain ⟨newer, older, rfl⟩ := List.append_of_mem member
  obtain ⟨outcome, held, known, _, handled, hit, _⟩ := history.did_split
  exact ⟨operation, request, reading, before, newer, older, asks, rfl,
    MetadataHistory.good_of_hit held known asks handled hit⟩

/-- Going back in time, the adapter is called for the target before the target is invalidated. -/
def fresh (target : String) : List MetadataMoment → Bool
  | [] => false
  | .did _ (.calls _ request) _ _ _ :: rest => request.target == target || fresh target rest
  | moment :: rest => !invalidates target moment && fresh target rest

theorem fresh_append {target : String} {newer older : List MetadataMoment}
    (valid : ∀ moment ∈ newer, invalidates target moment = false)
    (earlier : fresh target older = true) : fresh target (newer ++ older) = true := by
  induction newer with
  | nil => exact earlier
  | cons moment rest step =>
    have now := valid moment List.mem_cons_self
    have later := step fun other member => valid other (List.mem_cons_of_mem _ member)
    cases moment with
    | started | returned => exact later
    | did actor act input reply before =>
      cases act with
      | calls operation request => simp [fresh, later]
      | cached | awaits | insert | invalidateTarget => simp [fresh, now, later]

/-- A provided answer was asked for after the last invalidation of its target. -/
theorem Provided.fresh {hasher : PropertyHash} {operation : MetadataOperation}
    {request : MetadataRequest}
    {value : CachedValue} {inserted : Nat} {past : List MetadataMoment}
    (provided : Provided hasher operation request value inserted past) :
    fresh request.target past = true := by
  obtain ⟨older, early, middle, late, answered, timed, quiet⟩ := provided
  have valid {part : List MetadataMoment} (within : part ⊆ late ++ middle ++ early) :
      ∀ moment ∈ part, invalidates request.target moment = false :=
    fun moment member => quiet moment (within member)
  refine fresh_append (valid (by simp)) ?_
  refine fresh_append (valid (by simp)) (fresh_append (valid (by simp)) ?_)
  simp [ConfluxQuery.fresh]

/-- Each answer the cache has given was asked for before the target was last invalidated. -/
def staleHits (target : String) (past : List MetadataMoment) : Bool :=
  past.tails.all fun rest =>
    match rest with
    | .did _ (.cached _) _ (some _) _ :: older => !fresh target older
    | _ => true

/-- The newest return, if it brings metadata. -/
def lastAnswer : List MetadataMoment → Option (MetadataActor × CachedValue)
  | .returned actor (.ok (.found value)) :: _ => some (actor, value)
  | _ => none

/-- A call with this number has called an adapter. -/
def hasCalled (thread : Nat) (past : List MetadataMoment) : Bool :=
  (trailOf thread past).any fun step =>
    match step with
    | ⟨.calls _ _, _⟩ => true
    | _ => false

/-- An answer from the cache is not good when the cache has given stale answers only. -/
theorem not_answersWell {service : MetadataService} {past : List MetadataMoment}
    {actor : MetadataActor} {value : CachedValue} (target : String)
    (answer : lastAnswer past = some (actor, value)) (unasked : hasCalled actor.thread past = false)
    (asks : ∀ operation request, actor.request.query = some (operation, request) →
      request.target = target) (stale : staleHits target past = true) :
    ¬ service.AnswersWell past := by
  intro well
  have returned : .returned actor (.ok (.found value)) ∈ past := by
    unfold lastAnswer at answer
    split at answer
    · cases answer
      exact List.mem_cons_self
    · cases answer
  have silent (operation : MetadataOperation) (request : MetadataRequest) :
      ¬ Done past actor (.calls operation request) () := by
    rintro ⟨_, _, done⟩
    exact absurd (List.any_eq_false.mp unasked _ (History.trail_of_did done)) (by simp)
  obtain ⟨operation, request, reading, before, newer, older, query, rfl, asked, inserted, same,
    provided, _⟩ := well actor value returned silent
  have now := List.all_eq_true.mp stale _
    ((List.mem_tails _ _).mpr (List.suffix_append newer _))
  have kept := provided.fresh
  rw [same.target, asks _ _ query] at kept
  simp [kept] at now

namespace Sample

/-- A hash of property maps. -/
def countHash : PropertyHash where
  finish properties := UInt64.ofNat properties.entries.length
  alike _ _ perm := by rw [perm.length_eq]

/-- A service with one adapter that keeps entries for a minute. -/
def metadataService : MetadataService := ⟨["counting"], 60000, countHash⟩

/-- A lookup on a target. -/
def catalogsOf (target : String) : MetadataCall :=
  .catalogs ⟨"test-user", target, "counting", ∅, none, none, none⟩

/-- A step at which an adapter lists one catalog. -/
def oneCatalog : MetadataReading where
  waited := 1
  answer
    | .catalogs => .ok [⟨"catalog"⟩]
    | .schemas => .ok []
    | .objects => .ok []
    | .describe _ => .ok []

/-- Steps of one call. -/
def metadataSteps (thread count : Nat) : List MetadataChoice :=
  List.replicate count (.step thread oneCatalog)

/-- A lookup that fetches, and one that finds the answer. -/
def fetchThenFind : List MetadataChoice :=
  .start () (catalogsOf "one") :: metadataSteps 0 5 ++
    .start () (catalogsOf "one") :: metadataSteps 1 2

/-- An answer that was fetched is found by the next lookup, and it is good. -/
theorem found_again :
    lastAnswer (metadataService.machine.run (Machine.initial .new) fetchThenFind).past =
        some (⟨1, (), catalogsOf "one"⟩, .catalogs [⟨"catalog"⟩]) ∧
      hasCalled 1 (metadataService.machine.run (Machine.initial .new) fetchThenFind).past = false ∧
      metadataService.AnswersWell
        (metadataService.machine.run (Machine.initial .new) fetchThenFind).past :=
  ⟨rfl, by decide +kernel,
    metadata_cache_answers_well metadataService fetchThenFind (by decide +kernel)⟩

/-- A lookup whose target is invalidated while it waits for the adapter, and a later one. -/
def invalidateWhileFetching : List MetadataChoice :=
  .start () (catalogsOf "one") :: metadataSteps 0 2 ++
    .start () (.invalidateTarget "one") :: metadataSteps 1 2 ++ metadataSteps 0 3 ++
    .start () (catalogsOf "one") :: metadataSteps 2 2

/-- An answer that was asked for before an invalidation is put into the cache after it, and the next
lookup gets it from there. -/
theorem stale_answer_returned :
    lastAnswer (metadataService.machine.run (Machine.initial .new) invalidateWhileFetching).past =
        some (⟨2, (), catalogsOf "one"⟩, .catalogs [⟨"catalog"⟩]) ∧
      ¬ metadataService.AnswersWell
        (metadataService.machine.run (Machine.initial .new) invalidateWhileFetching).past := by
  refine ⟨rfl, not_answersWell "one" rfl (by decide +kernel) ?_ (by decide +kernel)⟩
  rintro operation request asks
  cases asks
  rfl

end Sample

end ConfluxQuery
