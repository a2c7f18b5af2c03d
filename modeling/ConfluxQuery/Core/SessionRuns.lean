import ConfluxQuery.Core.Session

/-!
# Runs of the session manager

Any number of clients call one session manager. Every call takes the session lock once, so a run is
a sequence of calls in the order in which they take it; a creation draws its identifier under
another lock before that, and carries it here. Beside the manager stands what its sessions are for:
a session is a version, a target and a function from property names to overrides, and every change
has an effect on these. A run keeps the two in step.
-/

namespace ConfluxQuery

/-- A change a client asks for, with what it sets. -/
inductive SessionChange
  | setOption (name value : String)
  | setOptions (values : Registry String String)
  | switchTarget (target : ResolvedTarget)
  | mutate (target : Option ResolvedTarget) (values : Registry String (Option String))

/-- A call of a client. -/
inductive SessionCall
  | createWithOverrides (id : String) (target : ResolvedTarget)
      (overrides : Registry String String)
  | change (id : String) (expectedVersion : Nat) (change : SessionChange)
  | snapshot (id : String)
  | close (id : String)

/-- What a call answers: a snapshot, or nothing after a close. -/
abbrev SessionAnswer : Type := Except CoreError (Option SessionSnapshot)

/-- A version-one session. -/
def Session.first (id : String) (target : ResolvedTarget) (overrides : Registry String String) :
    Session :=
  ⟨id, 1, target, overrides⟩

namespace SessionManager

/-- Apply one override. -/
def setOption (manager : SessionManager) (id : String) (expectedVersion : Nat)
    (name value : String) : Except CoreError SessionSnapshot × SessionManager :=
  manager.setOptions id expectedVersion (AList.insert name value ∅)

/-- The mutator a change asks for. -/
def change (manager : SessionManager) (id : String) (expectedVersion : Nat) :
    SessionChange → Except CoreError SessionSnapshot × SessionManager
  | .setOption name value => manager.setOption id expectedVersion name value
  | .setOptions values => manager.setOptions id expectedVersion values
  | .switchTarget target => manager.switchTarget id expectedVersion target
  | .mutate target values => manager.mutate id expectedVersion target values

/-- Serve a call. -/
def serve (manager : SessionManager) : SessionCall → SessionAnswer × SessionManager
  | .createWithOverrides id target overrides =>
    let session := Session.first id target overrides
    (.ok (some (ConfluxQuery.snapshot session)), manager.put session)
  | .change id expectedVersion change =>
    let result := manager.change id expectedVersion change
    (result.1.map some, result.2)
  | .snapshot id => ((manager.snapshot id).map some, manager)
  | .close id =>
    let result := manager.close id
    (result.1.map fun _ => none, result.2)

/-- A stored session is found under its identifier, and every other one as before. -/
theorem lookup_put (manager : SessionManager) (session : Session) (id : String) :
    (manager.put session).sessions.lookup id =
      if id = session.id then some session else manager.sessions.lookup id :=
  Registry.lookup_insert_ite _ _ _ _

end SessionManager

/-- What a session is for: a version, a target, and overrides by property name. -/
structure SessionView where
  version : Nat
  target : ResolvedTarget
  /-- Override of a property, if it has one. -/
  overrides : String → Option String

/-- The view of a stored session. -/
def Session.view (session : Session) : SessionView :=
  ⟨session.version, session.target, fun name => session.overrides.lookup name⟩

namespace SessionView

/-- A property of a session: its override, or else the target's own value. -/
def property (view : SessionView) (name : String) : Option String :=
  (view.overrides name).or ((view.target.properties.lookup name).map ConfigValue.expose)

/-- Move to a target, which drops all overrides. -/
def moved (view : SessionView) (target : ResolvedTarget) : SessionView :=
  { view with target := target, overrides := fun _ => none }

end SessionView

/-- What a change does to a session. -/
def SessionChange.effect (change : SessionChange) (view : SessionView) : SessionView :=
  let view := { view with version := view.version + 1 }
  match change with
  | setOption name value =>
    { view with overrides := Function.update view.overrides name (some value) }
  | setOptions values =>
    { view with overrides := fun name => (values.lookup name).or (view.overrides name) }
  | switchTarget target => view.moved target
  | mutate target values =>
    let view := target.elim view view.moved
    { view with overrides := fun name => (values.lookup name).getD (view.overrides name) }

theorem SessionChange.effect_version (change : SessionChange) (view : SessionView) :
    (change.effect view).version = view.version + 1 := by
  cases change with
  | setOption => rfl
  | setOptions => rfl
  | switchTarget => rfl
  | mutate target values => cases target <;> rfl

theorem snapshot_property (session : Session) (name : String) :
    (snapshot session).properties.lookup name = session.view.property name := by
  change (Registry.extend session.target.exposed session.overrides).lookup name = _
  rw [Registry.lookup_extend, ResolvedTarget.exposed, Registry.lookup_mapValues]
  rfl

/-- An accepted change replaces the session of the expected version by one that shows the effect of
the change. -/
theorem SessionManager.change_ok {manager after : SessionManager} {id : String}
    {expectedVersion : Nat} {change : SessionChange} {changed : SessionSnapshot}
    (accepted : manager.change id expectedVersion change = (.ok changed, after)) :
    ∃ before session, manager.sessions.lookup id = some before ∧
      before.version = expectedVersion ∧ session.id = id ∧
      session.view = change.effect before.view ∧ changed = ConfluxQuery.snapshot session ∧
      after = manager.put session := by
  cases change with
  | setOption name value =>
    obtain ⟨before, found, rfl, rfl, rfl⟩ := update_ok accepted
    refine ⟨before, _, found, rfl, rfl, ?_, rfl, rfl⟩
    simp only [Session.view, SessionChange.effect, SessionView.mk.injEq, true_and]
    funext other
    rw [Registry.lookup_extend, Registry.lookup_insert_ite, Function.update_apply]
    split <;> simp
  | setOptions values =>
    obtain ⟨before, found, rfl, rfl, rfl⟩ := update_ok accepted
    refine ⟨before, _, found, rfl, rfl, ?_, rfl, rfl⟩
    simp only [Session.view, SessionChange.effect, Registry.lookup_extend]
  | switchTarget target =>
    obtain ⟨before, found, rfl, rfl, rfl⟩ := update_ok accepted
    refine ⟨before, _, found, rfl, rfl, ?_, rfl, rfl⟩
    simp [Session.view, SessionChange.effect, SessionView.moved]
  | mutate target values =>
    obtain ⟨before, found, rfl, rfl, rfl⟩ := update_ok accepted
    refine ⟨before, _, found, rfl, rfl, ?_, rfl, rfl⟩
    cases target <;>
      simp [Session.view, SessionChange.effect, SessionView.moved, SessionManager.mutated,
        Registry.lookup_amend]

theorem SessionManager.change_error {manager after : SessionManager} {id : String}
    {expectedVersion : Nat} {change : SessionChange} {error : CoreError}
    (refused : manager.change id expectedVersion change = (.error error, after)) :
    after = manager := by
  cases change with
  | setOption => exact update_error refused
  | setOptions => exact update_error refused
  | switchTarget => exact update_error refused
  | mutate => exact update_error refused

theorem SessionManager.serve_error {manager : SessionManager} {call : SessionCall}
    {error : CoreError} (failed : (manager.serve call).1 = .error error) :
    (manager.serve call).2 = manager := by
  cases call with
  | createWithOverrides => cases failed
  | change id expectedVersion change =>
    cases result : manager.change id expectedVersion change with
    | mk reply after =>
      cases reply with
      | ok changed => simp [serve, result, Except.map] at failed
      | error refused =>
        simp only [serve, result]
        exact change_error result
  | snapshot => rfl
  | close id =>
    simp only [serve, close] at failed ⊢
    split
    · next found => simp [found, Except.map] at failed
    · rfl

/-- Calls served so far, each with its answer, the oldest first, and the manager after them. -/
structure SessionRun where
  manager : SessionManager
  log : List (SessionCall × SessionAnswer)

/-- Serve one more call. -/
def SessionRun.next (run : SessionRun) (call : SessionCall) : SessionRun where
  manager := (run.manager.serve call).2
  log := run.log ++ [(call, (run.manager.serve call).1)]

/-- Serve calls from a manager without sessions. -/
def serveAll (calls : List SessionCall) : SessionRun := calls.foldl SessionRun.next ⟨.empty, []⟩

/-- A run goes on from where it was. -/
theorem serveAll_concat (calls : List SessionCall) (call : SessionCall) :
    serveAll (calls ++ [call]) = (serveAll calls).next call := by
  simp [serveAll]

/-- The identifier a creation carries. -/
def SessionCall.creates : SessionCall → Option String
  | createWithOverrides id _ _ => some id
  | _ => none

/-- No two creations of a run carry the same identifier. -/
def FreshIds (calls : List SessionCall) : Prop := (calls.filterMap SessionCall.creates).Nodup

/-- The change of a session that an entry of the log records as accepted, with its expected
version. -/
def acceptedChange (id : String) : SessionCall × SessionAnswer → Option (Nat × SessionChange)
  | (.change other expectedVersion change, .ok _) =>
    if other = id then some (expectedVersion, change) else none
  | _ => none

/-- The session an entry of the log creates. -/
def createdView (id : String) : SessionCall × SessionAnswer → Option SessionView
  | (.createWithOverrides other target overrides, _) =>
    if other = id then some (Session.first id target overrides).view else none
  | _ => none

namespace SessionRun

/-- The accepted changes of a session, in the order of the log. -/
def accepted (run : SessionRun) (id : String) : List (Nat × SessionChange) :=
  run.log.filterMap (acceptedChange id)

/-- A session as it was created. -/
def created (run : SessionRun) (id : String) : Option SessionView :=
  run.log.findSome? (createdView id)

/-- A session as created, with its accepted changes applied one after another. -/
def replay (run : SessionRun) (id : String) : Option SessionView :=
  (run.created id).map ((run.accepted id).foldl fun view change => change.2.effect view)

theorem accepted_next (run : SessionRun) (call : SessionCall) (id : String) :
    (run.next call).accepted id =
      run.accepted id ++ (acceptedChange id (call, (run.manager.serve call).1)).toList := by
  simp only [accepted, next, List.filterMap_append]
  cases shape : acceptedChange id (call, (run.manager.serve call).1) <;> simp [shape]

/-- A session is created by the first creation that names it. -/
theorem created_next (run : SessionRun) (call : SessionCall) (id : String) :
    (run.next call).created id =
      (run.created id).or (createdView id (call, (run.manager.serve call).1)) := by
  simp only [created, next, List.findSome?_append]
  cases shape : createdView id (call, (run.manager.serve call).1) <;> simp [shape]

/-- A session of the manager is the replay of its changes, whose expected versions count up from
one; a session that was never created has no changes and is not there. -/
structure InStep (run : SessionRun) (id : String) : Prop where
  /-- A live session shows its replay, and its version counts its accepted changes. -/
  live : ∀ session, run.manager.sessions.lookup id = some session →
    run.replay id = some session.view ∧ session.version = (run.accepted id).length + 1
  /-- Each accepted change expected the version its predecessor left. -/
  ordered : (run.accepted id).map Prod.fst = List.range' 1 (run.accepted id).length
  /-- What was not created is not there. -/
  unborn : run.created id = none →
    run.manager.sessions.lookup id = none ∧ run.accepted id = []

/-- A call that neither creates a session nor is an accepted change of it keeps it in step, when it
leaves the session as it was or removes it. -/
theorem InStep.frame {run : SessionRun} {id : String} (held : run.InStep id) {call : SessionCall}
    (unchanged : acceptedChange id (call, (run.manager.serve call).1) = none)
    (uncreated : createdView id (call, (run.manager.serve call).1) = none)
    (kept : ∀ session, (run.next call).manager.sessions.lookup id = some session →
      run.manager.sessions.lookup id = some session) : (run.next call).InStep id := by
  have accepted : (run.next call).accepted id = run.accepted id := by
    simp [accepted_next, unchanged]
  have created : (run.next call).created id = run.created id := by
    simp [created_next, uncreated]
  refine ⟨fun session found => ?_, accepted ▸ held.ordered, fun absent => ?_⟩
  · rw [replay, accepted, created]
    exact held.live session (kept session found)
  · obtain ⟨missing, none⟩ := held.unborn (created ▸ absent)
    refine ⟨Option.eq_none_iff_forall_ne_some.mpr fun session found => ?_, accepted ▸ none⟩
    exact absurd ((kept session found).symm.trans missing) nofun

/-- The session a creation makes is in step, when its identifier is new. -/
theorem InStep.create {run : SessionRun} {id : String} (held : run.InStep id)
    (fresh : run.created id = none) (target : ResolvedTarget)
    (overrides : Registry String String) :
    (run.next (.createWithOverrides id target overrides)).InStep id := by
  obtain ⟨missing, none⟩ := held.unborn fresh
  have accepted : (run.next (.createWithOverrides id target overrides)).accepted id = [] := by
    simp [accepted_next, none, acceptedChange]
  have created : (run.next (.createWithOverrides id target overrides)).created id =
      some (Session.first id target overrides).view := by
    simp [created_next, fresh, createdView]
  refine ⟨fun session found => ?_, by simp [accepted], fun absent => ?_⟩
  · have stored : (run.manager.put (Session.first id target overrides)).sessions.lookup id =
        some session := found
    rw [SessionManager.lookup_put] at stored
    cases stored.symm.trans (if_pos rfl)
    simp [replay, accepted, created, Session.first]
  · simp [created] at absent

/-- An accepted change keeps its session in step: the session it found was at the version the
changes before it had left. -/
theorem InStep.change {run : SessionRun} {id : String} (held : run.InStep id)
    {expectedVersion : Nat} {change : SessionChange} {changed : SessionSnapshot}
    {after : SessionManager}
    (done : run.manager.change id expectedVersion change = (.ok changed, after)) :
    (run.next (.change id expectedVersion change)).InStep id := by
  obtain ⟨before, session, found, version, named, shown, -, rfl⟩ :=
    SessionManager.change_ok done
  obtain ⟨replayed, counted⟩ := held.live before found
  have served : run.manager.serve (.change id expectedVersion change) =
      (.ok (some changed), run.manager.put session) := by
    simp [SessionManager.serve, done, Except.map]
  have accepted : (run.next (.change id expectedVersion change)).accepted id =
      run.accepted id ++ [(expectedVersion, change)] := by
    simp [accepted_next, served, acceptedChange]
  have created : (run.next (.change id expectedVersion change)).created id = run.created id := by
    simp [created_next, createdView]
  have expected : expectedVersion = 1 + (run.accepted id).length := by omega
  refine ⟨fun stored present => ?_, ?_, fun absent => ?_⟩
  · have present : (run.manager.put session).sessions.lookup id = some stored := by
      simpa only [next, served] using present
    rw [SessionManager.lookup_put, if_pos named.symm] at present
    cases present
    have raised : session.version = before.version + 1 := by
      have raised := change.effect_version before.view
      rwa [← shown] at raised
    constructor
    · rw [replay, accepted, created]
      simp only [replay, Option.map_eq_some_iff] at replayed ⊢
      obtain ⟨first, made, folded⟩ := replayed
      exact ⟨first, made, by rw [List.foldl_append, folded, shown]; rfl⟩
    · rw [accepted, List.length_append, raised, counted]
      rfl
  · rw [accepted, List.map_append, List.length_append, held.ordered, expected,
      List.length_singleton, List.range'_concat]
    simp
  · rw [created] at absent
    exact absurd (found.symm.trans (held.unborn absent).1) nofun

/-- Every call keeps every session in step, when a creation carries a new identifier. -/
theorem InStep.next {run : SessionRun} {id : String} (held : run.InStep id) {call : SessionCall}
    (fresh : call.creates = some id → run.created id = none) : (run.next call).InStep id := by
  cases call with
  | createWithOverrides other target overrides =>
    by_cases same : other = id
    · subst same
      exact held.create (fresh rfl) target overrides
    · refine held.frame rfl (by simp [createdView, same]) fun session found => ?_
      have stored : (run.manager.put (Session.first other target overrides)).sessions.lookup id =
          some session := found
      have apart : id ≠ (Session.first other target overrides).id := Ne.symm same
      rwa [SessionManager.lookup_put, if_neg apart] at stored
  | change other expectedVersion change =>
    cases result : run.manager.change other expectedVersion change with
    | mk reply after =>
      cases reply with
      | error refused =>
        have unchanged : after = run.manager := SessionManager.change_error result
        refine held.frame ?_ rfl ?_ <;>
          simp [SessionManager.serve, SessionRun.next, result, unchanged, Except.map,
            acceptedChange]
      | ok changed =>
        by_cases same : other = id
        · subst same
          exact held.change result
        · obtain ⟨_, session, _, _, named, _, _, rfl⟩ := SessionManager.change_ok result
          refine held.frame ?_ rfl fun stored found => ?_
          · simp [SessionManager.serve, result, Except.map, acceptedChange, same]
          · have apart : id ≠ session.id := fun equal => same (named.symm.trans equal.symm)
            have found : (run.manager.put session).sessions.lookup id = some stored := by
              simpa only [SessionRun.next, SessionManager.serve, result] using found
            rwa [SessionManager.lookup_put, if_neg apart] at found
  | snapshot other => exact held.frame rfl rfl fun session found => found
  | close other =>
    refine held.frame rfl rfl fun session found => ?_
    simp only [SessionRun.next, SessionManager.serve, SessionManager.close] at found
    split at found
    · simp only [Registry.lookup_erase_ite] at found
      split at found
      · cases found
      · exact found
    · exact found

end SessionRun

theorem serveAll_calls (calls : List SessionCall) :
    (serveAll calls).log.map Prod.fst = calls := by
  induction calls using List.reverseRecOn with
  | nil => rfl
  | append_singleton calls call step =>
    rw [serveAll_concat, SessionRun.next, List.map_append, step]
    rfl

theorem created_none {calls : List SessionCall} {id : String}
    (absent : id ∉ calls.filterMap SessionCall.creates) : (serveAll calls).created id = none := by
  refine List.findSome?_eq_none_iff.mpr fun entry member => ?_
  obtain ⟨call, answer⟩ := entry
  have called : call ∈ calls := by
    rw [← serveAll_calls calls]
    exact List.mem_map_of_mem member
  cases call with
  | createWithOverrides other target overrides =>
    have apart : other ≠ id := fun same =>
      absent (List.mem_filterMap.mpr ⟨_, called, by simp [SessionCall.creates, same]⟩)
    simp [createdView, apart]
  | change => rfl
  | snapshot => rfl
  | close => rfl

/-- In a run whose creations carry new identifiers every session is in step. -/
theorem serveAll_inStep (calls : List SessionCall) (fresh : FreshIds calls) (id : String) :
    (serveAll calls).InStep id := by
  induction calls using List.reverseRecOn with
  | nil =>
    exact ⟨fun session found => absurd found (by simp [serveAll, SessionManager.empty]), rfl,
      fun _ => ⟨rfl, rfl⟩⟩
  | append_singleton calls call step =>
    rw [FreshIds, List.filterMap_append, List.nodup_append] at fresh
    rw [serveAll_concat]
    refine (step fresh.1).next fun created => created_none fun member => ?_
    exact fresh.2.2 id member id (by simp [created]) rfl

/-- A snapshot shows a view: its properties are the target's overlaid by the overrides. -/
structure SessionSnapshot.Shows (shown : SessionSnapshot) (view : SessionView) : Prop where
  version : shown.version = view.version
  target : shown.target = view.target.name
  engine : shown.engine = view.target.engine
  overrides : ∀ name, shown.overrides.lookup name = view.overrides name
  properties : ∀ name, shown.properties.lookup name = view.property name

theorem snapshot_shows (session : Session) : (snapshot session).Shows session.view :=
  ⟨rfl, rfl, rfl, fun _ => rfl, snapshot_property session⟩

/-- A snapshot that a call answers is that of a session which is live after the call. -/
theorem SessionManager.serve_snapshot {manager : SessionManager} {call : SessionCall}
    {shown : SessionSnapshot} (answered : (manager.serve call).1 = .ok (some shown)) :
    ∃ session, (manager.serve call).2.sessions.lookup shown.id = some session ∧
      shown = ConfluxQuery.snapshot session := by
  cases call with
  | createWithOverrides id target overrides =>
    cases answered
    exact ⟨_, (lookup_put _ _ _).trans (if_pos rfl), rfl⟩
  | change id expectedVersion change =>
    cases result : manager.change id expectedVersion change with
    | mk reply after =>
      cases reply with
      | error refused => simp [serve, result, Except.map] at answered
      | ok changed =>
        obtain ⟨_, session, _, _, _, _, rfl, rfl⟩ := change_ok result
        have same : ConfluxQuery.snapshot session = shown := by
          simpa [serve, result, Except.map] using answered
        subst same
        refine ⟨session, ?_, rfl⟩
        simp only [serve, result]
        exact (lookup_put _ _ _).trans (if_pos rfl)
  | snapshot id =>
    simp only [serve, SessionManager.snapshot] at answered ⊢
    split at answered
    · next session found =>
      have same : ConfluxQuery.snapshot session = shown := by
        simpa [Except.map] using answered
      subst same
      have keyed : session.id = id := manager.keyed id session found
      subst keyed
      exact ⟨session, found, rfl⟩
    · simp [Except.map] at answered
  | close id =>
    simp only [serve, close] at answered
    split at answered <;> simp [Except.map] at answered

/-- At most one accepted change of a session expected a given version. -/
theorem SessionRun.InStep.once {run : SessionRun} {id : String} (held : run.InStep id)
    (version : Nat) :
    (run.accepted id).countP (fun change => change.1 == version) ≤ 1 := by
  have counted : (run.accepted id).countP (fun change => change.1 == version) =
      ((run.accepted id).map Prod.fst).count version := by
    simp [List.count, List.countP_map, Function.comp_def]
  rw [counted, held.ordered]
  exact List.nodup_iff_count_le_one.mp List.nodup_range' version

/-- Optimistic concurrency of sessions, for every run of clients over one session manager whose
creations carry new identifiers. A live session's version is one more than the number of its
accepted changes, and the session is the replay of those from its creation; their expected versions
are one, two and so on in the order of the run, so that of the calls that expect the same version at
most one is accepted. A call that fails changes nothing. Every snapshot that a call answers shows
the session as it is after the call. -/
theorem sessions_optimistic (calls : List SessionCall) (fresh : FreshIds calls) :
    (∀ id session, (serveAll calls).manager.sessions.lookup id = some session →
      session.version = 1 + ((serveAll calls).accepted id).length ∧
        (serveAll calls).replay id = some session.view) ∧
    (∀ id, ((serveAll calls).accepted id).map Prod.fst =
      List.range' 1 ((serveAll calls).accepted id).length) ∧
    (∀ id version,
      ((serveAll calls).accepted id).countP (fun change => change.1 == version) ≤ 1) ∧
    (∀ earlier call later, calls = earlier ++ call :: later →
      ∀ error, ((serveAll earlier).manager.serve call).1 = .error error →
        (serveAll (earlier ++ [call])).manager = (serveAll earlier).manager) ∧
    ∀ earlier call later, calls = earlier ++ call :: later →
      ∀ shown, ((serveAll earlier).manager.serve call).1 = .ok (some shown) →
        ∃ view, (serveAll (earlier ++ [call])).replay shown.id = some view ∧
          shown.Shows view ∧
          shown.version = 1 + ((serveAll (earlier ++ [call])).accepted shown.id).length := by
  have inStep := serveAll_inStep calls fresh
  refine ⟨fun id session found => ?_, fun id => (inStep id).ordered,
    fun id version => (inStep id).once version, ?_, ?_⟩
  · obtain ⟨replayed, counted⟩ := (inStep id).live session found
    exact ⟨by omega, replayed⟩
  · rintro earlier call later rfl error failed
    rw [serveAll_concat]
    exact SessionManager.serve_error failed
  · rintro earlier call later rfl shown answered
    have partly : FreshIds (earlier ++ [call]) := by
      have whole : earlier ++ call :: later = (earlier ++ [call]) ++ later := by simp
      rw [FreshIds, whole, List.filterMap_append] at fresh
      exact fresh.of_append_left
    obtain ⟨session, found, rfl⟩ := SessionManager.serve_snapshot answered
    have live : (serveAll (earlier ++ [call])).manager.sessions.lookup (snapshot session).id =
        some session := by
      rw [serveAll_concat]
      exact found
    obtain ⟨replayed, counted⟩ :=
      (serveAll_inStep (earlier ++ [call]) partly _).live session live
    have version : (snapshot session).version = session.version := rfl
    exact ⟨session.view, replayed, snapshot_shows session, by omega⟩

namespace Sample

/-- Two clients present version one to a session, and then one of them moves it. -/
def racingCalls : List SessionCall :=
  [.createWithOverrides "s" ⟨"demo", "demo", ∅⟩ ∅,
    .change "s" 1 (.setOption "limit" "10"),
    .change "s" 1 (.mutate none (AList.insert "limit" (some "20") ∅)),
    .change "s" 2 (.switchTarget ⟨"demo", "demo", ∅⟩)]

end Sample

/-- Of two clients that present version one, one is accepted; the session ends at version three. -/
theorem racing_calls_once : FreshIds Sample.racingCalls ∧
    ((serveAll Sample.racingCalls).accepted "s").countP (fun change => change.1 == 1) ≤ 1 ∧
    ((serveAll Sample.racingCalls).manager.sessions.lookup "s").map Session.version = some 3 :=
  have fresh : FreshIds Sample.racingCalls := by
    unfold FreshIds
    decide
  ⟨fresh, (sessions_optimistic Sample.racingCalls fresh).2.2.1 "s" 1, by decide +kernel⟩

end ConfluxQuery
