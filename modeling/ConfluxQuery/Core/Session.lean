import Mathlib
import ConfluxQuery.Lib.Registry

/-!
# Targets, principals and versioned sessions

Configured targets as `qcli-config` resolves them, the principals `qcli-auth` authenticates, and the
session manager of `qcli-core`: a registry of versioned sessions, each a target with overrides on
its properties. Every operation takes the session lock once, so each is one function on the
manager's state. Versions are unbounded here; the source's 64-bit counter would need 2⁶⁴ accepted
changes of one session to wrap.
-/

namespace ConfluxQuery

/-- A configuration value that remembers whether it is sensitive. -/
structure ConfigValue where
  value : String
  /-- The value is redacted on display. -/
  secret : Bool
  deriving DecidableEq, Repr

/-- The value itself, sensitive or not. -/
def ConfigValue.expose (entry : ConfigValue) : String := entry.value

/-- A target after default values are applied. -/
structure ResolvedTarget where
  name : String
  /-- Engine that serves the target. -/
  engine : String
  properties : Registry String ConfigValue

/-- A configuration: resolved targets, each under its own name. -/
structure Config where
  targets : Registry String ResolvedTarget
  /-- A target is stored under its name. -/
  named : ∀ name target, targets.lookup name = some target → target.name = name

/-- The target of a name. -/
def Config.target (config : Config) (name : String) : Option ResolvedTarget :=
  config.targets.lookup name

/-- Identity and policy of an authenticated caller. -/
structure AuthenticatedPrincipal where
  id : String
  /-- Targets the policy allows; `"*"` allows every target. -/
  allowedTargets : Finset String
  /-- Sessions the caller may hold at once. -/
  maxSessions : Nat
  /-- Queries the caller may run at once. -/
  maxConcurrentQueries : Nat
  deriving DecidableEq

/-- The policy allows a target. -/
def AuthenticatedPrincipal.canUseTarget (principal : AuthenticatedPrincipal) (target : String) :
    Bool :=
  decide ("*" ∈ principal.allowedTargets) || decide (target ∈ principal.allowedTargets)

/-- An error an engine's driver reports. -/
structure DriverError where
  code : String
  message : String
  deriving DecidableEq, Repr

/-- Text of a driver error. -/
def DriverError.display (error : DriverError) : String := error.code ++ ": " ++ error.message

/-- Errors of sessions and query orchestration. -/
inductive CoreError
  | sessionNotFound (id : String)
  | versionConflict (expected actual : Nat)
  | adapterNotFound (engine : String)
  | driver (error : DriverError)
  | task (error : String)
  deriving DecidableEq, Repr

/-- Text of a core error. -/
def CoreError.display : CoreError → String
  | sessionNotFound id => "session '" ++ id ++ "' does not exist"
  | versionConflict expected actual =>
    "session version conflict: expected " ++ toString expected ++ ", actual " ++ toString actual
  | adapterNotFound engine => "no adapter registered for engine '" ++ engine ++ "'"
  | driver error => "driver error: " ++ error.display
  | task error => "query task failed: " ++ error

/-- The immutable execution state of a session at one version. -/
structure SessionSnapshot where
  id : String
  version : Nat
  target : String
  engine : String
  /-- Properties handed to the engine. -/
  properties : Registry String String
  overrides : Registry String String

/-- A live session. -/
structure Session where
  id : String
  /-- Version, raised by each accepted change. -/
  version : Nat
  target : ResolvedTarget
  /-- Overrides on the target's properties. -/
  overrides : Registry String String

/-- A target's properties as plain text. -/
def ResolvedTarget.exposed (target : ResolvedTarget) : Registry String String :=
  Registry.mapValues (fun _ value => value.expose) target.properties

/-- Capture a session: the target's properties overlaid by the overrides. -/
def snapshot (session : Session) : SessionSnapshot where
  id := session.id
  version := session.version
  target := session.target.name
  engine := session.target.engine
  properties := Registry.extend session.target.exposed session.overrides
  overrides := session.overrides

/-- The local clock as `%Y%m%d_%H%M`: the date, which has no underscore, and the four digits of
the hour and the minute. -/
structure Minute where
  date : List Char
  time : List Char
  /-- The date has no underscore. -/
  plain : '_' ∉ date
  width : time.length = 4
  deriving DecidableEq

/-- The formatted minute. -/
def Minute.text (minute : Minute) : String :=
  String.ofList (minute.date ++ '_' :: minute.time)

/-- The process-wide state behind session identifiers. -/
structure SessionIdState where
  /-- Minute of the last identifier; empty before the first. -/
  minute : Option Minute
  /-- Identifiers handed out in that minute, wrapping after 99. -/
  counter : Nat
  deriving DecidableEq

/-- Replace every character that is not an ASCII letter, digit or underscore. -/
def safeUsername (username : String) : String :=
  let sanitized := username.toList.map fun character =>
    if character.isAlphanum || character == '_' then character else '_'
  if sanitized.isEmpty then "qcli" else String.ofList sanitized

/-- A number below one hundred in two digits. -/
def twoDigits (number : Nat) : List Char :=
  [Nat.digitChar (number / 10), Nat.digitChar (number % 10)]

/-- The next session identifier and the state after it. -/
def nextSessionId (username : String) (minute : Minute) (state : SessionIdState) :
    String × SessionIdState :=
  let counter := if state.minute = some minute then state.counter else 0
  let counter := counter % 99 + 1
  (safeUsername username ++ "_" ++ minute.text ++ "_" ++ String.ofList (twoDigits counter),
    ⟨some minute, counter⟩)

/-- The session manager: live sessions and the identifier state of the process. -/
structure SessionManager where
  sessions : Registry String Session
  ids : SessionIdState
  /-- A session is stored under its identifier. -/
  keyed : Registry.Forall (fun id session => session.id = id) sessions

namespace SessionManager

/-- A manager without sessions. -/
def empty : SessionManager := ⟨∅, ⟨none, 0⟩, Registry.forall_empty _⟩

/-- Store a session. -/
def put (manager : SessionManager) (session : Session) : SessionManager where
  sessions := manager.sessions.insert session.id session
  ids := manager.ids
  keyed := manager.keyed.insert rfl

/-- Hydrate a shared session, provided the resolved target matches the snapshot. -/
def restore (manager : SessionManager) (shared : SessionSnapshot) (target : ResolvedTarget) :
    Except CoreError Unit × SessionManager :=
  if shared.target ≠ target.name ∨ shared.engine ≠ target.engine then
    (.error (.sessionNotFound shared.id), manager)
  else
    (.ok (), manager.put ⟨shared.id, shared.version, target, shared.overrides⟩)

/-- The state of a session now. -/
def snapshot (manager : SessionManager) (id : String) : Except CoreError SessionSnapshot :=
  match manager.sessions.lookup id with
  | some session => .ok (ConfluxQuery.snapshot session)
  | none => .error (.sessionNotFound id)

/-- Change a session when the caller has its current version. The three mutators of the source
differ only in `change`; each raises the version by one. -/
def update (manager : SessionManager) (id : String) (expectedVersion : Nat)
    (change : Session → Session) : Except CoreError SessionSnapshot × SessionManager :=
  match manager.sessions.lookup id with
  | none => (.error (.sessionNotFound id), manager)
  | some session =>
    if session.version ≠ expectedVersion then
      (.error (.versionConflict expectedVersion session.version), manager)
    else
      let session := { change session with id := session.id, version := session.version + 1 }
      (.ok (ConfluxQuery.snapshot session), manager.put session)

/-- An accepted change was made to the stored session of that version, under its identifier. -/
theorem update_ok {manager after : SessionManager} {id : String} {expectedVersion : Nat}
    {change : Session → Session} {changed : SessionSnapshot}
    (accepted : manager.update id expectedVersion change = (.ok changed, after)) :
    ∃ session, manager.sessions.lookup id = some session ∧ session.version = expectedVersion ∧
      changed = ConfluxQuery.snapshot
        { change session with id := id, version := expectedVersion + 1 } ∧
      after = manager.put { change session with id := id, version := expectedVersion + 1 } := by
  unfold update at accepted
  split at accepted
  · cases accepted
  next session found =>
  have keyed : session.id = id := manager.keyed id session found
  split at accepted
  · cases accepted
  next current =>
  have version : session.version = expectedVersion := not_not.mp current
  subst keyed version
  cases accepted
  exact ⟨session, found, rfl, rfl, rfl⟩

theorem update_error {manager after : SessionManager} {id : String} {expectedVersion : Nat}
    {change : Session → Session} {error : CoreError}
    (refused : manager.update id expectedVersion change = (.error error, after)) :
    after = manager := by
  unfold update at refused
  split at refused
  · cases refused
    rfl
  · split at refused
    · cases refused
      rfl
    · cases refused

/-- Apply several overrides with one version increment. -/
def setOptions (manager : SessionManager) (id : String) (expectedVersion : Nat)
    (values : Registry String String) : Except CoreError SessionSnapshot × SessionManager :=
  manager.update id expectedVersion fun session =>
    { session with overrides := Registry.extend session.overrides values }

/-- Replace the target and drop all overrides. -/
def switchTarget (manager : SessionManager) (id : String) (expectedVersion : Nat)
    (target : ResolvedTarget) : Except CoreError SessionSnapshot × SessionManager :=
  manager.update id expectedVersion fun session => { session with target := target, overrides := ∅ }

/-- The change `mutate` makes: an optional new target, which drops all overrides, and then
overrides to set or remove. -/
def mutated (target : Option ResolvedTarget) (values : Registry String (Option String))
    (session : Session) : Session :=
  let session := match target with
    | some target => { session with target := target, overrides := ∅ }
    | none => session
  { session with overrides := Registry.amend session.overrides values }

/-- Replace the optional target and apply overrides with one version increment. -/
def mutate (manager : SessionManager) (id : String) (expectedVersion : Nat)
    (target : Option ResolvedTarget) (values : Registry String (Option String)) :
    Except CoreError SessionSnapshot × SessionManager :=
  manager.update id expectedVersion (mutated target values)

/-- Remove a session. -/
def close (manager : SessionManager) (id : String) : Except CoreError Unit × SessionManager :=
  match manager.sessions.lookup id with
  | some _ =>
    (.ok (), ⟨manager.sessions.erase id, manager.ids, manager.keyed.erase id⟩)
  | none => (.error (.sessionNotFound id), manager)

end SessionManager

/-- The sections of the session manager that run under one lock. -/
inductive SessionOp
  | restore (shared : SessionSnapshot) (target : ResolvedTarget)
  | nextSessionId (username : String)
  | insert (session : Session)
  | snapshot (id : String)
  | setOptions (id : String) (expectedVersion : Nat) (values : Registry String String)
  | switchTarget (id : String) (expectedVersion : Nat) (target : ResolvedTarget)
  | mutate (id : String) (expectedVersion : Nat) (target : Option ResolvedTarget)
      (values : Registry String (Option String))
  | close (id : String)

/-- Reply to a section of the session manager. -/
@[reducible] def SessionOp.Reply : SessionOp → Type
  | restore _ _ => Except CoreError Unit
  | nextSessionId _ => String
  | insert _ => Unit
  | snapshot _ => Except CoreError SessionSnapshot
  | setOptions _ _ _ => Except CoreError SessionSnapshot
  | switchTarget _ _ _ => Except CoreError SessionSnapshot
  | mutate _ _ _ _ => Except CoreError SessionSnapshot
  | close _ => Except CoreError Unit

/-- Perform a section of the session manager at a minute of the local clock. -/
def SessionOp.apply (minute : Minute) (manager : SessionManager) :
    (op : SessionOp) → op.Reply × SessionManager
  | restore shared target => manager.restore shared target
  | nextSessionId username =>
    let next := ConfluxQuery.nextSessionId username minute manager.ids
    (next.1, { manager with ids := next.2 })
  | insert session => ((), manager.put session)
  | snapshot id => (manager.snapshot id, manager)
  | setOptions id expectedVersion values => manager.setOptions id expectedVersion values
  | switchTarget id expectedVersion target => manager.switchTarget id expectedVersion target
  | mutate id expectedVersion target values => manager.mutate id expectedVersion target values
  | close id => manager.close id

end ConfluxQuery
