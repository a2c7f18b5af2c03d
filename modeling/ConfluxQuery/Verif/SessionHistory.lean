import ConfluxQuery.Verif.StoreHistory

/-!
# Sessions over a whole run

What every operation does to the session of an identifier at each process, stated as a change of
that one entry.
-/

namespace ConfluxQuery

/-- What an accepted or refused change makes of a session. -/
def Session.revised (expectedVersion : Nat) (change : Session → Session) (session : Session) :
    Session :=
  if session.version = expectedVersion then
    { change session with id := session.id, version := session.version + 1 }
  else session

/-- A change of one session, read back at any identifier. -/
theorem SessionManager.lookup_update (manager : SessionManager) (id : String)
    (expectedVersion : Nat) (change : Session → Session) (other : String) :
    (manager.update id expectedVersion change).2.sessions.lookup other =
      if other = id then (manager.sessions.lookup id).map (Session.revised expectedVersion change)
      else manager.sessions.lookup other := by
  unfold SessionManager.update
  split
  · next absent =>
    by_cases same : other = id
    · subst same
      simp [absent]
    · simp [same]
  · next session found =>
    have keyed : session.id = id := manager.keyed id session found
    split
    · next stale =>
      by_cases same : other = id
      · subst same
        simp [found, Session.revised, stale]
      · simp [same]
    · next current =>
      simp only [SessionManager.put, Registry.lookup_insert_ite, keyed, found, Option.map_some,
        Session.revised, if_pos (not_not.mp current)]

/-- The session a mutator is about, the version it expects and the change it makes. -/
def SessionOp.revision : SessionOp → Option (String × Nat × (Session → Session))
  | setOptions id version values =>
    some (id, version, fun session =>
      { session with overrides := Registry.extend session.overrides values })
  | switchTarget id version target =>
    some (id, version, fun session => { session with target := target, overrides := ∅ })
  | mutate id version target values => some (id, version, SessionManager.mutated target values)
  | _ => none

/-- What a section does to the session of an identifier. -/
def SessionOp.alter (id : String) (op : SessionOp) (found : Option Session) : Option Session :=
  match op with
  | restore shared target =>
    if id = shared.id ∧ shared.target = target.name ∧ shared.engine = target.engine then
      some ⟨shared.id, shared.version, target, shared.overrides⟩
    else found
  | insert session => if id = session.id then some session else found
  | close other => if id = other then none else found
  | nextSessionId _ | snapshot _ => found
  | op => match op.revision with
    | some (other, version, change) =>
      if id = other then found.map (Session.revised version change) else found
    | none => found

theorem SessionOp.apply_lookup (minute : Minute) (manager : SessionManager) (op : SessionOp)
    (id : String) :
    (op.apply minute manager).2.sessions.lookup id = op.alter id (manager.sessions.lookup id) := by
  have updated : ∀ other version change,
      (manager.update other version change).2.sessions.lookup id =
        if id = other then (manager.sessions.lookup id).map (Session.revised version change)
        else manager.sessions.lookup id := by
    intro other version change
    rw [manager.lookup_update]
    split
    · next same => rw [same]
    · rfl
  cases op with
  | restore shared target =>
    simp only [SessionOp.apply, SessionManager.restore, SessionOp.alter]
    split
    · next mismatch => rw [if_neg (by tauto)]
    · next matched =>
      rw [SessionManager.put, Registry.lookup_insert_ite]
      by_cases same : id = shared.id
      · rw [if_pos same, if_pos (by tauto)]
      · rw [if_neg same, if_neg (by tauto)]
  | nextSessionId | snapshot => rfl
  | insert session => exact Registry.lookup_insert_ite _ _ _ _
  | setOptions other version values => exact updated _ _ _
  | switchTarget other version target => exact updated _ _ _
  | mutate other version target values => exact updated _ _ _
  | close other =>
    simp only [SessionOp.apply, SessionManager.close, SessionOp.alter]
    split
    · rw [Registry.lookup_erase_ite]
    · next absent =>
      by_cases same : id = other
      · rw [if_pos same, same, absent]
      · rw [if_neg same]

section

variable {S : Type}

/-- The session of an identifier at a process. -/
def World.session (world : World S) (place : Nat) (id : String) : Option Session :=
  (world.nodes place).sessions.sessions.lookup id

variable [ClusterStateStore S Payload] {place : Nat} {reading : Reading} {act : Op}
  {world : World S} {outcome : Outcome gatewayOps (World S) Request act}

/-- A section of the session manager changes sessions one by one. -/
theorem handle_session {sub : SessionOp}
    {outcome : Outcome gatewayOps (World S) Request (.sessions sub)}
    (handled : handle place reading (.sessions sub) world = some outcome) (id : String) :
    outcome.world.session place id = sub.alter id (world.session place id) := by
  rw [World.session, (handle_sessions handled).2, SessionOp.apply_lookup]
  rfl

/-- An operation leaves the session of an identifier alone, or it is a section of the process's own
session manager. -/
theorem handle_session_cases (handled : handle place reading act world = some outcome)
    (node : Nat) (id : String) :
    outcome.world.session node id = world.session node id ∨
      ∃ sub, act = .sessions sub ∧ node = place ∧
        outcome.world.session node id = sub.alter id (world.session node id) := by
  by_cases here : node = place
  · subst here
    cases act with
    | sessions sub => exact .inr ⟨sub, rfl, rfl, handle_session handled id⟩
    | owners | records | prepared | store | objects | adapter | host =>
      refine .inl ?_
      rw [World.session, (handle_framed handled).sessions (by simp)]
      rfl
  · refine .inl ?_
    rw [World.session, (handle_framed handled).nodes node here]
    rfl

end

end ConfluxQuery
