import ConfluxQuery.Driver.Databricks

/-!
# Cancellation of Databricks statements

What the Databricks adapter still does once the cancellation signal is set. Each turn of the polling
loop looks at the signal before anything else, so at most one more status is asked for and the
statement is cancelled. The loop over the chunks of a result never looks: a result whose delivery
has begun is read to its end. The environment answers each operation by what was performed before;
the signal is set after a number of operations.
-/

namespace ConfluxQuery.Sample

/-- A builder of batches that checks the lengths of the columns. -/
def builder : BatchBuilder where
  tryNew fields arrays :=
    match arrays with
    | [] => .error "must either specify a row count or at least one column"
    | first :: rest =>
      if rest.all (·.length = first.length) then
        .ok ⟨⟨fields.map NotedField.field⟩, arrays.map List.length,
          first.mapIdx fun index _ => arrays.map fun array => array[index]?.join.getD ""⟩
      else .error "all columns in a record batch must have the same length"
  rows_of_tryNew fields arrays batch made := by
    cases arrays with
    | nil => cases made
    | cons first rest =>
      dsimp only at made
      split at made
      · next same =>
        cases made
        refine ⟨by simp, fun array member => ?_⟩
        rcases List.mem_cons.mp member with rfl | later
        · simp [RecordBatch.numRows]
        · simpa [RecordBatch.numRows] using List.all_eq_true.mp same array later
      · cases made

end ConfluxQuery.Sample

namespace ConfluxQuery.Databricks

variable {ν : Type}

/-- The environment of an adapter: it answers by what was performed before. -/
abbrev Environment (ν : Type) : Type :=
  Trail (sinkOps (clientOps ν)) → (act : SinkOp Op) → act.Reply (clientOps ν)

/-- Requests for a status or a chunk. -/
def isFetch : SinkOp Op → Bool
  | .client (.status _) | .client (.chunk _) => true
  | _ => false

/-- Batches for the consumer. -/
def isBatch : SinkOp Op → Bool
  | .send _ => true
  | _ => false

/-- Calls of the statement's cancel endpoint. -/
def isCancel : SinkOp Op → Bool
  | .client (.cancel _) => true
  | _ => false

/-- What was performed after a number of operations. -/
def since (moment : Nat) (trail : Trail (sinkOps (clientOps ν))) : Trail (sinkOps (clientOps ν)) :=
  trail.take (trail.length - moment)

/-- Operations of a kind in a trail. -/
def tally (kind : SinkOp Op → Bool) (trail : Trail (sinkOps (clientOps ν))) : Nat :=
  trail.countP fun entry => kind entry.1

/-- No response whose state is taken in before the signal is set says that the statement has
succeeded: no result is being delivered then. The state of a submitted statement is taken in two
operations later, that of a polled one at the next. -/
structure Undelivered (respond : Environment ν) (moment : Nat) : Prop where
  /-- The answer to the submission. -/
  submitted : ∀ trail sql response, trail.length + 2 < moment →
    respond trail (.client (.submit sql)) = .ok response → response.state ≠ .ok "SUCCEEDED"
  /-- An answer to a poll. -/
  polled : ∀ trail id response, trail.length + 1 < moment →
    respond trail (.client (.status id)) = .ok response → response.state ≠ .ok "SUCCEEDED"

/-- What a run does once the signal is set. -/
structure Stops (moment : Nat)
    (run : Trail (sinkOps (clientOps ν)) × Except DriverError Bool) : Prop where
  /-- It asks for at most one more status or chunk. -/
  fetches : tally isFetch (since moment run.1) ≤ 1
  /-- It sends at most one more batch. -/
  batches : tally isBatch (since moment run.1) ≤ 1
  /-- It calls the cancel endpoint or returns an error. A run of the model that has used up its
  polls just then is not at its end. -/
  ended : moment ≤ run.1.length → 1 ≤ tally isCancel (since moment run.1) ∨ run.2.isOk = false ∨
    run.1.length = moment ∧ run.2.toOption = some false

section Since

variable {moment : Nat} {newer older : Trail (sinkOps (clientOps ν))}

theorem since_sublist (early : older.length ≤ moment) :
    (since moment (newer ++ older)).Sublist newer := by
  have short : newer.length + older.length - moment ≤ newer.length := by omega
  rw [since, List.length_append, List.take_append_of_le_length short]
  exact List.take_sublist _ _

/-- A part has no more of a kind. -/
theorem tally_since_le (kind : SinkOp Op → Bool) (early : older.length ≤ moment) :
    tally kind (since moment (newer ++ older)) ≤ tally kind newer :=
  (since_sublist early).countP_le

/-- A run that has failed after few operations stops. -/
theorem Stops.of_error {run : Trail (sinkOps (clientOps ν)) × Except DriverError Bool}
    {error : DriverError} (newer : Trail (sinkOps (clientOps ν)))
    (failed : run = (newer ++ older, .error error)) (early : older.length ≤ moment)
    (fetches : tally isFetch newer ≤ 1) (batches : tally isBatch newer ≤ 1) : Stops moment run := by
  subst failed
  exact ⟨Nat.le_trans (tally_since_le isFetch early) fetches,
    Nat.le_trans (tally_since_le isBatch early) batches, fun _ => .inr (.inl rfl)⟩

end Since

section Runs

variable (builder : BatchBuilder) (json : JsonText ν) {respond : Environment ν} {moment : Nat}

/-- Once the signal is set, a turn of the polling loop ends the run with a cancellation. -/
theorem await_late (signal : ∀ trail, moment ≤ trail.length → respond trail .isCancelled = true)
    (sql id : String) (chunks polls : Nat) (response : StatementResponse ν)
    (newer : Trail (sinkOps (clientOps ν))) {older : Trail (sinkOps (clientOps ν))}
    (early : older.length ≤ moment) (late : moment ≤ (newer ++ older).length)
    (fetches : tally isFetch newer ≤ 1) (batches : tally isBatch newer ≤ 1) :
    Stops moment
      ((await builder json sql id chunks polls response).against respond (newer ++ older)) := by
  have stops : ∀ (reply : (SinkOp.client (Op.cancel id)).Reply (clientOps ν)) error, Stops moment
      ((⟨.client (.cancel id), reply⟩ :: ⟨.isCancelled, true⟩ :: newer) ++ older,
        .error error) := fun reply error => .of_error _ rfl early fetches batches
  unfold await Sink.isCancelled ask Sink.ask
  rw [Prog.against_perform_bind, signal _ late, if_pos rfl, Prog.against_perform_bind,
    Prog.against_bind]
  cases respond (⟨.isCancelled, true⟩ :: (newer ++ older)) (.client (.cancel id)) with
  | error reason => exact stops _ _
  | ok value => exact stops _ _

/-- A state other than success ends the run with an error. -/
theorem conclude_error (sql : String) (chunks : Nat) (response : StatementResponse ν)
    {state : String} (failed : state ≠ "SUCCEEDED") :
    ∃ error, conclude builder json sql chunks response state = .fail error := by
  rw [conclude, if_neg failed]
  split
  · exact ⟨_, rfl⟩
  · split <;> exact ⟨_, rfl⟩

/-- A status that is asked for by a turn before the signal is set: the next turn cancels, or is
again one before the signal is set. -/
theorem poll_early (signal : ∀ trail, moment ≤ trail.length → respond trail .isCancelled = true)
    (undelivered : Undelivered respond moment) (sql id : String) (chunks polls : Nat)
    {trail : Trail (sinkOps (clientOps ν))} (early : trail.length < moment) {checked : Bool}
    (step : ∀ {response : StatementResponse ν} {longer : Trail (sinkOps (clientOps ν))},
      longer.length < moment → response.state ≠ .ok "SUCCEEDED" →
      Stops moment ((await builder json sql id chunks polls response).against respond longer)) :
    Stops moment (Prog.against respond (do
      ask .sleep
      let response ← Prog.lift (← ask (.status id))
      await builder json sql id chunks polls response : Call ν Bool)
        (⟨.isCancelled, checked⟩ :: trail)) := by
  unfold ask Sink.ask
  rw [Prog.against_perform_bind, Prog.against_perform_bind, Prog.against_bind]
  generalize asked : respond _ (.client (.status id)) = answer
  have older := Nat.le_of_lt early
  cases answer with
  | error reason => exact .of_error [_, _, _] rfl older (Nat.le_refl 1) (Nat.zero_le 1)
  | ok response =>
    rcases Nat.lt_or_ge (trail.length + 3) moment with below | late
    · exact step below (undelivered.polled _ id response (by exact below) asked)
    · exact await_late builder json signal sql id chunks polls response [_, _, _] older late
        (Nat.le_refl 1) (Nat.zero_le 1)

/-- A turn of the polling loop before the signal is set, of a statement that has not succeeded. -/
theorem await_early (signal : ∀ trail, moment ≤ trail.length → respond trail .isCancelled = true)
    (undelivered : Undelivered respond moment) (sql id : String) (chunks polls : Nat)
    {response : StatementResponse ν} {trail : Trail (sinkOps (clientOps ν))}
    (early : trail.length < moment) (unfinished : response.state ≠ .ok "SUCCEEDED") :
    Stops moment
      ((await builder json sql id chunks polls response).against respond trail) := by
  have older := Nat.le_of_lt early
  induction polls using Nat.strongRecOn generalizing response trail with
  | ind polls step =>
    unfold await Sink.isCancelled
    rw [Prog.against_perform_bind]
    split
    · unfold ask Sink.ask
      rw [Prog.against_perform_bind, Prog.against_bind]
      generalize respond _ (.client (.cancel id)) = answer
      cases answer with
      | error reason => exact .of_error [_, _] rfl older (Nat.zero_le 1) (Nat.zero_le 1)
      | ok value => exact .of_error [_, _] rfl older (Nat.zero_le 1) (Nat.zero_le 1)
    · cases answered : response.state with
      | error reason => exact .of_error [_] rfl older (Nat.zero_le 1) (Nat.zero_le 1)
      | ok state =>
        rw [Prog.against_bind]
        show Stops moment (Prog.against respond (if _ then _ else _) _)
        split
        · cases polls with
          | zero =>
            have quiet : ∀ kind, kind SinkOp.isCancelled = false → ∀ checked : Bool,
                tally kind (since moment (⟨.isCancelled, checked⟩ :: trail)) ≤ 1 := by
              intro kind other checked
              have fewer := @tally_since_le ν moment [⟨.isCancelled, checked⟩] trail kind older
              refine Nat.le_trans fewer ?_
              simp [tally, other]
            exact ⟨quiet isFetch rfl _, quiet isBatch rfl _,
              fun reached => .inr (.inr ⟨Nat.le_antisymm early reached, rfl⟩)⟩
          | succ polls =>
            exact poll_early builder json signal undelivered sql id chunks polls early
              fun below unfinished => step polls (Nat.lt_succ_self polls) below unfinished
                (Nat.le_of_lt below)
        · obtain ⟨error, ended⟩ := conclude_error builder json sql chunks response
            fun same : state = "SUCCEEDED" => unfinished (by rw [answered, same])
          rw [ended]
          exact .of_error [_] rfl older (Nat.zero_le 1) (Nat.zero_le 1)

/-- Once the cancellation signal is set, an execution asks for at most one more status or chunk,
sends at most one more batch, and calls the cancel endpoint or returns an error, where no result is
being delivered when the signal is set. -/
theorem databricks_cancellation_stops (connection : Except DriverError Unit) (sql : String)
    (polls chunks : Nat) (respond : Environment ν) (moment : Nat)
    (signal : ∀ trail, moment ≤ trail.length → respond trail .isCancelled = true)
    (undelivered : Undelivered respond moment) :
    Stops moment
      ((execute builder json connection sql polls chunks).against respond []) := by
  cases connection with
  | error reason => exact .of_error [] rfl (Nat.zero_le _) (Nat.zero_le 1) (Nat.zero_le 1)
  | ok ready =>
    show Stops moment (Prog.against respond (Sink.emit _ >>= _) [])
    unfold Sink.emit ask Sink.ask
    rw [Prog.against_perform_bind, Prog.against_perform_bind, Prog.against_bind]
    generalize asked : respond _ (.client (.submit sql)) = answer
    cases answer with
    | error reason => exact .of_error [_, _] rfl (Nat.zero_le _) (Nat.zero_le 1) (Nat.zero_le 1)
    | ok response =>
      show Stops moment (Prog.against respond (Prog.okOr _ _ >>= _) _)
      cases response.statementId with
      | none => exact .of_error [_, _] rfl (Nat.zero_le _) (Nat.zero_le 1) (Nat.zero_le 1)
      | some id =>
        show Stops moment (Prog.against respond (Prog.perform _ >>= _) _)
        rw [Prog.against_perform_bind]
        rcases Nat.lt_or_ge 3 moment with below | late
        · exact await_early builder json signal undelivered sql id chunks polls below
            (undelivered.submitted _ sql response (by exact below) asked)
        · exact await_late builder json signal sql id chunks polls response [_, _, _]
            (Nat.zero_le _) late (Nat.zero_le 1) (Nat.zero_le 1)

end Runs

namespace Sample

/-- Cells that are texts. -/
def json : JsonText String := ⟨some, id⟩

/-- A statement in a state, with a result in a chunk. -/
def answer (state : String) (next : Option String) : StatementResponse String :=
  ⟨some "s", some ⟨state, none⟩, some ⟨some ⟨[⟨"answer", "INT"⟩]⟩⟩, some ⟨[[some "42"]], next⟩⟩

/-- A service that answers a submission with a statement in a state and has it succeed with a result
of three chunks after five operations, and a signal that is set after a number of operations. -/
def chunked (moment : Nat) (submitted : String) : Environment String := fun trail act =>
  match act with
  | .client (.submit _) => .ok (answer submitted (some "second"))
  | .client (.status _) =>
    .ok (answer (if trail.length < 5 then "RUNNING" else "SUCCEEDED") (some "second"))
  | .client (.chunk link) =>
    .ok ⟨[[some "43"]], if link = "second" then some "third" else none⟩
  | .client (.cancel _) => .ok ()
  | .client .sleep => ()
  | .emit _ => ()
  | .send _ => true
  | .isCancelled => decide (moment ≤ trail.length)

end Sample

/-- A signal that is set while the adapter waits for a statement that is about to succeed. -/
theorem databricks_cancellation_waiting : Undelivered (Sample.chunked 5 "PENDING") 5 ∧
    Stops 5 ((execute ConfluxQuery.Sample.builder Sample.json (.ok ()) "SELECT 42" 9 9).against
      (Sample.chunked 5 "PENDING") []) := by
  have undelivered : Undelivered (Sample.chunked 5 "PENDING") 5 := by
    constructor
    · intro trail sql response _ same
      cases same
      decide
    · intro trail id response early same
      cases same
      have few : trail.length < 5 := by omega
      simp [Sample.answer, StatementResponse.state, few]
  exact ⟨undelivered, databricks_cancellation_stops _ _ _ _ _ _ _ _
    (fun trail late => decide_eq_true late) undelivered⟩

/-- A signal that is set right after the state was taken in: two more chunks are asked for, and all
three are sent; the cancel endpoint is not called and the execution succeeds. -/
theorem databricks_chunks_uncancelled :
    let run := (execute ConfluxQuery.Sample.builder Sample.json (.ok ()) "SELECT 42" 9 9).against
      (Sample.chunked 4 "SUCCEEDED") []
    tally isFetch (since 4 run.1) = 2 ∧ tally isBatch (since 4 run.1) = 3 ∧
      tally isCancel (since 4 run.1) = 0 ∧ run.2.toOption = some true ∧ ¬ Stops 4 run := by
  intro run
  have fetches : tally isFetch (since 4 run.1) = 2 := by decide +kernel
  have batches : tally isBatch (since 4 run.1) = 3 := by decide +kernel
  have cancels : tally isCancel (since 4 run.1) = 0 := by decide +kernel
  have ended : run.2.toOption = some true := by decide +kernel
  exact ⟨fetches, batches, cancels, ended, fun stops => by have := stops.fetches; omega⟩

end ConfluxQuery.Databricks
