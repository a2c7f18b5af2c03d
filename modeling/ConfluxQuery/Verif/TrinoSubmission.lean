import ConfluxQuery.Driver.Trino

/-!
# How often a statement reaches Trino

The statement is posted by the first request of `execute` and by that request's retries, and by
nothing else: every later page is fetched by its address. So whether a statement is posted again
after an answer that does not prove its refusal is decided by the answers to the first three POSTs
and by the pauses between them.
-/

namespace ConfluxQuery.Trino

section

variable {κ γ ρ : Type}

/-- What a coordinator and a cancellation do: the answers to successive POSTs of each statement, the
ends of successive pauses, and the rest of the environment. -/
structure Coordinator (κ ρ : Type) where
  /-- Answer to the POST of a statement after a number of earlier ones. -/
  answer : String → Nat → Raced (Except ClientError (QueryResult κ ρ))
  /-- End of the pause after a number of earlier ones. -/
  pause : Nat → Raced Unit
  /-- Replies to the other operations. -/
  rest : Trail (ops κ ρ) → (act : SinkOp Op) → act.Reply (clientOps κ ρ)

/-- Answers to the POSTs of a statement, the newest first. -/
def posts (sql : String) (trail : Trail (ops κ ρ)) :
    List (Raced (Except ClientError (QueryResult κ ρ))) :=
  trail.filterMap fun
    | ⟨.client (.post text), reply⟩ => if text = sql then some reply else none
    | _ => none

/-- Pauses of a run. -/
def pauses : Trail (ops κ ρ) → Nat
  | [] => 0
  | ⟨.client .pause, _⟩ :: rest => pauses rest + 1
  | _ :: rest => pauses rest

/-- The environment that a coordinator is to the adapter. -/
def Coordinator.respond (coordinator : Coordinator κ ρ) (trail : Trail (ops κ ρ)) :
    (act : SinkOp Op) → act.Reply (clientOps κ ρ)
  | .client (.post sql) => coordinator.answer sql (posts sql trail).length
  | .client .pause => coordinator.pause (pauses trail)
  | act => coordinator.rest trail act

/-- An answer that proves, by a test on responses, that the coordinator did not accept the
statement. A request that was given up is no proof. -/
def Refused (refusal : Except ClientError (QueryResult κ ρ) → Bool) :
    Raced (Except ClientError (QueryResult κ ρ)) → Prop
  | .done result => refusal result = true
  | .cancelled => False

/-- Every POST of the statement but the last was answered by a proof that it was not accepted. -/
def NeverReplayed (refusal : Except ClientError (QueryResult κ ρ) → Bool) (sql : String)
    (trail : Trail (ops κ ρ)) : Prop :=
  ∀ answer ∈ (posts sql trail).tail, Refused refusal answer

/-- The answer to a POST asks for another one, and the cancellation does not come in the pause. -/
def Coordinator.Retried (coordinator : Coordinator κ ρ) (sql : String) (attempt : Nat) : Prop :=
  (∃ result, coordinator.answer sql attempt = .done result ∧ transient result = true) ∧
    coordinator.pause attempt = .done ()

/-- Among the first three answers, one that leads to another POST proves a refusal. -/
def Coordinator.RetriesRefusals (coordinator : Coordinator κ ρ)
    (refusal : Except ClientError (QueryResult κ ρ) → Bool) (sql : String) : Prop :=
  ∀ attempt < 3, (∀ earlier ≤ attempt, coordinator.Retried sql earlier) →
    Refused refusal (coordinator.answer sql attempt)

/-- Anything may be asked for and replied. -/
def anything (κ ρ : Type) : Rule (ops κ ρ) := ⟨fun _ _ => True, fun _ _ => True⟩

/-- A program posts no statement, and its value has a property. -/
structure Quiet {α : Type} (sql : String) (prog : Call κ ρ α) (value : α → Prop) : Prop where
  follows : ∀ trail, Follows (anything κ ρ) prog trail fun longer outcome =>
    posts sql longer = posts sql trail ∧ ∀ result, outcome = .ok result → value result

theorem posts_cons_post (sql : String) (reply : (Op.post sql).Reply κ ρ)
    (trail : Trail (ops κ ρ)) : posts sql
    (⟨.client (.post sql), reply⟩ :: trail) = reply :: posts sql trail :=
  List.filterMap_cons_some (if_pos rfl)

theorem posts_cons {sql : String} (act : SinkOp Op) (other : ∀ text, act ≠ .client (.post text))
    (reply : act.Reply (clientOps κ ρ)) (trail : Trail (ops κ ρ)) :
    posts sql (⟨act, reply⟩ :: trail) = posts sql trail := by
  cases act with
  | client request =>
    cases request with
    | post text => exact absurd rfl (other text)
    | _ => rfl
  | _ => rfl

namespace Quiet

variable {α β : Type} {sql : String} {value : α → Prop}

/-- An outcome without any operation. -/
theorem lift {outcome : Except DriverError α}
    (holds : ∀ result, outcome = .ok result → value result) :
    Quiet sql (Prog.lift outcome : Call κ ρ α) value :=
  ⟨fun _ => Follows.lift ⟨rfl, holds⟩⟩

/-- A value without any operation. -/
theorem pure {result : α} (holds : value result) :
    Quiet sql (pure result : Call κ ρ α) value :=
  ⟨fun _ => ⟨rfl, fun _ same => Except.ok.inj same ▸ holds⟩⟩

variable {error : DriverError}

/-- An error without any operation. -/
theorem fail : Quiet sql (.fail error : Call κ ρ α) value :=
  ⟨fun _ => ⟨rfl, fun _ same => nomatch same⟩⟩

/-- The value of an option or an error, without any operation. -/
theorem okOr {found : Option α} :
    Quiet sql (Prog.okOr error found : Call κ ρ α) fun _ => True := by
  cases found with
  | none => exact fail
  | some _ => exact pure trivial

/-- A test that lets the program go on or ends it, without any operation. -/
theorem ensure {test : Bool} :
    Quiet sql (Prog.ensure test error : Call κ ρ Unit) fun _ => True := by
  cases test with
  | false => exact fail
  | true => exact pure trivial

/-- An operation other than a POST. -/
theorem perform {act : SinkOp Op} (other : ∀ text, act ≠ .client (.post text)) :
    Quiet sql (Prog.perform (S := ops κ ρ) act) fun _ => True :=
  ⟨fun _ => ⟨trivial, fun reply _ => ⟨posts_cons act other reply _, fun _ _ => trivial⟩⟩⟩

theorem mono {weaker : α → Prop} {prog : Call κ ρ α} (quiet : Quiet sql prog value)
    (weaken : ∀ result, value result → weaker result) : Quiet sql prog weaker :=
  ⟨fun trail => (quiet.follows trail).mono fun _ _ _ held =>
    ⟨held.1, fun result same => weaken result (held.2 result same)⟩⟩

/-- A sequence of such programs. -/
theorem bind {middle : β → Prop} {first : Call κ ρ β} {next : β → Call κ ρ α}
    (quiet : Quiet sql first middle)
    (rest : ∀ result, middle result → Quiet sql (next result) value) :
    Quiet sql (first >>= next) value := by
  refine ⟨fun trail => Follows.bind (quiet.follows trail) ?_ ?_⟩
  · intro longer result _ held
    refine ((rest result (held.2 result rfl)).follows longer).mono ?_
    intro last outcome _ ended
    exact ⟨ended.1.trans held.1, ended.2⟩
  · intro longer reason _ held
    exact ⟨held.1, fun _ same => nomatch same⟩

/-- The POSTs of a run are those before a program that posts nothing. -/
theorem posts_against {prog : Call κ ρ α} (quiet : Quiet sql prog value)
    (respond : Trail (ops κ ρ) → (act : SinkOp Op) →
      act.Reply (clientOps κ ρ)) (trail : Trail (ops κ ρ)) :
    posts sql (prog.against respond trail).1 = posts sql trail :=
  ((quiet.follows trail).against fun _ _ => trivial).1

/-- The POSTs of a sequence are those of its first part when the second part posts nothing. -/
theorem posts_bind {first : Call κ ρ β} {next : β → Call κ ρ α}
    (rest : ∀ result, Quiet sql (next result) value)
    (respond : Trail (ops κ ρ) → (act : SinkOp Op) →
      act.Reply (clientOps κ ρ)) (trail : Trail (ops κ ρ)) :
    posts sql ((first >>= next).against respond trail).1 =
      posts sql (first.against respond trail).1 := by
  rw [Prog.against_bind]
  split
  · next longer result ended => rw [(rest result).posts_against, ended]
  · next longer error ended => rw [ended]

end Quiet

variable {event : QueryEvent} {progress : Progress γ}
  {refusal : Except ClientError (QueryResult κ ρ) → Bool}

/-- A message is no POST. -/
theorem emit_quiet {sql : String} :
    Quiet sql (Sink.emit event : Call κ ρ Unit) fun _ => True :=
  .perform fun _ same => nomatch same

/-- Neither is one that depends on a test. -/
theorem emitWhen_quiet {sql : String} {test : Bool} :
    Quiet sql (Sink.emitWhen test event : Call κ ρ Unit) fun _ => True := by
  cases test with
  | false => exact .pure trivial
  | true => exact emit_quiet

/-- The end of a result is reported without a POST. -/
theorem finish_quiet {sql : String} {properties : Option (Registry String String)} {rows : Nat} :
    Quiet sql (Sink.finish properties rows : Call κ ρ Bool) fun _ => True := by
  have told : Quiet sql (Sink.emitAny (properties.map .sessionProperties) : Call κ ρ Unit)
      fun _ => True := by
    cases properties with
    | none => exact .pure trivial
    | some _ => exact emit_quiet
  exact told.bind fun _ _ => .bind emit_quiet fun _ _ => .pure trivial

theorem pageWithRetry_quiet {sql uri : String} (retries : Nat) :
    Quiet sql (pageWithRetry uri true retries : Call κ ρ _) fun _ => True := by
  induction retries with
  | zero =>
    refine .bind (.perform fun _ same => nomatch same) fun reply _ => ?_
    cases reply with
    | cancelled => exact .pure trivial
    | done result => exact .bind (.lift fun _ _ => trivial) fun _ _ => .pure trivial
  | succ retries again =>
    refine .bind (.perform fun _ same => nomatch same) fun reply _ => ?_
    cases reply with
    | cancelled => exact .pure trivial
    | done result =>
      by_cases retried : transient result = true
      · simp only [retried, if_true]
        refine .bind (.perform fun _ same => nomatch same) fun reply _ => ?_
        cases reply with
        | cancelled => exact .pure trivial
        | done _ => exact again
      · simp only [retried]
        exact .bind (.lift fun _ _ => trivial) fun _ _ => .pure trivial

theorem confirmCancellation_quiet {sql : String} {queryId : Option String} :
    Quiet sql (confirmCancellation queryId : Call κ ρ _) fun _ => True := by
  refine .bind emit_quiet fun _ _ => .bind .okOr fun id _ => ?_
  refine .bind (.perform fun _ same => nomatch same) fun reply _ => ?_
  cases reply with
  | error _ => exact .fail
  | ok _ => exact .fail

theorem getOrCancel_quiet {sql uri id : String} :
    Quiet sql (getOrCancel uri (some id) : Call κ ρ _) fun _ => True := by
  refine .bind (pageWithRetry_quiet 3) fun raced _ => ?_
  cases raced with
  | done page => exact .pure trivial
  | cancelled => exact confirmCancellation_quiet

theorem sendRows_quiet {sql : String} {codec : PageCodec κ γ ρ} {data : ResultData ρ} :
    Quiet sql (sendRows codec progress data) fun result => result.queryId = progress.queryId := by
  refine .bind (.lift fun _ _ => trivial) fun rows _ => ?_
  split
  · exact .pure rfl
  refine .bind .okOr fun columns _ => .bind (.lift fun _ _ => trivial) fun batch _ => ?_
  dsimp only
  split
  · refine .bind emitWhen_quiet fun _ _ => ?_
    refine .bind (.bind (.perform fun _ same => nomatch same) fun _ _ => .ensure) fun _ _ => ?_
    exact .pure rfl
  · exact .pure rfl

theorem takePage_quiet {sql : String} {codec : PageCodec κ γ ρ} {page : QueryResult κ ρ} :
    Quiet sql (takePage codec progress page) fun result => result.queryId.isSome := by
  refine .bind emitWhen_quiet fun _ _ => .bind emitWhen_quiet fun _ _ => ?_
  split
  · exact .fail
  refine .bind (.lift fun _ _ => trivial) fun columns _ => ?_
  dsimp only
  split
  · exact .pure rfl
  · exact sendRows_quiet.mono fun _ same => Option.isSome_iff_exists.mpr ⟨_, same⟩

theorem nextPages_quiet {sql : String} {codec : PageCodec κ γ ρ} (pages : Nat)
    (known : progress.queryId.isSome) {next : Option String} :
    Quiet sql (nextPages codec sql pages progress next) fun _ => True := by
  induction pages generalizing progress next with
  | zero =>
    cases next with
    | none =>
      rw [nextPages]
      exact finish_quiet
    | some uri => exact .pure trivial
  | succ pages step =>
    cases next with
    | none =>
      rw [nextPages]
      exact finish_quiet
    | some uri =>
      obtain ⟨id, present⟩ := Option.isSome_iff_exists.mp known
      rw [nextPages, present]
      exact .bind getOrCancel_quiet fun page _ =>
        .bind takePage_quiet fun progress known => step known

theorem stopped_quiet {sql : String} {result : Except ClientError (QueryResult κ ρ)} :
    Quiet sql (Raced.done <$> Prog.lift (result.mapError mapClientError) : Call κ ρ _)
      fun _ => True :=
  .bind (.lift fun _ _ => trivial) fun _ _ => .pure trivial

/-- What follows a request for a statement runs on its answer. -/
theorem against_post {α : Type} {respond : Trail (ops κ ρ) → (act : SinkOp Op) →
    act.Reply (clientOps κ ρ)}
    {sql : String} {next : Raced (Except ClientError (QueryResult κ ρ)) → Call κ ρ α}
    {trail : Trail (ops κ ρ)} :
    (request sql false >>= next).against respond trail =
      (next (respond trail (.client (.post sql)))).against respond
        (⟨.client (.post sql), respond trail (.client (.post sql))⟩ :: trail) := rfl

theorem against_pause {α : Type} {respond : Trail (ops κ ρ) → (act : SinkOp Op) →
    act.Reply (clientOps κ ρ)}
    {next : Raced Unit → Call κ ρ α} {trail : Trail (ops κ ρ)} :
    (ask .pause >>= next).against respond trail =
      (next (respond trail (.client .pause))).against respond (⟨.client .pause,
        respond trail (.client .pause)⟩ :: trail) := rfl

/-- The helper posts once when no retries are left or the answer leads to none. -/
theorem pageWithRetry_stops {coordinator : Coordinator κ ρ} {sql : String} {retries : Nat}
    {trail : Trail (ops κ ρ)} {attempt : Nat} (posted : (posts sql trail).length = attempt)
    (paused : pauses trail = attempt) (stops : retries = 0 ∨ ¬coordinator.Retried sql attempt) :
    posts sql ((pageWithRetry sql false retries : Call κ ρ _).against coordinator.respond trail).1 =
      coordinator.answer sql attempt :: posts sql trail := by
  have answered : coordinator.respond trail (.client (.post sql)) =
    coordinator.answer sql attempt := by
    rw [← posted]
    rfl
  cases retries with
  | zero =>
    rw [pageWithRetry, against_post, answered]
    cases coordinator.answer sql attempt with
    | cancelled => exact posts_cons_post _ _ _
    | done result => exact (stopped_quiet.posts_against _ _).trans (posts_cons_post _ _ _)
  | succ retries =>
    have once : ¬coordinator.Retried sql attempt := stops.resolve_left (Nat.succ_ne_zero _)
    rw [pageWithRetry, against_post, answered]
    cases answer : coordinator.answer sql attempt with
    | cancelled => exact posts_cons_post _ _ _
    | done result =>
      dsimp only
      by_cases again : transient result = true
      · have waited : coordinator.respond (⟨.client (.post sql), .done result⟩ ::
          trail) (.client .pause) =
            .cancelled := by
          change coordinator.pause (pauses trail) = .cancelled
          rw [paused]
          cases ended : coordinator.pause attempt with
          | cancelled => rfl
          | done _ => exact absurd ⟨⟨result, answer, again⟩, ended⟩ once
        rw [if_pos again, against_pause, waited]
        exact (posts_cons (.client .pause) nofun _ _).trans (posts_cons_post _ _ _)
      · rw [if_neg again]
        exact (stopped_quiet.posts_against _ _).trans (posts_cons_post _ _ _)

/-- The helper starts over when the answer leads to another POST. -/
theorem pageWithRetry_again {coordinator : Coordinator κ ρ} {sql : String} {retries : Nat}
    {trail : Trail (ops κ ρ)} {attempt : Nat} (posted : (posts sql trail).length = attempt)
    (paused : pauses trail = attempt) (again : coordinator.Retried sql attempt) :
    (pageWithRetry sql false (retries + 1) : Call κ ρ _).against coordinator.respond trail =
      (pageWithRetry sql false retries : Call κ ρ _).against coordinator.respond
        (⟨.client .pause, .done ()⟩ :: ⟨.client (.post sql), coordinator.answer sql attempt⟩ ::
          trail) := by
  obtain ⟨⟨result, answer, retried⟩, ended⟩ := again
  have answered : coordinator.respond trail (.client (.post sql)) = .done result := by
    rw [← answer, ← posted]
    rfl
  have waited : coordinator.respond (⟨.client (.post sql), .done result⟩ ::
    trail) (.client .pause) = .done () := by
    rw [← ended, ← paused]
    rfl
  rw [pageWithRetry, against_post, answered]
  dsimp only
  rw [if_pos retried, against_pause, waited, answer]

/-- From an attempt up to a last one, an answer that leads to another POST is a refusal. -/
def Coordinator.RefusesUntil (coordinator : Coordinator κ ρ)
    (refusal : Except ClientError (QueryResult κ ρ) → Bool) (sql : String) (attempt last : Nat) :
    Prop :=
  ∀ later, attempt ≤ later → later < last →
    (∀ between, attempt ≤ between → between ≤ later → coordinator.Retried sql between) →
      Refused refusal (coordinator.answer sql later)

/-- Nothing is asked when the first answer leads to no other POST. -/
theorem Coordinator.refusesUntil_of_not {coordinator : Coordinator κ ρ} {sql : String}
    {attempt last : Nat} (stops : attempt = last ∨ ¬coordinator.Retried sql attempt) :
    coordinator.RefusesUntil refusal sql attempt last := by
  intro later from_ until_ retried
  rcases stops with rfl | once
  · omega
  · exact absurd (retried attempt (Nat.le_refl _) from_) once

/-- A first answer that leads to another POST is a refusal, and so are those after it. -/
theorem Coordinator.refusesUntil_of_retried {coordinator : Coordinator κ ρ} {sql : String}
    {attempt last : Nat} (again : coordinator.Retried sql attempt) (left : attempt < last) :
    coordinator.RefusesUntil refusal sql attempt last ↔
      Refused refusal (coordinator.answer sql attempt) ∧
        coordinator.RefusesUntil refusal sql (attempt + 1) last := by
  constructor
  · refine fun refuses => ⟨refuses attempt (Nat.le_refl _) left fun between above below => ?_,
      fun later above below retried => refuses later (by omega) below fun between from_ to_ => ?_⟩
    · rwa [Nat.le_antisymm below above]
    · rcases Nat.eq_or_lt_of_le from_ with rfl | after
      · exact again
      · exact retried between after to_
  · rintro ⟨first, rest⟩ later above below retried
    rcases Nat.eq_or_lt_of_le above with rfl | after
    · exact first
    · exact rest later after below fun between from_ => retried between (by omega)

/-- The helper, from a trail on which every POST was followed by its pause: no POST is a replay
exactly when every earlier answer was a refusal, and so is every answer that leads to another POST.
The induction is on the retries left. -/
theorem pageWithRetry_neverReplayed {coordinator : Coordinator κ ρ} {sql : String} (retries : Nat)
    {attempt : Nat} {trail : Trail (ops κ ρ)} (posted : (posts sql trail).length = attempt)
    (paused : pauses trail = attempt) :
    NeverReplayed refusal sql
        ((pageWithRetry sql false retries : Call κ ρ _).against coordinator.respond trail).1 ↔
      (∀ answer ∈ posts sql trail, Refused refusal answer) ∧
        coordinator.RefusesUntil refusal sql attempt (attempt + retries) := by
  induction retries generalizing attempt trail with
  | zero =>
    rw [NeverReplayed, pageWithRetry_stops posted paused (.inl rfl)]
    exact (and_iff_left (Coordinator.refusesUntil_of_not (.inl rfl))).symm
  | succ retries step =>
    by_cases again : coordinator.Retried sql attempt
    · have left : attempt < attempt + (retries + 1) := by omega
      have sum : attempt + (retries + 1) = attempt + 1 + retries := by omega
      have asked : posts sql (⟨.client .pause, .done ()⟩ ::
          ⟨.client (.post sql), coordinator.answer sql attempt⟩ :: trail) =
            coordinator.answer sql attempt :: posts sql trail :=
        (posts_cons (.client .pause) nofun _ _).trans (posts_cons_post _ _ _)
      have counted := (congrArg List.length asked).trans (congrArg (· + 1) posted)
      have waited : pauses (⟨.client .pause, .done ()⟩ :: ⟨.client (.post sql),
        coordinator.answer sql attempt⟩ ::
          trail) = attempt + 1 := congrArg (· + 1) paused
      rw [pageWithRetry_again posted paused again, step counted waited, asked, List.forall_mem_cons,
        Coordinator.refusesUntil_of_retried again left, sum]
      tauto
    · rw [NeverReplayed, pageWithRetry_stops posted paused (.inr again)]
      exact (and_iff_left (Coordinator.refusesUntil_of_not (.inr again))).symm

/-- The first request of an execution posts no replay exactly when retried answers are refusals. -/
theorem first_neverReplayed {coordinator : Coordinator κ ρ} {sql : String}
    {reply : (SinkOp.emit event).Reply (clientOps κ ρ)} :
    NeverReplayed refusal sql ((pageWithRetry sql false 3 : Call κ ρ _).against coordinator.respond
        [⟨.emit event, reply⟩]).1 ↔
      coordinator.RetriesRefusals refusal sql := by
  have posted : posts sql ([⟨.emit event, reply⟩] : Trail (ops κ ρ)) = [] := rfl
  have counted : (posts sql ([⟨.emit event, reply⟩] : Trail (ops κ ρ))).length = 0 := rfl
  rw [pageWithRetry_neverReplayed 3 counted rfl, posted]
  constructor
  · rintro ⟨_, refuses⟩ attempt less retried
    exact refuses attempt (Nat.zero_le _) less fun between _ => retried between
  · intro refuses
    refine ⟨fun _ member => absurd member List.not_mem_nil, fun attempt _ less retried => ?_⟩
    exact refuses attempt less fun between => retried between (Nat.zero_le _)

/-- After the answer to the first request nothing is posted. -/
theorem posts_execute {codec : PageCodec κ γ ρ} {sql : String} {pages : Nat}
    {respond : Trail (ops κ ρ) → (act : SinkOp Op) → act.Reply (clientOps κ ρ)} :
    posts sql ((execute codec (.ok ()) sql pages).against respond []).1 =
      posts sql ((pageWithRetry sql false 3 : Call κ ρ _).against respond
        [⟨.emit (.state .running), respond [] (.emit (.state .running))⟩]).1 := by
  have pagesQuiet : ∀ page, Quiet sql (takePage codec .initial page >>= fun progress =>
      nextPages codec sql pages progress page.nextUri) fun _ => True :=
    fun page => takePage_quiet.bind fun progress known => nextPages_quiet pages known
  refine (Quiet.posts_bind pagesQuiet _ _).trans
    (Quiet.posts_bind (fun raced => (?_ : Quiet sql _ fun _ => True)) _ _)
  cases raced with
  | done page => exact .pure trivial
  | cancelled => exact confirmCancellation_quiet

/-- A statement is posted again only after answers that prove its refusal, whatever the coordinator
answers and whenever the cancellation comes, exactly when one of the answers `429`, `502`, `503`
and `504` to the first three POSTs proves a refusal whenever it is retried. -/
theorem statement_never_replayed_iff (codec : PageCodec κ γ ρ) (coordinator : Coordinator κ ρ)
    (refusal : Except ClientError (QueryResult κ ρ) → Bool) (client : Except DriverError Unit)
    (sql : String) (pages : Nat) :
    NeverReplayed refusal sql
        ((execute codec client sql pages).against coordinator.respond []).1 ↔
      (client = .ok () → coordinator.RetriesRefusals refusal sql) := by
  cases client with
  | error error =>
    have nothing : NeverReplayed refusal sql
        ((execute codec (.error error) sql pages).against coordinator.respond []).1 :=
      fun answer member => nomatch member
    exact iff_of_true nothing nofun
  | ok _ =>
    rw [NeverReplayed, posts_execute]
    exact first_neverReplayed.trans ⟨fun refuses _ => refuses, fun refuses => refuses rfl⟩

namespace Sample

/-- A coordinator behind a proxy that answers every POST with a gateway error. -/
def badGateway : Coordinator Unit Unit where
  answer _ _ := .done (.error (.httpNotOk 502 "Bad Gateway"))
  pause _ := .done ()
  rest
    | _, .client (.post _) | _, .client (.getNext _) | _, .client .pause => .cancelled
    | _, .client (.cancel _) => .ok ()
    | _, .emit _ => ()
    | _, .send _ => true
    | _, .isCancelled => false

/-- A codec for results without columns. -/
def codec : PageCodec Unit Unit Unit where
  convertColumns _ := .ok ()
  pageToBatch _ _ := .error ⟨"trino_protocol", "no columns"⟩

/-- Of all responses only a rate limit proves that the statement was not accepted. -/
def rateLimited : Except ClientError (QueryResult Unit Unit) → Bool
  | .error (.httpNotOk status _) => status == 429
  | _ => false

/-- A deletion posted to that coordinator. -/
def deletion : Trail (ops Unit Unit) :=
  ((execute codec (.ok ()) "DELETE FROM orders" 1).against badGateway.respond []).1

end Sample

/-- A gateway error leaves open whether the statement was accepted, and the statement is posted
again, four times in all. -/
theorem gateway_error_replayed :
    (posts "DELETE FROM orders" Sample.deletion).length = 4 ∧
      ¬NeverReplayed Sample.rateLimited "DELETE FROM orders" Sample.deletion := by
  have answers : posts "DELETE FROM orders" Sample.deletion =
      List.replicate 4 (.done (.error (.httpNotOk 502 "Bad Gateway"))) := rfl
  refine ⟨congrArg List.length answers, fun never => ?_⟩
  have refused := never (.done (.error (.httpNotOk 502 "Bad Gateway")))
    (answers ▸ List.mem_cons_self)
  exact absurd refused Bool.false_ne_true

end

end ConfluxQuery.Trino
