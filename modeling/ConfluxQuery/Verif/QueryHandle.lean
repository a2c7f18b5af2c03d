import ConfluxQuery.Core.Handle

/-!
# The query handle loses nothing

In every schedule, what the adapter's task has sent on a channel is what `next_item` has returned of
it and what the channel still holds. A call returns `None` only when both channels are closed and
drained. As long as the loop takes turns, everything that was sent is returned, and after both
channels are closed so is `None`.
-/

namespace ConfluxQuery

/-- A turn ends the calls, takes a branch that is ready, or waits because none is, whichever branch
is polled first. -/
theorem QueryHandle.turn_cases (handle : QueryHandle) (eventsFirst : Bool) :
    (handle.events.done = true ∧ handle.batches.done = true ∧
        handle.turn eventsFirst = (.returned none, handle)) ∨
      (∃ value after, handle.events.poll = some (value, after) ∧
        handle.turn eventsFirst = (.branch .event value, { handle with events := after })) ∨
      (∃ value after, handle.batches.poll = some (value, after) ∧
        handle.turn eventsFirst = (.branch .batch value, { handle with batches := after })) ∨
      (handle.events.poll = none ∧ handle.batches.poll = none ∧
        ¬ (handle.events.done = true ∧ handle.batches.done = true) ∧
        handle.turn eventsFirst = (.waits, handle)) := by
  by_cases ended : handle.events.done = true ∧ handle.batches.done = true
  · exact .inl ⟨ended.1, ended.2, by rw [turn, ended.1, ended.2]; rfl⟩
  have goes : (handle.events.done && handle.batches.done) = false := by
    rwa [← Bool.not_eq_true, Bool.and_eq_true]
  rw [turn, goes, pollEvents, pollBatches]
  cases events : handle.events.poll with
  | none =>
    cases batches : handle.batches.poll with
    | none => exact .inr (.inr (.inr ⟨rfl, rfl, ended, by cases eventsFirst <;> rfl⟩))
    | some polled =>
      exact .inr (.inr (.inl ⟨polled.1, polled.2, rfl, by cases eventsFirst <;> rfl⟩))
  | some polled =>
    cases batches : handle.batches.poll with
    | none => exact .inr (.inl ⟨polled.1, polled.2, rfl, by cases eventsFirst <;> rfl⟩)
    | some polled' =>
      cases eventsFirst with
      | true => exact .inr (.inl ⟨polled.1, polled.2, rfl, rfl⟩)
      | false => exact .inr (.inr (.inl ⟨polled'.1, polled'.2, rfl, rfl⟩))

/-- No branch ends the calls. -/
theorem Turn.end_before {α : Type} {item : α → QueryItem} {value : Option α}
    {answers : List (Option QueryItem)}
    (member : none ∈ answers ++ (Turn.branch item value).answers) : none ∈ answers := by
  cases value <;> simpa [Turn.answers, Turn.branch] using member

namespace Exchange

variable {capacity : Nat} {exchange : Exchange}

/-- The events among the answers. -/
def eventsOf (answers : List (Option QueryItem)) : List QueryEvent :=
  answers.filterMap fun
    | some (.event event) => some event
    | _ => none

/-- The batches among the answers. -/
def batchesOf (answers : List (Option QueryItem)) : List RecordBatch :=
  answers.filterMap fun
    | some (.batch batch) => some batch
    | _ => none

/-- What holds in every schedule. -/
structure Sound (exchange : Exchange) : Prop where
  events : exchange.handle.events.Sound exchange.sentEvents (eventsOf exchange.answers)
  batches : exchange.handle.batches.Sound exchange.sentBatches (batchesOf exchange.answers)
  /-- The calls come to an end only after both channels. -/
  ended : none ∈ exchange.answers →
    exchange.handle.events.done = true ∧ exchange.handle.batches.done = true

theorem sound_start : start.Sound :=
  ⟨Receiver.sound_new, Receiver.sound_new, fun member => by cases member⟩

/-- Both channels hold nothing. -/
def Empty (exchange : Exchange) : Prop :=
  exchange.handle.events.channel.buffer = [] ∧ exchange.handle.batches.channel.buffer = []

/-- Both channels are closed. -/
def Closed (exchange : Exchange) : Prop :=
  exchange.handle.events.channel.closed = true ∧ exchange.handle.batches.channel.closed = true

/-- Turns that are left at most: one for everything held and one for every end not seen. -/
def left (exchange : Exchange) : Nat := exchange.handle.events.left + exchange.handle.batches.left

/-- What a turn does: it keeps what holds, sends nothing and puts nothing into a channel, and there
is less left to do unless the channels are empty; then it ends the calls, or a channel is open. -/
structure Advances (before after : Exchange) : Prop where
  sound : after.Sound
  sent : after.sentEvents = before.sentEvents ∧ after.sentBatches = before.sentBatches
  empty : before.Empty → after.Empty
  closed : before.Closed → after.Closed
  answers : before.answers <+: after.answers
  less : after.left + 1 = before.left ∨ before.Empty ∧ (before.Closed → none ∈ after.answers)

theorem advances_turn (capacity : Nat) (sound : exchange.Sound) (eventsFirst : Bool) :
    exchange.Advances (exchange.step capacity (.turn eventsFirst)) := by
  obtain ⟨events, batches, ended⟩ := sound
  rw [step]
  rcases exchange.handle.turn_cases eventsFirst with ⟨first, second, same⟩ |
    ⟨value, after, ready, same⟩ | ⟨value, after, ready, same⟩ | ⟨first, second, goes, same⟩ <;>
    rw [same]
  · have empty : exchange.Empty := ⟨(events.done first).2, (batches.done second).2⟩
    exact {
      sound := ⟨by simpa [eventsOf, Turn.answers] using events,
        by simpa [batchesOf, Turn.answers] using batches, fun _ => ⟨first, second⟩⟩
      sent := ⟨rfl, rfl⟩
      empty := id
      closed := id
      answers := List.prefix_append _ _
      less := .inr ⟨empty, fun _ => by simp [Turn.answers]⟩ }
  · obtain ⟨kept, less, closed, nothing⟩ := events.poll ready
    refine {
      sound := ⟨?_, ?_, fun member => ?_⟩
      sent := ⟨rfl, rfl⟩
      empty := fun empty => ⟨(nothing empty.1).2, empty.2⟩
      closed := fun shut => ⟨closed.trans shut.1, shut.2⟩
      answers := List.prefix_append _ _
      less := .inl (by simp only [left]; omega) }
    · cases value <;> simpa [eventsOf, Turn.answers, Turn.branch] using kept
    · cases value <;> simpa [batchesOf, Turn.answers, Turn.branch] using batches
    · rw [Receiver.poll, (ended (Turn.end_before member)).1] at ready
      cases ready
  · obtain ⟨kept, less, closed, nothing⟩ := batches.poll ready
    refine {
      sound := ⟨?_, ?_, fun member => ?_⟩
      sent := ⟨rfl, rfl⟩
      empty := fun empty => ⟨empty.1, (nothing empty.2).2⟩
      closed := fun shut => ⟨shut.1, closed.trans shut.2⟩
      answers := List.prefix_append _ _
      less := .inl (by simp only [left]; omega) }
    · cases value <;> simpa [eventsOf, Turn.answers, Turn.branch] using events
    · cases value <;> simpa [batchesOf, Turn.answers, Turn.branch] using kept
    · rw [Receiver.poll, (ended (Turn.end_before member)).2] at ready
      cases ready
  · obtain ⟨none, open_⟩ := events.idle first
    obtain ⟨none', open'⟩ := batches.idle second
    have silent : Turn.waits.answers = [] := rfl
    rw [silent, List.append_nil]
    exact {
      sound := ⟨events, batches, ended⟩
      sent := ⟨rfl, rfl⟩
      empty := id
      closed := id
      answers := List.prefix_rfl
      less := .inr ⟨⟨none, none'⟩, fun shut => absurd ⟨open_ shut.1, open' shut.2⟩ goes⟩ }

/-- Every action keeps what holds. -/
theorem Sound.step (sound : exchange.Sound) (action : Action) :
    (exchange.step capacity action).Sound := by
  cases action with
  | sendEvent event =>
    rw [Exchange.step]
    split
    · exact sound
    · next happens => exact ⟨sound.events.send happens, sound.batches, sound.ended⟩
  | sendBatch batch =>
    rw [Exchange.step]
    split
    · exact sound
    · next happens => exact ⟨sound.events, sound.batches.send happens, sound.ended⟩
  | closeEvents => exact ⟨sound.events.close, sound.batches, sound.ended⟩
  | closeBatches => exact ⟨sound.events, sound.batches.close, sound.ended⟩
  | turn eventsFirst => exact (advances_turn capacity sound eventsFirst).sound

/-- Every schedule keeps what holds. -/
theorem Sound.run (sound : exchange.Sound) (actions : List Action) :
    (exchange.run capacity actions).Sound := by
  induction actions generalizing exchange with
  | nil => exact sound
  | cons action actions step => exact step (sound.step action)

/-- Turns of the loop in a row, each with the branch that is polled first. -/
def turns (capacity : Nat) (exchange : Exchange) (choices : List Bool) : Exchange :=
  exchange.run capacity (choices.map .turn)

/-- Turns in a row send nothing, keep the answers and fill no channel. Enough of them take
everything out of the channels and, once both are closed, come to the end. -/
theorem turns_advance (capacity : Nat) (sound : exchange.Sound) (choices : List Bool) :
    let after := exchange.turns capacity choices
    (after.sentEvents = exchange.sentEvents ∧ after.sentBatches = exchange.sentBatches) ∧
      exchange.answers <+: after.answers ∧
      (exchange.Empty ∨ exchange.left ≤ choices.length → after.Empty) ∧
      (exchange.Closed → exchange.left < choices.length → none ∈ after.answers) := by
  induction choices generalizing exchange with
  | nil =>
    refine ⟨⟨rfl, rfl⟩, List.prefix_rfl, fun enough => enough.elim id fun nothing => ?_,
      fun _ enough => by cases enough⟩
    simp only [left, Receiver.left, List.length_nil] at nothing
    have empty : exchange.Empty :=
      ⟨List.length_eq_zero_iff.mp (by omega), List.length_eq_zero_iff.mp (by omega)⟩
    exact empty
  | cons eventsFirst choices step =>
    have turn := advances_turn capacity sound eventsFirst
    obtain ⟨sent, answers, empty, ends⟩ := step turn.sound
    rw [List.length_cons]
    refine ⟨⟨sent.1.trans turn.sent.1, sent.2.trans turn.sent.2⟩, turn.answers.trans answers,
      fun enough => empty ?_, fun closed enough => ?_⟩
    · rcases enough with already | enough
      · exact .inl (turn.empty already)
      · exact turn.less.elim (fun less => .inr (by omega)) fun idle => .inl (turn.empty idle.1)
    · rcases turn.less with less | ⟨_, ended⟩
      · exact ends (turn.closed closed) (by omega)
      · exact answers.subset (ended closed)

/-- In every schedule of sends, closings and turns of the loop, the calls have returned a first part
of the events and of the batches that were sent, each in order, and the channels hold the rest.
`None` was returned only with both channels closed and drained. When the calls go on, whichever
branches are polled first, they return everything that was sent, and `None` if both channels are
closed. -/
theorem handle_loses_nothing (capacity : Nat) (actions : List Action) :
    let before := start.run capacity actions
    before.sentEvents = eventsOf before.answers ++ before.handle.events.channel.buffer ∧
      before.sentBatches = batchesOf before.answers ++ before.handle.batches.channel.buffer ∧
      (none ∈ before.answers →
        before.handle.events.channel.Drained ∧ before.handle.batches.channel.Drained) ∧
      ∀ choices : List Bool,
        let after := before.turns capacity choices
        (before.left ≤ choices.length →
          eventsOf after.answers = before.sentEvents ∧
            batchesOf after.answers = before.sentBatches) ∧
        (before.Closed → before.left < choices.length → none ∈ after.answers) := by
  intro before
  have sound : before.Sound := sound_start.run actions
  refine ⟨sound.events.carries, sound.batches.carries, fun ended => ?_, fun choices => ?_⟩
  · obtain ⟨first, second⟩ := sound.ended ended
    exact ⟨sound.events.done first, sound.batches.done second⟩
  · obtain ⟨sent, _, empty, ends⟩ := turns_advance capacity sound choices
    refine ⟨fun enough => ?_, ends⟩
    -- nothing is left in the channels, and no turn sends
    have later : (before.turns capacity choices).Sound := sound.run _
    obtain ⟨noEvents, noBatches⟩ := empty (.inr enough)
    have carried := later.events.carries
    have carried' := later.batches.carries
    rw [noEvents, List.append_nil] at carried
    rw [noBatches, List.append_nil] at carried'
    exact ⟨carried.symm.trans sent.1, carried'.symm.trans sent.2⟩

end Exchange

end ConfluxQuery
