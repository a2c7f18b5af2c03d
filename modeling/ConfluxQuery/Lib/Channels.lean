import Mathlib

/-!
# Bounded channels

A channel holds, in order, the values that were sent and not yet received. A sender waits while the
channel is full, and the channel is closed when its senders are gone. A receiver takes the first
value, or learns of the end once the channel is closed and empty, and asks no more after that.
Whatever was sent is what was received and what is still held.
-/

/-- A channel: the values it holds, and whether its senders are gone. -/
structure Channel (α : Type) where
  /-- Values that wait for the receiver. -/
  buffer : List α
  closed : Bool

namespace Channel

variable {α : Type}

/-- A new channel. -/
def new : Channel α := ⟨[], false⟩

/-- Send a value, where there is a sender left and room for the value. -/
def send (capacity : Nat) (value : α) (channel : Channel α) : Option (Channel α) :=
  if channel.closed = false ∧ channel.buffer.length < capacity then
    some { channel with buffer := channel.buffer ++ [value] }
  else none

/-- The senders go away. -/
def close (channel : Channel α) : Channel α := { channel with closed := true }

/-- What a receiver gets. -/
inductive Received (α : Type)
  /-- The first value, with the channel after it. -/
  | value (value : α) (rest : Channel α)
  /-- The end of the channel. -/
  | ended
  /-- Nothing yet. -/
  | pending

/-- Ask for a value. -/
def recv (channel : Channel α) : Received α :=
  match channel.buffer with
  | value :: rest => .value value { channel with buffer := rest }
  | [] => if channel.closed then .ended else .pending

/-- The channel is closed and holds nothing. -/
def Drained (channel : Channel α) : Prop := channel.closed = true ∧ channel.buffer = []

theorem send_eq_some {channel after : Channel α} {capacity : Nat} {value : α}
    (happens : channel.send capacity value = some after) :
    channel.closed = false ∧ after = { channel with buffer := channel.buffer ++ [value] } := by
  rw [send] at happens
  split at happens
  · next room => exact ⟨room.1, (Option.some.inj happens).symm⟩
  · cases happens

end Channel

/-- A receiving end, with what its owner remembers. -/
structure Receiver (α : Type) where
  channel : Channel α
  /-- The end of the channel was seen. -/
  done : Bool

namespace Receiver

variable {α : Type} {receiver after : Receiver α} {sent received : List α}

/-- The receiving end of a new channel. -/
def new : Receiver α := ⟨.new, false⟩

/-- Ask for a value unless the end was seen: a value or the end, if one of them is ready. -/
def poll (receiver : Receiver α) : Option (Option α × Receiver α) :=
  if receiver.done then none
  else match receiver.channel.recv with
    | .value value rest => some (some value, { receiver with channel := rest })
    | .ended => some (none, { receiver with done := true })
    | .pending => none

/-- Answers that are left at most: one for every value held, and one for the end. -/
def left (receiver : Receiver α) : Nat := receiver.channel.buffer.length + (!receiver.done).toNat

/-- What was sent is what was received and what is held, and the end was seen only of a drained
channel. -/
structure Sound (receiver : Receiver α) (sent received : List α) : Prop where
  carries : sent = received ++ receiver.channel.buffer
  done : receiver.done = true → receiver.channel.Drained

theorem sound_new : (new : Receiver α).Sound [] [] := ⟨rfl, fun done => by cases done⟩

/-- A value that is sent is held. -/
theorem Sound.send (sound : receiver.Sound sent received) {capacity : Nat} {value : α}
    {channel : Channel α} (happens : receiver.channel.send capacity value = some channel) :
    Sound { receiver with channel := channel } (sent ++ [value]) received := by
  obtain ⟨goes, rfl⟩ := Channel.send_eq_some happens
  refine ⟨by rw [sound.carries, List.append_assoc], fun done => ?_⟩
  cases goes.symm.trans (sound.done done).1

/-- A channel may close at any time. -/
theorem Sound.close (sound : receiver.Sound sent received) :
    Sound { receiver with channel := receiver.channel.close } sent received :=
  ⟨sound.carries, fun done => ⟨rfl, (sound.done done).2⟩⟩

/-- An answer is received, and there is one less to come. -/
theorem Sound.poll (sound : receiver.Sound sent received) {value : Option α}
    (ready : receiver.poll = some (value, after)) :
    after.Sound sent (received ++ value.toList) ∧ after.left + 1 = receiver.left ∧
      after.channel.closed = receiver.channel.closed ∧
      (receiver.channel.buffer = [] → value = none ∧ after.channel.buffer = []) := by
  obtain ⟨⟨buffer, closed⟩, done⟩ := receiver
  have carries := sound.carries
  rw [Receiver.poll, Channel.recv] at ready
  split at ready
  · cases ready
  next goes =>
    have goes : done = false := Bool.not_eq_true _ ▸ goes
    subst goes
    cases buffer with
    | cons first rest =>
      cases ready
      exact ⟨⟨by simpa using carries, fun done => by cases done⟩, rfl, rfl,
        fun none => by cases none⟩
    | nil =>
      cases closed with
      | true =>
        cases ready
        exact ⟨⟨by simpa using carries, fun _ => ⟨rfl, rfl⟩⟩, rfl, rfl, fun none => ⟨rfl, none⟩⟩
      | false => cases ready

/-- Without an answer there is nothing to receive yet. -/
theorem Sound.idle (sound : receiver.Sound sent received) (idle : receiver.poll = none) :
    receiver.channel.buffer = [] ∧ (receiver.channel.closed = true → receiver.done = true) := by
  rw [Receiver.poll, Channel.recv] at idle
  split at idle
  · next done => exact ⟨(sound.done done).2, fun _ => done⟩
  · cases held : receiver.channel.buffer with
    | cons first rest =>
      rw [held] at idle
      cases idle
    | nil =>
      refine ⟨rfl, fun closed => ?_⟩
      simp only [held, closed, if_true] at idle
      cases idle

end Receiver
