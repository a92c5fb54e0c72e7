import Mathlib.Data.List.Basic

namespace Fpd
namespace Async

/-!
# Bounded queues between tasks

The queue half of a bounded multi-producer multi-consumer channel.  Whether a
channel is closed is not stored: it is closed when all its senders or all its
receivers are gone, and which tasks hold them is known to the model that uses
the channel.  A sender must therefore look at that first; `trySend` only
answers whether there is room.
-/

/-- What polling a future may answer. -/
inductive Poll (Value : Type*)
  | pending
  | ready (value : Value)
  deriving DecidableEq, Repr

/-- Answers that may be errors can be compared. -/
instance decidableEqExcept {Failure Value : Type*} [DecidableEq Failure] [DecidableEq Value] :
    DecidableEq (Except Failure Value)
  | .ok left, .ok right => decidable_of_iff (left = right) (by simp only [Except.ok.injEq])
  | .error left, .error right =>
      decidable_of_iff (left = right) (by simp only [Except.error.injEq])
  | .ok _, .error _ => .isFalse fun same => by cases same
  | .error _, .ok _ => .isFalse fun same => by cases same

/-- A first-in first-out queue that never holds more than its capacity. -/
structure Channel (Value : Type*) (capacity : Nat) where
  queue : List Value
  bounded : queue.length ≤ capacity
  deriving DecidableEq, Repr

namespace Channel

variable {Value : Type*} {capacity : Nat}

def empty : Channel Value capacity :=
  ⟨[], Nat.zero_le capacity⟩

/-- Append a value when there is room. -/
def trySend (channel : Channel Value capacity) (value : Value) :
    Option (Channel Value capacity) :=
  if room : channel.queue.length < capacity then
    some ⟨channel.queue ++ [value], by
      rw [List.length_append, List.length_singleton]
      exact room⟩
  else none

/-- Take the oldest value. -/
def tryRecv (channel : Channel Value capacity) : Option (Value × Channel Value capacity) :=
  match same : channel.queue with
  | [] => none
  | value :: rest => some (value, ⟨rest, by
      have bounded := channel.bounded
      rw [same, List.length_cons] at bounded
      exact Nat.le_of_succ_le bounded⟩)

theorem trySend_eq_some_iff (channel after : Channel Value capacity) (value : Value) :
    channel.trySend value = some after ↔
      channel.queue.length < capacity ∧ after.queue = channel.queue ++ [value] := by
  unfold trySend
  by_cases room : channel.queue.length < capacity
  · rw [dif_pos room, Option.some.injEq]
    constructor
    · intro same
      exact ⟨room, same ▸ rfl⟩
    · rintro ⟨_, same⟩
      cases after
      simp only [mk.injEq]
      exact same.symm
  · rw [dif_neg room]
    exact ⟨fun impossible => (by cases impossible), fun both => absurd both.1 room⟩

theorem tryRecv_eq_some_iff (channel after : Channel Value capacity) (value : Value) :
    channel.tryRecv = some (value, after) ↔ channel.queue = value :: after.queue := by
  rcases channel with ⟨queue, bounded⟩
  cases queue with
  | nil => exact ⟨fun impossible => (by cases impossible), fun impossible => (by cases impossible)⟩
  | cons head rest =>
      simp only [tryRecv, Option.some.injEq, Prod.mk.injEq, List.cons.injEq]
      constructor
      · rintro ⟨sameHead, sameRest⟩
        exact ⟨sameHead, sameRest ▸ rfl⟩
      · rintro ⟨sameHead, sameRest⟩
        cases after
        exact ⟨sameHead, by simp only [mk.injEq]; exact sameRest⟩

theorem tryRecv_eq_none_iff (channel : Channel Value capacity) :
    channel.tryRecv = none ↔ channel.queue = [] := by
  rcases channel with ⟨queue, bounded⟩
  cases queue with
  | nil => exact ⟨fun _ => rfl, fun _ => rfl⟩
  | cons head rest =>
      exact ⟨fun impossible => (by cases impossible), fun impossible => (by cases impossible)⟩

end Channel
end Async
end Fpd
