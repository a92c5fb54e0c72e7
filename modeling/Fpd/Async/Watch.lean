import Fpd.Async.Channel

namespace Fpd
namespace Async

/-!
# A cell that tells its readers about changes

A watch cell keeps the last value sent and a version that every send bumps.
A receiver is the version it has seen.  Cloning a receiver copies that
version, so a clone of a receiver that never looked has seen nothing but the
initial value.
-/

structure Watch (Value : Type*) where
  value : Value
  version : Nat
  deriving DecidableEq, Repr

namespace Watch

variable {Value : Type*}

def new (value : Value) : Watch Value :=
  ⟨value, 0⟩

/-- Replace the value.  The version grows even when the value stays equal. -/
def sendReplace (watch : Watch Value) (value : Value) : Watch Value :=
  ⟨value, watch.version + 1⟩

/-- What waiting for a change answers to a receiver that has seen `seen`:
the value and its version when the version is another one, an error when it
is the same and the sender is gone. -/
def changed (watch : Watch Value) (senderAlive : Bool) (seen : Nat) :
    Poll (Except Unit (Value × Nat)) :=
  if watch.version = seen then
    if senderAlive then .pending else .ready (.error ())
  else .ready (.ok (watch.value, watch.version))

@[simp] theorem value_sendReplace (watch : Watch Value) (value : Value) :
    (watch.sendReplace value).value = value := rfl

theorem changed_of_ne {watch : Watch Value} {seen : Nat} (different : watch.version ≠ seen)
    (senderAlive : Bool) :
    watch.changed senderAlive seen = .ready (.ok (watch.value, watch.version)) :=
  if_neg different

theorem changed_eq_pending_iff (watch : Watch Value) (senderAlive : Bool) (seen : Nat) :
    watch.changed senderAlive seen = .pending ↔ watch.version = seen ∧ senderAlive = true := by
  unfold changed
  by_cases same : watch.version = seen <;> cases senderAlive <;> simp [same]

theorem changed_eq_error_iff (watch : Watch Value) (senderAlive : Bool) (seen : Nat) :
    watch.changed senderAlive seen = .ready (.error ()) ↔
      watch.version = seen ∧ senderAlive = false := by
  unfold changed
  by_cases same : watch.version = seen <;> cases senderAlive <;> simp [same]

theorem changed_eq_ok {watch : Watch Value} {senderAlive : Bool} {seen : Nat}
    {answer : Value × Nat} (changed : watch.changed senderAlive seen = .ready (.ok answer)) :
    watch.version ≠ seen := by
  intro same
  cases senderAlive <;> simp [Watch.changed, same] at changed

/-- While the sender is there, only a change ends the wait. -/
theorem version_ne_of_ready {watch : Watch Value} {seen : Nat} {answer : Except Unit (Value × Nat)}
    (changed : watch.changed true seen = .ready answer) : watch.version ≠ seen := by
  intro same
  have waits := (changed_eq_pending_iff watch true seen).mpr ⟨same, rfl⟩
  rw [waits] at changed
  cases changed

/-- The three answers of waiting for a change. -/
theorem changed_cases (watch : Watch Value) (senderAlive : Bool) (seen : Nat) :
    (watch.changed senderAlive seen = .pending ∧ senderAlive = true) ∨
      (watch.changed senderAlive seen = .ready (.error ()) ∧ senderAlive = false) ∨
      watch.changed senderAlive seen = .ready (.ok (watch.value, watch.version)) := by
  by_cases same : watch.version = seen
  · cases senderAlive with
    | true => exact Or.inl ⟨(changed_eq_pending_iff _ _ _).mpr ⟨same, rfl⟩, rfl⟩
    | false => exact Or.inr (Or.inl ⟨(changed_eq_error_iff _ _ _).mpr ⟨same, rfl⟩, rfl⟩)
  · exact Or.inr (Or.inr (changed_of_ne same senderAlive))

end Watch
end Async
end Fpd
