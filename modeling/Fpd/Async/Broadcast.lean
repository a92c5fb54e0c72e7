import Mathlib.Data.Nat.Init

namespace Fpd
namespace Async

/-!
# Signals to every subscriber

A broadcast channel whose values carry no data.  A receiver is the number of
signals sent before it was subscribed, so it holds exactly what is sent later.
A receiver that lagged behind is told so instead of getting the signal; to the
tasks that only wait for any answer that is the same.
-/

structure Broadcast where
  sent : Nat
  deriving DecidableEq, Repr

namespace Broadcast

variable {broadcast after : Broadcast} {receiver : Nat}

def new : Broadcast :=
  ⟨0⟩

/-- A new receiver, which has everything sent so far behind it. -/
def subscribe (broadcast : Broadcast) : Nat :=
  broadcast.sent

/-- Sending fails when nobody is subscribed. -/
def send (broadcast : Broadcast) (listened : Bool) : Option Broadcast :=
  if listened then some ⟨broadcast.sent + 1⟩ else none

/-- Polling the receiver would answer. -/
def holds (broadcast : Broadcast) (receiver : Nat) : Bool :=
  decide (receiver < broadcast.sent)

theorem send_eq_some_iff {listened : Bool} :
    broadcast.send listened = some after ↔ listened = true ∧ after.sent = broadcast.sent + 1 := by
  rcases after with ⟨sent⟩
  cases listened <;> simp [send, eq_comm]

theorem holds_of_send {listened : Bool} (sent : broadcast.send listened = some after)
    (subscribed : receiver ≤ broadcast.sent) : after.holds receiver = true := by
  apply decide_eq_true
  rw [(send_eq_some_iff.mp sent).2]
  exact Nat.lt_succ_of_le subscribed

end Broadcast
end Async
end Fpd
