import Fpd.WebSocket.Frames

namespace Fpd
namespace WebSocket
namespace ReconnectingWebSocket

open Async

/-!
# The close flag and the calls that wait for it

A call of `recv` clones the receiver of the close flag before it waits, and
the receiver it clones has seen nothing.  So as long as the flag is unsent a
pending call has seen its current version, and once it is sent no pending call
has.
-/

variable {socket after : ReconnectingWebSocket} {maxRetries : Nat} {action : Action}

/-- The close flag has been sent exactly when it is set, no pending `recv` has
seen it, and calls of `recv` borrow a handle. -/
structure CloseWatched (socket : ReconnectingWebSocket) : Prop where
  sent : socket.close.value = true ↔ socket.close.version ≠ 0
  unseen : forall seen, seen ∈ socket.recvs -> seen = 0
  borrowed : 0 < socket.recvs.length -> 0 < socket.handles

theorem CloseWatched.of_same (watched : CloseWatched socket) (close : after.close = socket.close)
    (recvs : after.recvs = socket.recvs) (handles : after.handles = socket.handles) :
    CloseWatched after :=
  ⟨close ▸ watched.sent, recvs ▸ watched.unseen, recvs ▸ handles ▸ watched.borrowed⟩

private theorem length_eraseIdx_pos {list : List Nat} {position : Nat}
    (some : 0 < (list.eraseIdx position).length) : 0 < list.length :=
  Nat.lt_of_lt_of_le some (List.length_eraseIdx_le list position)

theorem UserStep.closeWatched (effect : UserStep socket action after)
    (watched : CloseWatched socket) : CloseWatched after := by
  have unseen_erase (call : Nat) : forall seen, seen ∈ socket.recvs.eraseIdx call -> seen = 0 :=
    fun seen member => watched.unseen seen (List.mem_of_mem_eraseIdx member)
  cases effect with
  | cloned handle => exact ⟨watched.sent, watched.unseen, fun _ => Nat.succ_pos _⟩
  | dropped able =>
      refine ⟨watched.sent, watched.unseen, fun waiting => ?_⟩
      rcases able with several | ⟨_, idle⟩
      · exact Nat.sub_pos_of_lt several
      · simp only [ReconnectingWebSocket.idle, Bool.and_eq_true, List.isEmpty_iff] at idle
        rw [idle.2] at waiting
        cases waiting
  | closed handle =>
      exact ⟨⟨fun _ => Nat.succ_ne_zero _, fun _ => rfl⟩, watched.unseen, fun _ => handle⟩
  | recvCalled handle =>
      refine ⟨watched.sent, fun seen member => ?_, fun _ => handle⟩
      rcases List.mem_append.mp member with old | new
      · exact watched.unseen seen old
      · exact List.mem_singleton.mp new
  | recvNoticed call unset =>
      refine ⟨watched.sent, fun seen member => ?_, fun waiting => ?_⟩
      · have zero : socket.close.version = 0 := by
          by_contra sent
          rw [watched.sent.mpr sent] at unset
          cases unset
        rcases List.mem_or_eq_of_mem_set member with old | new
        · exact watched.unseen seen old
        · exact new.trans zero
      · rw [List.length_set] at waiting
        exact watched.borrowed waiting
  | received call =>
      exact ⟨watched.sent, unseen_erase call, fun waiting =>
        watched.borrowed (length_eraseIdx_pos waiting)⟩
  | recvEnded call =>
      exact ⟨watched.sent, unseen_erase call, fun waiting =>
        watched.borrowed (length_eraseIdx_pos waiting)⟩
  | recvFailed call =>
      exact ⟨watched.sent, unseen_erase call, fun waiting =>
        watched.borrowed (length_eraseIdx_pos waiting)⟩
  | recvCancelled call =>
      exact ⟨watched.sent, unseen_erase call, fun waiting =>
        watched.borrowed (length_eraseIdx_pos waiting)⟩
  | sendRefused => exact watched.of_same rfl rfl rfl
  | sendCalled => exact watched.of_same rfl rfl rfl
  | accepted => exact watched.of_same rfl rfl rfl
  | sendFailed => exact watched.of_same rfl rfl rfl
  | sendCancelled => exact watched.of_same rfl rfl rfl
  | skipped => exact watched.of_same rfl rfl rfl

theorem closeWatched_of_reaches {allowed : ReconnectingWebSocket -> Action -> Prop}
    (reached : Reaches (step maxRetries) allowed build socket) : CloseWatched socket := by
  refine reached.invariant ⟨?_, ?_, ?_⟩ fun before action after _ watched _ taken => ?_
  · exact ⟨fun impossible => (by cases impossible), fun impossible => absurd rfl impossible⟩
  · exact fun seen member => by cases member
  · exact fun impossible => by cases impossible
  · cases step_spec taken with
    | user effect => exact effect.closeWatched watched
    | connect effect =>
        have frame := effect.frame
        exact watched.of_same frame.close frame.recvs frame.handles
    | readLoop present effect =>
        have replaces := (effect.replaces present).1
        exact watched.of_same replaces.close replaces.recvs replaces.handles
    | writeLoop present effect =>
        have replaces := (effect.replaces present).1
        exact watched.of_same replaces.close replaces.recvs replaces.handles
    | keepAliveRead _ _ => exact watched.of_same rfl rfl rfl
    | keepAliveWrite _ _ => exact watched.of_same rfl rfl rfl

end ReconnectingWebSocket
end WebSocket
end Fpd
