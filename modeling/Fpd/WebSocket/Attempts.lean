import Fpd.WebSocket.Steps

namespace Fpd
namespace WebSocket

open Async

/-!
# The attempts of `connect`

A call of `connect` by itself: all it asks of the outside is what each
`initiate_connection` comes to.  The loop goes on after an error that is not
final, as long as it has attempts left, so it ends at the first final outcome
or at the last attempt.  The steps that the call takes in the socket are those
of this loop.
-/

/-- What a call of `connect` has done by the time it returns. -/
structure Connecting where
  attempts : Nat
  connections : Nat
  result : Except Error Unit
  deriving DecidableEq, Repr

namespace ConnectCall

/-- A success or an error that no further attempt would change. -/
def isFinal : Except Error Unit -> Bool
  | .ok () => true
  | .error error => error.isClientError

variable {maxRetries attempt : Nat} {outcome : Except Error Unit}

theorem answered_of_settled (settled : isFinal outcome = true ∨ attempt = maxRetries) :
    answered maxRetries attempt outcome = .returned outcome := by
  cases outcome with
  | ok => rfl
  | error error =>
      rcases settled with final | last
      · have client : error.isClientError = true := final
        simp only [answered, client, if_true, ite_self]
      · simp only [answered, if_pos last]

theorem answered_of_not_settled (unsettled : ¬ (isFinal outcome = true ∨ attempt = maxRetries)) :
    answered maxRetries attempt outcome = .waiting (.sleeping attempt) := by
  rw [not_or] at unsettled
  cases outcome with
  | ok => exact absurd rfl unsettled.1
  | error error =>
      have other : ¬ error.isClientError = true := unsettled.1
      simp only [answered, if_neg unsettled.2, if_neg other]

theorem settled_of_answered_returned {result : Except Error Unit}
    (returned : answered maxRetries attempt outcome = .returned result) :
    isFinal outcome = true ∨ attempt = maxRetries := by
  by_contra unsettled
  rw [answered_of_not_settled unsettled] at returned
  cases returned

theorem not_settled_of_answered_waiting {call : ConnectCall}
    (waits : answered maxRetries attempt outcome = .waiting call) :
    ¬ (isFinal outcome = true ∨ attempt = maxRetries) := by
  intro settled
  rw [answered_of_settled settled] at waits
  cases waits

/-- The loop of `connect` from one attempt on.  An `initiate_connection` that
succeeds has spawned the loops of a connection. -/
def connectFrom (maxRetries : Nat) (initiateConnection : Nat -> Except Error Unit) (attempt : Nat)
    (within : attempt ≤ maxRetries) : Connecting :=
  let spawned := if (initiateConnection attempt).isOk then 1 else 0
  match waits : answered maxRetries attempt (initiateConnection attempt) with
  | .returned result => ⟨1, spawned, result⟩
  | .waiting _ =>
      let rest := connectFrom maxRetries initiateConnection (attempt + 1)
        (Nat.lt_of_le_of_ne within (not_or.mp (not_settled_of_answered_waiting waits)).2)
      ⟨rest.attempts + 1, rest.connections + spawned, rest.result⟩
termination_by maxRetries - attempt
decreasing_by
  have more := (not_or.mp (not_settled_of_answered_waiting waits)).2
  omega

def connect (maxRetries : Nat) (initiateConnection : Nat -> Except Error Unit) : Connecting :=
  connectFrom maxRetries initiateConnection 0 (Nat.zero_le maxRetries)

section Loop

variable {initiateConnection : Nat -> Except Error Unit}

theorem connectFrom_of_settled (within : attempt ≤ maxRetries)
    (settled : isFinal (initiateConnection attempt) = true ∨ attempt = maxRetries) :
    connectFrom maxRetries initiateConnection attempt within =
      ⟨1, if (initiateConnection attempt).isOk then 1 else 0, initiateConnection attempt⟩ := by
  have ends := answered_of_settled settled
  rw [connectFrom]
  split
  · next result returned =>
      rw [ends] at returned
      cases returned
      rfl
  · next waits =>
      rw [ends] at waits
      cases waits

/-- An attempt that is not the last one spawns nothing. -/
theorem connectFrom_of_not_settled (within : attempt ≤ maxRetries)
    (unsettled : ¬ (isFinal (initiateConnection attempt) = true ∨ attempt = maxRetries)) :
    Exists fun further : attempt + 1 ≤ maxRetries =>
      connectFrom maxRetries initiateConnection attempt within =
        { connectFrom maxRetries initiateConnection (attempt + 1) further with
          attempts :=
            (connectFrom maxRetries initiateConnection (attempt + 1) further).attempts + 1 } := by
  have goesOn := answered_of_not_settled unsettled
  have failed : (initiateConnection attempt).isOk = false := by
    cases outcome : initiateConnection attempt with
    | ok => exact absurd (Or.inl (by rw [outcome]; rfl)) unsettled
    | error error => rfl
  refine ⟨Nat.lt_of_le_of_ne within (not_or.mp unsettled).2, ?_⟩
  rw [connectFrom]
  split
  · next returned =>
      rw [goesOn] at returned
      cases returned
  · simp only [failed, Bool.false_eq_true, if_false, Nat.add_zero]

end Loop

/-- The attempt that ends the loop: the first final one, or the last one that is
allowed. -/
structure EndsAt (maxRetries : Nat) (initiateConnection : Nat -> Except Error Unit)
    (last : Nat) : Prop where
  allowed : last ≤ maxRetries
  settled : isFinal (initiateConnection last) = true ∨ last = maxRetries
  first : forall earlier, earlier < last -> isFinal (initiateConnection earlier) = false

/-- The loop ends at the first final outcome from the attempt on. -/
theorem connectFrom_ends (initiateConnection : Nat -> Except Error Unit)
    (within : attempt ≤ maxRetries)
    (before : forall earlier, earlier < attempt -> isFinal (initiateConnection earlier) = false) :
    Exists fun last => EndsAt maxRetries initiateConnection last ∧ attempt ≤ last ∧
      connectFrom maxRetries initiateConnection attempt within =
        ⟨last - attempt + 1, if (initiateConnection last).isOk then 1 else 0,
          initiateConnection last⟩ := by
  induction attempt, within using connectFrom.induct maxRetries initiateConnection with
  | case1 attempt within result returned =>
      have settled := settled_of_answered_returned returned
      refine ⟨attempt, ⟨within, settled, before⟩, le_rfl, ?_⟩
      rw [connectFrom_of_settled within settled, Nat.sub_self]
  | case2 attempt within call waits inductionHypothesis =>
      have unsettled := not_settled_of_answered_waiting waits
      have failed := Bool.not_eq_true _ ▸ (not_or.mp unsettled).1
      rcases inductionHypothesis (Nat.forall_lt_succ_right.mpr ⟨before, failed⟩)
        with ⟨last, ends, later, rest⟩
      rcases connectFrom_of_not_settled within unsettled with ⟨further, equation⟩
      have count : last - (attempt + 1) + 1 = last - attempt := by omega
      refine ⟨last, ends, Nat.le_of_succ_le later, ?_⟩
      rw [equation, rest, count]

/-- A call of `connect` ends with its first success, its first client error or
its last attempt.  It makes no attempt after that, never has more than one
connection, and returns what its last attempt has come to. -/
theorem connect_endsAt (maxRetries : Nat) (initiateConnection : Nat -> Except Error Unit) :
    Exists fun last => EndsAt maxRetries initiateConnection last ∧
      (connect maxRetries initiateConnection).attempts = last + 1 ∧
      (connect maxRetries initiateConnection).attempts ≤ maxRetries + 1 ∧
      (connect maxRetries initiateConnection).connections ≤ 1 ∧
      (connect maxRetries initiateConnection).result = initiateConnection last := by
  rcases connectFrom_ends initiateConnection (Nat.zero_le maxRetries)
    (fun _ impossible => absurd impossible (Nat.not_lt_zero _)) with ⟨last, ends, _, equation⟩
  refine ⟨last, ends, ?_⟩
  rw [connect, equation]
  refine ⟨rfl, Nat.succ_le_succ ends.allowed, ?_, rfl⟩
  dsimp only
  split
  · exact le_rfl
  · exact Nat.zero_le 1

end ConnectCall

/-! ## The loop in the socket -/

namespace ReconnectingWebSocket

variable {maxRetries attempt : Nat} {socket : ReconnectingWebSocket} {caller : Caller}

/-- The steps of a call that makes so many attempts after this one. -/
def callActions (caller : Caller) (initiateConnection : Nat -> Except Error Unit)
    (attempt : Nat) : Nat -> List Action
  | 0 => [.attempted caller (initiateConnection attempt)]
  | more + 1 => .attempted caller (initiateConnection attempt) :: .woken caller ::
      callActions caller initiateConnection (attempt + 1) more

theorem connectCall_setConnectCall {call : ConnectCall} (next : ConnectCall)
    (called : socket.connectCall caller = some call) :
    (socket.setConnectCall caller next).connectCall caller = some next := by
  cases caller with
  | user position =>
      rcases List.getElem?_eq_some_iff.mp called with ⟨inside, _⟩
      exact List.getElem?_set_self inside
  | readLoop index =>
      rcases connectCall_readLoop called with ⟨connection, present, _⟩
      rcases List.getElem?_eq_some_iff.mp present with ⟨inside, _⟩
      simp only [setConnectCall, connectCall, present, setConnection_connections,
        List.getElem?_set_self inside]

theorem length_setConnectCall (call : ConnectCall) :
    (socket.setConnectCall caller call).connections.length = socket.connections.length := by
  cases caller with
  | user position => rfl
  | readLoop index =>
      cases present : socket.connections[index]? with
      | none => simp only [setConnectCall, present]
      | some connection =>
          simp only [setConnectCall, present, setConnection_connections, List.length_set]

/-- The attempt that settles a call ends it with its outcome. -/
theorem attempted_of_settled {outcome : Except Error Unit}
    (called : socket.connectCall caller = some (.initiating attempt))
    (settled : ConnectCall.isFinal outcome = true ∨ attempt = maxRetries) :
    Exists fun before =>
      socket.attempted maxRetries caller outcome = some (endConnectCall before caller outcome) ∧
        before.connections.length =
          socket.connections.length + if outcome.isOk then 1 else 0 := by
  have ends := ConnectCall.answered_of_settled settled
  cases outcome with
  | ok => exact ⟨socket.initiated, by simp only [attempted, called, ends], List.length_append⟩
  | error error => exact ⟨socket, by simp only [attempted, called, ends], rfl⟩

/-- Any other attempt leads to the next one. -/
theorem attempted_of_not_settled {outcome : Except Error Unit}
    (called : socket.connectCall caller = some (.initiating attempt))
    (unsettled : ¬ (ConnectCall.isFinal outcome = true ∨ attempt = maxRetries)) :
    Exists fun sleeping => Exists fun next =>
      socket.attempted maxRetries caller outcome = some sleeping ∧
        sleeping.woken caller = some next ∧
        next.connectCall caller = some (.initiating (attempt + 1)) ∧
        next.connections.length = socket.connections.length := by
  have goesOn := ConnectCall.answered_of_not_settled unsettled
  cases outcome with
  | ok => exact absurd (Or.inl rfl) unsettled
  | error error =>
      have sleeps := connectCall_setConnectCall (.sleeping attempt) called
      have next := connectCall_setConnectCall (.initiating (attempt + 1)) sleeps
      simp only [attempted, called, goesOn]
      refine ⟨_, _, rfl, by simp only [woken, sleeps]; rfl, ?_, ?_⟩
      · cases caller <;> exact next
      · rw [emit_connections, length_setConnectCall, length_setConnectCall]

/-- Alone, a call of the socket takes the steps of the loop: it has the attempts
and the connections of the loop, and ends with its result. -/
theorem run_callActions (initiateConnection : Nat -> Except Error Unit)
    (within : attempt ≤ maxRetries)
    (called : socket.connectCall caller = some (.initiating attempt)) :
    Exists fun before => Exists fun more =>
      (ConnectCall.connectFrom maxRetries initiateConnection attempt within).attempts = more + 1 ∧
      run (step maxRetries) anyStep socket (callActions caller initiateConnection attempt more) =
        some (endConnectCall before caller
          (ConnectCall.connectFrom maxRetries initiateConnection attempt within).result) ∧
      before.connections.length = socket.connections.length +
        (ConnectCall.connectFrom maxRetries initiateConnection attempt within).connections := by
  induction attempt, within using ConnectCall.connectFrom.induct maxRetries initiateConnection
    generalizing socket with
  | case1 attempt within result returned =>
      have settled := ConnectCall.settled_of_answered_returned returned
      rcases attempted_of_settled called settled with ⟨before, ends, length⟩
      rw [ConnectCall.connectFrom_of_settled within settled]
      refine ⟨before, 0, rfl, ?_, length⟩
      exact run_cons_eq_some_iff.mpr ⟨_, trivial, ends, rfl⟩
  | case2 attempt within call waits inductionHypothesis =>
      have unsettled := ConnectCall.not_settled_of_answered_waiting waits
      rcases ConnectCall.connectFrom_of_not_settled within unsettled with ⟨further, equation⟩
      rcases attempted_of_not_settled called unsettled with
        ⟨sleeping, next, sleeps, wakes, calls, same⟩
      rcases inductionHypothesis calls with ⟨before, more, attempts, ran, length⟩
      rw [equation]
      refine ⟨before, more + 1, by rw [attempts], ?_, by rw [length, same]⟩
      exact run_cons_eq_some_iff.mpr ⟨sleeping, trivial, sleeps,
        run_cons_eq_some_iff.mpr ⟨next, trivial, wakes, ran⟩⟩

end ReconnectingWebSocket
end WebSocket
end Fpd
