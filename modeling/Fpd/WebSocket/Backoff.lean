import Fpd.Arith.Overflow
import Fpd.WebSocket.Frames

namespace Fpd
namespace WebSocket

open Arith Async

/-!
# The waits of `connect`

Between two attempts `connect` waits, each time twice as long, up to a limit.
The power is computed in 64 bits before it is compared with the limit, so it
overflows as soon as the exponent does not fit: an attempt with number 58 or more
is beyond it, however small the limit.
-/

/-- The attempt is one of those that `connect` makes, and the wait after it one
that another attempt follows. -/
def ConnectCall.Within (maxRetries : Nat) : ConnectCall -> Prop
  | .initiating attempt => attempt ≤ maxRetries
  | .sleeping attempt => attempt < maxRetries

namespace ReconnectingWebSocket

variable {socket after : ReconnectingWebSocket} {index : Nat} {connection : Connection}
  {maxRetries attempt : Nat} {action : Action} {maxBackoffDuration : Nat}

/-! ## One wait -/

/-- `Duration::from_millis`, in nanoseconds. -/
def fromMillis (millis : BitVec 64) : Nat :=
  millis.toNat * 1000000

/-- The duration that `connect` computes before it sleeps, and whether one of the
operations on the way has overflowed. -/
def duration (maxBackoffDuration : Nat) (attempt : BitVec 32) : Nat × Bool :=
  let exponent := overflowingAdd attempt 6
  let millis := overflowingPow (2 : BitVec 64) exponent.value
  (min (fromMillis millis.value) maxBackoffDuration, exponent.overflowed || millis.overflowed)

/-- The wait as it is meant: twice as long each time, up to the limit. -/
def backoff (maxBackoffDuration attempt : Nat) : Nat :=
  min (2 ^ (attempt + 6) * 1000000) maxBackoffDuration

theorem backoff_mono : Monotone (backoff maxBackoffDuration) := by
  intro earlier later before
  exact min_le_min_right _ (Nat.mul_le_mul_right _ (Nat.pow_le_pow_right Nat.two_pos (by omega)))

/-- The exponent is exact as long as it fits. -/
theorem exponent_of_lt (fits : attempt + 6 < 2 ^ 32) :
    (overflowingAdd (BitVec.ofNat 32 attempt) 6).value.toNat = attempt + 6 ∧
      (overflowingAdd (BitVec.ofNat 32 attempt) 6).overflowed = false := by
  have exact : (BitVec.ofNat 32 attempt).toNat + (6 : BitVec 32).toNat = attempt + 6 := by
    rw [BitVec.toNat_ofNat, Nat.mod_eq_of_lt (by omega)]
    rfl
  unfold overflowingAdd
  rw [exact]
  exact ⟨Overflowing.toNat_value_of fits, Overflowing.overflowed_of_eq_false_iff.mpr fits⟩

theorem duration_of_lt (small : attempt < 58) :
    duration maxBackoffDuration (BitVec.ofNat 32 attempt) =
      (backoff maxBackoffDuration attempt, false) := by
  have exponent := @exponent_of_lt attempt (by omega)
  have fits : 2 ^ (attempt + 6) < 2 ^ 64 := Nat.pow_lt_pow_right (by decide) (by omega)
  have base : (2 : BitVec 64).toNat = 2 := rfl
  simp only [duration, overflowingPow, exponent.1, exponent.2, base, fromMillis, backoff,
    Overflowing.toNat_value_of fits, Overflowing.overflowed_of_eq_false_iff.mpr fits, Bool.or_false]

theorem overflowed_of_le (large : 58 ≤ attempt) (fits : attempt < 2 ^ 32) :
    (duration maxBackoffDuration (BitVec.ofNat 32 attempt)).2 = true := by
  by_cases below : attempt + 6 < 2 ^ 32
  · have exceeds : 2 ^ 64 ≤ 2 ^ (attempt + 6) := Nat.pow_le_pow_right Nat.two_pos (by omega)
    have base : (2 : BitVec 64).toNat = 2 := rfl
    simp only [duration, overflowingPow, (exponent_of_lt below).1, base, Overflowing.of,
      decide_eq_true exceeds, Bool.or_true]
  · have exceeds : 2 ^ 32 ≤ attempt + (6 : BitVec 32).toNat := Nat.le_of_not_lt below
    have same : (BitVec.ofNat 32 attempt).toNat = attempt :=
      (BitVec.toNat_ofNat attempt 32).trans (Nat.mod_eq_of_lt fits)
    simp only [duration, overflowingAdd, same, Overflowing.of, decide_eq_true exceeds, Bool.true_or]

/-! ## The attempts that `connect` can reach -/

structure CallsWithin (maxRetries : Nat) (socket : ReconnectingWebSocket) : Prop where
  connects : forall call, call ∈ socket.connects -> call.Within maxRetries
  connections : forall (index : Nat) (connection : Connection),
    socket.connections[index]? = some connection ->
      forall call, connection.readLoop = .reconnecting call -> call.Within maxRetries

namespace CallsWithin

theorem of_connects (within : CallsWithin maxRetries socket)
    (connections : after.connections = socket.connections)
    (connects : forall call, call ∈ after.connects ->
      call ∈ socket.connects ∨ call.Within maxRetries) :
    CallsWithin maxRetries after := by
  constructor
  · exact fun call member => (connects call member).elim (within.connects call) id
  · rw [connections]
    exact within.connections

theorem of_replaces {replaced : Connection} (within : CallsWithin maxRetries socket)
    (replaces : Replaces socket after index connection replaced)
    (moved : forall call, replaced.readLoop = .reconnecting call ->
      connection.readLoop = .reconnecting call ∨ call.Within maxRetries) :
    CallsWithin maxRetries after := by
  constructor
  · rw [replaces.connects]
    exact within.connects
  · intro there found located call rests
    rcases replaces.cases located with ⟨_, rfl⟩ | ⟨_, old⟩
    · exact (moved call rests).elim (within.connections index connection replaces.present call) id
    · exact within.connections there found old call rests

theorem initiated (within : CallsWithin maxRetries socket) :
    CallsWithin maxRetries socket.initiated := by
  refine ⟨within.connects, fun there found located call rests => ?_⟩
  rcases getElem?_append_cases located with ⟨_, rfl⟩ | ⟨_, old⟩
  · cases rests
  · exact within.connections there found old call rests

end CallsWithin

theorem ConnectStep.callsWithin (effect : ConnectStep maxRetries socket action after)
    (within : CallsWithin maxRetries socket) : CallsWithin maxRetries after := by
  have here (call : Nat) {found : ConnectCall} (called : socket.connects[call]? = some found) :
      found.Within maxRetries := within.connects found (List.mem_of_getElem? called)
  cases effect with
  | called handle =>
      refine within.of_connects rfl fun call member => ?_
      rcases List.mem_append.mp member with old | new
      · exact Or.inl old
      · rw [List.mem_singleton.mp new]
        exact Or.inr (Nat.zero_le maxRetries)
  | cancelled call =>
      exact within.of_connects rfl fun _ member => Or.inl (List.mem_of_mem_eraseIdx member)
  | userConnected call attempt called =>
      have spawned := within.initiated
      exact spawned.of_connects rfl fun _ member => Or.inl (List.mem_of_mem_eraseIdx member)
  | userFailed call attempt error called =>
      exact within.of_connects rfl fun _ member => Or.inl (List.mem_of_mem_eraseIdx member)
  | userWaits call attempt error called retries =>
      refine within.of_connects rfl fun other member => ?_
      rcases List.mem_or_eq_of_mem_set member with old | rfl
      · exact Or.inl old
      · exact Or.inr (Nat.lt_of_le_of_ne (here call called) retries.1)
  | userWoken call attempt called =>
      have waited : attempt < maxRetries := here call called
      refine within.of_connects rfl fun other member => ?_
      rcases List.mem_or_eq_of_mem_set member with old | rfl
      · exact Or.inl old
      · exact Or.inr waited
  | reconnected index attempt connection present rests =>
      apply CallsWithin.initiated
      exact within.of_replaces (replaces_reconnecting present rests _) nofun
  | gaveUp index attempt connection error present rests =>
      exact within.of_replaces (replaces_reconnecting present rests _) nofun
  | waits index attempt connection error present rests retries =>
      have reached := within.connections index connection present _ rests
      refine within.of_replaces (replaces_reconnecting present rests _) ?_
      rintro _ ⟨⟩
      exact Or.inr (Nat.lt_of_le_of_ne reached retries.1)
  | woken index attempt connection present rests =>
      have waited : attempt < maxRetries := within.connections index connection present _ rests
      refine within.of_replaces ((replaces_reconnecting present rests _).emit _) ?_
      rintro _ ⟨⟩
      exact Or.inr waited

/-- A read loop that connects again starts with the first attempt. -/
theorem ReadLoopStep.firstAttempt {replaced : Connection} {call : ConnectCall}
    (effect : ReadLoopStep socket index connection replaced after)
    (rests : replaced.readLoop = .reconnecting call) : call = .initiating 0 := by
  have upgraded {held unheld : ReadLoop} (never : forall call, held ≠ .reconnecting call)
      (neither : forall call, unheld ≠ .reconnecting call)
      (moved : (if socket.innerAlive then held else unheld) = .reconnecting call) :
      call = .initiating 0 := by
    split at moved
    · exact absurd moved (never call)
    · exact absurd moved (neither call)
  cases effect with
  | reconnecting => exact (ReadLoop.reconnecting.inj rests).symm
  | spawned => exact upgraded (fun _ => by simp) (fun _ => by simp) rests
  | left => exact upgraded (fun _ => by simp) (fun _ => by simp) rests
  | _ => cases rests

theorem callsWithin_of_reaches {allowed : ReconnectingWebSocket -> Action -> Prop}
    (reached : Reaches (step maxRetries) allowed build socket) :
    CallsWithin maxRetries socket := by
  apply reached.invariant
  · constructor
    · intro call member
      cases member
    · intro index connection present
      cases present
  · intro before action after _ within _ taken
    cases step_spec taken with
    | user effect =>
        have frame := effect.frame
        exact within.of_connects frame.connections fun _ member => Or.inl (frame.connects ▸ member)
    | connect effect => exact effect.callsWithin within
    | readLoop present effect =>
        refine within.of_replaces (effect.replaces present).1 fun call rests => Or.inr ?_
        rw [effect.firstAttempt rests]
        exact Nat.zero_le maxRetries
    | writeLoop present effect =>
        have replaces := effect.replaces present
        exact within.of_replaces replaces.1 fun _ rests => Or.inl (replaces.2.readLoop ▸ rests)
    | keepAliveRead present => exact within.of_replaces (keepAlive_replaces present) fun _ => Or.inl
    | keepAliveWrite present =>
        exact within.of_replaces (keepAlive_replaces present) fun _ => Or.inl

/-- A wait that belongs to a call has a number below the limit of the call. -/
theorem lt_of_sleeping (within : CallsWithin maxRetries socket) {caller : Caller}
    (sleeps : socket.connectCall caller = some (.sleeping attempt)) : attempt < maxRetries := by
  cases caller with
  | user position => exact within.connects _ (List.mem_of_getElem? sleeps)
  | readLoop index =>
      rcases connectCall_readLoop sleeps with ⟨connection, present, rests⟩
      exact within.connections index connection present _ rests

/-- A refused connection, which is no answer of the server. -/
def unreachable : Except Error Unit :=
  .error (.io "connection refused")

/-- As long as retries are left a call can be made to wait again. -/
theorem exists_sleeping (few : attempt < maxRetries) : Exists fun socket =>
    Reaches (step maxRetries) anyStep build socket ∧ socket.connects = [.sleeping attempt] := by
  have waits {socket : ReconnectingWebSocket} {attempt : Nat} (few : attempt < maxRetries)
      (calls : socket.connects = [.initiating attempt]) :
      step maxRetries socket (.attempted (.user 0) unreachable) =
        some { socket with connects := [.sleeping attempt] } := by
    simp [step, attempted, connectCall, calls, unreachable, ConnectCall.answered, few.ne,
      Error.isClientError, setConnectCall]
  induction attempt with
  | zero =>
      have called : step maxRetries build .connect =
          some ({ build with connects := [ConnectCall.initiating 0] }.emit [.connecting]) := rfl
      exact ⟨_, (Reaches.refl.tail trivial called).tail trivial (waits few rfl), rfl⟩
  | succ attempt inductionHypothesis =>
      rcases inductionHypothesis (Nat.lt_of_succ_lt few) with ⟨socket, reached, sleeps⟩
      have woke : step maxRetries socket (.woken (.user 0)) =
          some ({ socket with connects := [ConnectCall.initiating (attempt + 1)] }.emit
            [.connecting]) := by
        simp [step, woken, connectCall, sleeps, setConnectCall]
      exact ⟨_, (reached.tail trivial woke).tail trivial (waits few rfl), rfl⟩

/-! ## The waits of a call -/

/-- The wait after this attempt is computed without overflow, it is as long as it
is meant to be, and none of the waits before it was longer. -/
structure WaitsAsMeant (maxBackoffDuration attempt : Nat) : Prop where
  fits : attempt < 2 ^ 32
  duration : duration maxBackoffDuration (BitVec.ofNat 32 attempt) =
    (backoff maxBackoffDuration attempt, false)
  grows : forall earlier, earlier ≤ attempt ->
    (ReconnectingWebSocket.duration maxBackoffDuration (BitVec.ofNat 32 earlier)).1 ≤
      (ReconnectingWebSocket.duration maxBackoffDuration (BitVec.ofNat 32 attempt)).1

theorem waitsAsMeant_of_lt (small : attempt < 58) : WaitsAsMeant maxBackoffDuration attempt := by
  refine ⟨by omega, duration_of_lt small, fun earlier before => ?_⟩
  rw [duration_of_lt small, duration_of_lt (Nat.lt_of_le_of_lt before small)]
  exact backoff_mono before

/-- Whatever call of `connect` waits in whatever run, the wait is as meant. -/
def AlwaysWaitsAsMeant (maxRetries : BitVec 32) (maxBackoffDuration : Nat) : Prop :=
  forall socket, Reaches (step maxRetries.toNat) anyStep build socket ->
    forall caller attempt, socket.connectCall caller = some (.sleeping attempt) ->
      WaitsAsMeant maxBackoffDuration attempt

/-- The waits are as meant exactly if there are at most 58 of them. -/
theorem alwaysWaitsAsMeant_iff (maxRetries : BitVec 32) (maxBackoffDuration : Nat) :
    AlwaysWaitsAsMeant maxRetries maxBackoffDuration ↔ maxRetries.toNat ≤ 58 := by
  constructor
  · intro always
    by_contra many
    rcases exists_sleeping (Nat.lt_of_not_le many) with ⟨socket, reached, sleeps⟩
    have wait := (always socket reached (.user 0) 58 (by rw [connectCall, sleeps]; rfl)).duration
    have overflowed := @overflowed_of_le 58 maxBackoffDuration le_rfl (by decide)
    rw [wait] at overflowed
    cases overflowed
  · intro few socket reached caller attempt sleeps
    have below := lt_of_sleeping (callsWithin_of_reaches reached) sleeps
    exact waitsAsMeant_of_lt (Nat.lt_of_lt_of_le below few)

/-- With 59 retries and the default limit of a minute, the last wait overflows,
and without overflow checks it has no length at all. -/
theorem last_wait_overflows : duration 60000000000 58 = (0, true) ∧
    ¬ forall (maxRetries : BitVec 32) (maxBackoffDuration : Nat),
      AlwaysWaitsAsMeant maxRetries maxBackoffDuration := by
  have overflows : duration 60000000000 58 = (0, true) := by decide
  refine ⟨overflows, fun always => ?_⟩
  rcases @exists_sleeping 59 58 (by decide) with ⟨socket, reached, sleeps⟩
  have wait := (always 59 60000000000 socket reached (.user 0) 58
    (by rw [connectCall, sleeps]; rfl)).duration
  have same : BitVec.ofNat 32 58 = 58 := rfl
  rw [same, overflows] at wait
  cases wait

end ReconnectingWebSocket
end WebSocket
end Fpd
