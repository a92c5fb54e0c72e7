import Fpd.Async.Watch
import Fpd.WebSocket.Message

namespace Fpd
namespace WebSocket

open Async

/-!
# `WebSocketKeepAlive`

One connection of the underlying library, with the two tasks that move its
messages through a pair of channels.  A task is its program counter: the await
point at which it rests.  Its poll runs it from there to the next one.

The channel ends on the caller's side live in the clones of the
`WebSocketKeepAlive`; the argument `held` of a poll says whether any clone is
left.  What the stream, the sink and the clock answer is an argument as well.
The tasks run on the single-threaded runtime that `main` asks for, so a select
looks at its branches in one go, in the order in which they are written.
-/

/-- The read task.  `seen` is the version of the disconnect flag that its
receiver has seen. -/
inductive KeepAliveRead
  | selecting (seen : Nat)
  | forwarding (item : Item) (seen : Nat)
  | cleaningUp
  | finished
  deriving DecidableEq, Repr

inductive KeepAliveWrite
  | selecting (seen : Nat)
  | sending (message : Message) (seen : Nat)
  | pinging (seen : Nat)
  | cleaningUp
  | closing
  | finished
  deriving DecidableEq, Repr

def KeepAliveRead.running : KeepAliveRead -> Bool
  | .finished => false
  | _ => true

def KeepAliveWrite.running : KeepAliveWrite -> Bool
  | .finished => false
  | _ => true

/-- What the tasks of one connection show to the outside. -/
inductive KeepAliveEvent
  | streamed (item : Item)
  | streamEnded
  | handed (message : Message)
  | written (message : Message)
  | writeFailed (message : Message)
  | pingWritten
  | pingFailed
  | sinkClosed
  deriving DecidableEq, Repr

structure WebSocketKeepAlive where
  incoming : Channel Item 1
  outgoing : Channel Message 1
  disconnect : Watch Bool
  readTask : KeepAliveRead
  writeTask : KeepAliveWrite
  deriving DecidableEq, Repr

namespace WebSocketKeepAlive

/-- `new_with_ping_timeout`: empty channels and the two tasks spawned. -/
def newWithPingTimeout : WebSocketKeepAlive where
  incoming := .empty
  outgoing := .empty
  disconnect := .new false
  readTask := .selecting 0
  writeTask := .selecting 0

/-- Both tasks still run. -/
def running (ws : WebSocketKeepAlive) : Bool :=
  ws.readTask.running && ws.writeTask.running

/-- `recv`: the channel is closed once the read task has dropped its sender. -/
def recv (ws : WebSocketKeepAlive) : Poll (Option Item × WebSocketKeepAlive) :=
  match ws.incoming.tryRecv with
  | some (item, incoming) => .ready (some item, { ws with incoming := incoming })
  | none => if ws.readTask.running then .pending else .ready (none, ws)

/-- `outgoing_sender.send`: an error gives the message back.  The receiver
belongs to the write task, which drops it only when it ends. -/
def outgoingSend (ws : WebSocketKeepAlive) (message : Message) :
    Poll (Except Message WebSocketKeepAlive) :=
  if ws.writeTask.running then
    match ws.outgoing.trySend message with
    | some outgoing => .ready (.ok { ws with outgoing := outgoing })
    | none => .pending
  else .ready (.error message)

/-- One poll of the task of `spawn_read_loop`. -/
def readLoop (ws : WebSocketKeepAlive) (held : Bool) (stream : Poll (Option Item)) :
    Option (WebSocketKeepAlive × List KeepAliveEvent) :=
  match ws.readTask with
  | .selecting seen =>
      match stream with
      | .ready (some item) =>
          if item.isKeepAlive then some (ws, [.streamed item])
          else some ({ ws with readTask := .forwarding item seen }, [.streamed item])
      | .ready none => some ({ ws with readTask := .cleaningUp }, [.streamEnded])
      | .pending =>
          match ws.disconnect.changed true seen with
          | .ready _ => some ({ ws with readTask := .cleaningUp }, [])
          | .pending => none
  | .forwarding item seen =>
      if held then
        match ws.incoming.trySend item with
        | some incoming => some ({ ws with incoming := incoming, readTask := .selecting seen }, [])
        | none => none
      else some ({ ws with readTask := .cleaningUp }, [])
  | .cleaningUp =>
      some ({ ws with disconnect := ws.disconnect.sendReplace true, readTask := .finished }, [])
  | .finished => none

/-- One poll of the task of `spawn_write_loop`.  A message that is in its
hands when a write fails is gone, and so is one left in the queue when the
task ends. -/
def writeLoop (ws : WebSocketKeepAlive) (held timeout : Bool) (sink : Poll (Except Error Unit)) :
    Option (WebSocketKeepAlive × List KeepAliveEvent) :=
  match ws.writeTask with
  | .selecting seen =>
      match ws.disconnect.changed true seen with
      | .ready _ => some ({ ws with writeTask := .cleaningUp }, [])
      | .pending =>
          match ws.outgoing.tryRecv with
          | some (message, outgoing) =>
              some ({ ws with outgoing := outgoing, writeTask := .sending message seen },
                [.handed message])
          | none =>
              if held then
                if timeout then some ({ ws with writeTask := .pinging seen }, []) else none
              else some ({ ws with writeTask := .cleaningUp }, [])
  | .sending message seen =>
      match sink with
      | .ready (.ok ()) => some ({ ws with writeTask := .selecting seen }, [.written message])
      | .ready (.error _) => some ({ ws with writeTask := .cleaningUp }, [.writeFailed message])
      | .pending => none
  | .pinging seen =>
      match sink with
      | .ready (.ok ()) => some ({ ws with writeTask := .selecting seen }, [.pingWritten])
      | .ready (.error _) => some ({ ws with writeTask := .cleaningUp }, [.pingFailed])
      | .pending => none
  | .cleaningUp =>
      some ({ ws with disconnect := ws.disconnect.sendReplace true, writeTask := .closing }, [])
  | .closing =>
      match sink with
      | .ready _ => some ({ ws with writeTask := .finished }, [.sinkClosed])
      | .pending => none
  | .finished => none

/-! ## What the operations of a connection can do -/

theorem recv_item {ws after : WebSocketKeepAlive} {item : Item}
    (answered : ws.recv = .ready (some item, after)) :
    Exists fun incoming : Channel Item 1 =>
      ws.incoming.queue = item :: incoming.queue ∧ after = { ws with incoming := incoming } := by
  unfold recv at answered
  cases taken : ws.incoming.tryRecv with
  | none =>
      rw [taken] at answered
      cases running : ws.readTask.running <;> simp [running] at answered
  | some pair =>
      rcases pair with ⟨head, incoming⟩
      simp only [taken, Poll.ready.injEq, Prod.mk.injEq, Option.some.injEq] at answered
      rcases answered with ⟨same, rest⟩
      subst same
      exact ⟨incoming, (Channel.tryRecv_eq_some_iff _ _ _).mp taken, rest.symm⟩

theorem recv_ended {ws after : WebSocketKeepAlive} (answered : ws.recv = .ready (none, after)) :
    ws.incoming.queue = [] ∧ ws.readTask.running = false ∧ after = ws := by
  unfold recv at answered
  cases taken : ws.incoming.tryRecv with
  | none =>
      rw [taken] at answered
      cases running : ws.readTask.running with
      | false =>
          simp only [running, Bool.false_eq_true, if_false, Poll.ready.injEq, Prod.mk.injEq,
            true_and] at answered
          exact ⟨(Channel.tryRecv_eq_none_iff _).mp taken, rfl, answered.symm⟩
      | true => simp [running] at answered
  | some pair => simp [taken] at answered

theorem outgoingSend_sent {ws after : WebSocketKeepAlive} {message : Message}
    (answered : ws.outgoingSend message = .ready (.ok after)) :
    ws.writeTask.running = true ∧ Exists fun outgoing : Channel Message 1 =>
      outgoing.queue = ws.outgoing.queue ++ [message] ∧
        after = { ws with outgoing := outgoing } := by
  unfold outgoingSend at answered
  cases running : ws.writeTask.running with
  | false => simp [running] at answered
  | true =>
      cases sent : ws.outgoing.trySend message with
      | none => simp [running, sent] at answered
      | some outgoing =>
          simp only [running, sent, if_true, Poll.ready.injEq, Except.ok.injEq] at answered
          exact ⟨rfl, outgoing, ((Channel.trySend_eq_some_iff _ _ _).mp sent).2, answered.symm⟩

theorem outgoingSend_refused {ws : WebSocketKeepAlive} {message returned : Message}
    (answered : ws.outgoingSend message = .ready (.error returned)) :
    returned = message ∧ ws.writeTask.running = false := by
  unfold outgoingSend at answered
  cases running : ws.writeTask.running with
  | false =>
      simp only [running, Bool.false_eq_true, if_false, Poll.ready.injEq, Except.error.injEq]
        at answered
      exact ⟨answered.symm, rfl⟩
  | true => cases sent : ws.outgoing.trySend message <;> simp [running, sent] at answered

/-- Everything one poll of the read task can do. -/
inductive ReadStep (ws : WebSocketKeepAlive) (held : Bool) (stream : Poll (Option Item)) :
    WebSocketKeepAlive -> List KeepAliveEvent -> Prop
  | swallowed (item : Item) (seen : Nat) (rests : ws.readTask = .selecting seen)
      (control : item.isKeepAlive = true) (yielded : stream = .ready (some item)) :
      ReadStep ws held stream ws [.streamed item]
  | received (item : Item) (seen : Nat) (rests : ws.readTask = .selecting seen)
      (data : item.isKeepAlive = false) (yielded : stream = .ready (some item)) :
      ReadStep ws held stream { ws with readTask := .forwarding item seen } [.streamed item]
  | ended (seen : Nat) (rests : ws.readTask = .selecting seen) (yielded : stream = .ready none) :
      ReadStep ws held stream { ws with readTask := .cleaningUp } [.streamEnded]
  | stopped (seen : Nat) (rests : ws.readTask = .selecting seen)
      (changed : ws.disconnect.version ≠ seen) :
      ReadStep ws held stream { ws with readTask := .cleaningUp } []
  | forwarded (item : Item) (seen : Nat) (incoming : Channel Item 1)
      (rests : ws.readTask = .forwarding item seen)
      (sent : incoming.queue = ws.incoming.queue ++ [item]) :
      ReadStep ws held stream { ws with incoming := incoming, readTask := .selecting seen } []
  | abandoned (item : Item) (seen : Nat) (rests : ws.readTask = .forwarding item seen)
      (dropped : held = false) : ReadStep ws held stream { ws with readTask := .cleaningUp } []
  | published (rests : ws.readTask = .cleaningUp) :
      ReadStep ws held stream
        { ws with disconnect := ws.disconnect.sendReplace true, readTask := .finished } []

theorem readLoop_step {ws after : WebSocketKeepAlive} {held : Bool} {stream : Poll (Option Item)}
    {events : List KeepAliveEvent} (polled : ws.readLoop held stream = some (after, events)) :
    ReadStep ws held stream after events := by
  unfold readLoop at polled
  cases rests : ws.readTask with
  | selecting seen =>
      rcases stream with _ | _ | item
      · cases changed : ws.disconnect.changed true seen with
        | pending => simp [rests, changed] at polled
        | ready answer =>
            simp only [rests, changed, Option.some.injEq, Prod.mk.injEq] at polled
            rcases polled with ⟨rfl, rfl⟩
            exact .stopped seen rests (Watch.version_ne_of_ready changed)
      · simp only [rests, Option.some.injEq, Prod.mk.injEq] at polled
        rcases polled with ⟨rfl, rfl⟩
        exact .ended seen rests rfl
      · cases kind : item.isKeepAlive <;>
          simp only [rests, kind, Bool.false_eq_true, if_false, if_true, Option.some.injEq,
            Prod.mk.injEq] at polled <;> rcases polled with ⟨rfl, rfl⟩
        · exact .received item seen rests kind rfl
        · exact .swallowed item seen rests kind rfl
  | forwarding item seen =>
      cases held with
      | false =>
          simp only [rests, Bool.false_eq_true, if_false, Option.some.injEq, Prod.mk.injEq]
            at polled
          rcases polled with ⟨rfl, rfl⟩
          exact .abandoned item seen rests rfl
      | true =>
          cases sent : ws.incoming.trySend item with
          | none => simp [rests, sent] at polled
          | some incoming =>
              simp only [rests, sent, if_true, Option.some.injEq, Prod.mk.injEq] at polled
              rcases polled with ⟨rfl, rfl⟩
              exact .forwarded item seen incoming rests
                ((Channel.trySend_eq_some_iff _ _ _).mp sent).2
  | cleaningUp =>
      simp only [rests, Option.some.injEq, Prod.mk.injEq] at polled
      rcases polled with ⟨rfl, rfl⟩
      exact .published rests
  | finished => simp [rests] at polled

/-- Everything one poll of the write task can do. -/
inductive WriteStep (ws : WebSocketKeepAlive) (held : Bool) (sink : Poll (Except Error Unit)) :
    WebSocketKeepAlive -> List KeepAliveEvent -> Prop
  | stopped (seen : Nat) (rests : ws.writeTask = .selecting seen)
      (changed : ws.disconnect.version ≠ seen) :
      WriteStep ws held sink { ws with writeTask := .cleaningUp } []
  | took (message : Message) (seen : Nat) (outgoing : Channel Message 1)
      (rests : ws.writeTask = .selecting seen)
      (taken : ws.outgoing.queue = message :: outgoing.queue)
      (unchanged : ws.disconnect.version = seen) :
      WriteStep ws held sink
        { ws with outgoing := outgoing, writeTask := .sending message seen } [.handed message]
  | pinging (seen : Nat) (rests : ws.writeTask = .selecting seen) :
      WriteStep ws held sink { ws with writeTask := .pinging seen } []
  | abandoned (seen : Nat) (rests : ws.writeTask = .selecting seen) (dropped : held = false)
      (drained : ws.outgoing.queue = []) :
      WriteStep ws held sink { ws with writeTask := .cleaningUp } []
  | wrote (message : Message) (seen : Nat) (rests : ws.writeTask = .sending message seen) :
      WriteStep ws held sink { ws with writeTask := .selecting seen } [.written message]
  | failed (message : Message) (seen : Nat) (error : Error)
      (rests : ws.writeTask = .sending message seen) (failure : sink = .ready (.error error)) :
      WriteStep ws held sink { ws with writeTask := .cleaningUp } [.writeFailed message]
  | pinged (seen : Nat) (rests : ws.writeTask = .pinging seen) :
      WriteStep ws held sink { ws with writeTask := .selecting seen } [.pingWritten]
  | pingFailed (seen : Nat) (error : Error) (rests : ws.writeTask = .pinging seen)
      (failure : sink = .ready (.error error)) :
      WriteStep ws held sink { ws with writeTask := .cleaningUp } [.pingFailed]
  | published (rests : ws.writeTask = .cleaningUp) :
      WriteStep ws held sink
        { ws with disconnect := ws.disconnect.sendReplace true, writeTask := .closing } []
  | closed (answer : Except Error Unit) (rests : ws.writeTask = .closing)
      (done : sink = .ready answer) :
      WriteStep ws held sink { ws with writeTask := .finished } [.sinkClosed]

theorem writeLoop_step {ws after : WebSocketKeepAlive} {held timeout : Bool}
    {sink : Poll (Except Error Unit)} {events : List KeepAliveEvent}
    (polled : ws.writeLoop held timeout sink = some (after, events)) :
    WriteStep ws held sink after events := by
  unfold writeLoop at polled
  cases rests : ws.writeTask with
  | selecting seen =>
      cases changed : ws.disconnect.changed true seen with
      | ready answer =>
          simp only [rests, changed, Option.some.injEq, Prod.mk.injEq] at polled
          rcases polled with ⟨rfl, rfl⟩
          exact .stopped seen rests (Watch.version_ne_of_ready changed)
      | pending =>
          cases taken : ws.outgoing.tryRecv with
          | some pair =>
              rcases pair with ⟨message, outgoing⟩
              simp only [rests, changed, taken, Option.some.injEq, Prod.mk.injEq] at polled
              rcases polled with ⟨rfl, rfl⟩
              exact .took message seen outgoing rests
                ((Channel.tryRecv_eq_some_iff _ _ _).mp taken)
                ((Watch.changed_eq_pending_iff _ _ _).mp changed).1
          | none =>
              have drained := (Channel.tryRecv_eq_none_iff _).mp taken
              cases held <;> cases timeout <;>
                simp only [rests, changed, taken, Bool.false_eq_true, if_false, if_true,
                  reduceCtorEq, Option.some.injEq, Prod.mk.injEq] at polled <;>
                rcases polled with ⟨rfl, rfl⟩
              · exact .abandoned seen rests rfl drained
              · exact .abandoned seen rests rfl drained
              · exact .pinging seen rests
  | sending message seen =>
      rcases sink with _ | _ | _
      · simp [rests] at polled
      · simp only [rests, Option.some.injEq, Prod.mk.injEq] at polled
        rcases polled with ⟨rfl, rfl⟩
        exact .failed message seen _ rests rfl
      · simp only [rests, Option.some.injEq, Prod.mk.injEq] at polled
        rcases polled with ⟨rfl, rfl⟩
        exact .wrote message seen rests
  | pinging seen =>
      rcases sink with _ | _ | _
      · simp [rests] at polled
      · simp only [rests, Option.some.injEq, Prod.mk.injEq] at polled
        rcases polled with ⟨rfl, rfl⟩
        exact .pingFailed seen _ rests rfl
      · simp only [rests, Option.some.injEq, Prod.mk.injEq] at polled
        rcases polled with ⟨rfl, rfl⟩
        exact .pinged seen rests
  | cleaningUp =>
      simp only [rests, Option.some.injEq, Prod.mk.injEq] at polled
      rcases polled with ⟨rfl, rfl⟩
      exact .published rests
  | closing =>
      cases sink with
      | pending => simp [rests] at polled
      | ready answer =>
          simp only [rests, Option.some.injEq, Prod.mk.injEq] at polled
          rcases polled with ⟨rfl, rfl⟩
          exact .closed answer rests rfl
  | finished => simp [rests] at polled

/-! ## Ended tasks stay ended -/

section Ended

variable {ws after : WebSocketKeepAlive} {held : Bool} {stream : Poll (Option Item)}
  {sink : Poll (Except Error Unit)} {events : List KeepAliveEvent}

theorem ReadStep.reads (effect : ReadStep ws held stream after events) :
    ws.readTask.running = true := by
  cases effect with
  | swallowed _ _ rests => rw [rests]; rfl
  | received _ _ rests => rw [rests]; rfl
  | ended _ rests => rw [rests]; rfl
  | stopped _ rests => rw [rests]; rfl
  | forwarded _ _ _ rests => rw [rests]; rfl
  | abandoned _ _ rests => rw [rests]; rfl
  | published rests => rw [rests]; rfl

theorem ReadStep.writeTask (effect : ReadStep ws held stream after events) :
    after.writeTask = ws.writeTask := by
  cases effect <;> rfl

theorem WriteStep.writes (effect : WriteStep ws held sink after events) :
    ws.writeTask.running = true := by
  cases effect with
  | stopped _ rests => rw [rests]; rfl
  | took _ _ _ rests => rw [rests]; rfl
  | pinging _ rests => rw [rests]; rfl
  | abandoned _ rests => rw [rests]; rfl
  | wrote _ _ rests => rw [rests]; rfl
  | failed _ _ _ rests => rw [rests]; rfl
  | pinged _ rests => rw [rests]; rfl
  | pingFailed _ _ rests => rw [rests]; rfl
  | published rests => rw [rests]; rfl
  | closed _ rests => rw [rests]; rfl

theorem WriteStep.readTask (effect : WriteStep ws held sink after events) :
    after.readTask = ws.readTask := by
  cases effect <;> rfl

theorem ReadStep.running (effect : ReadStep ws held stream after events)
    (running : after.running = true) : ws.running = true := by
  simp only [WebSocketKeepAlive.running, Bool.and_eq_true] at running ⊢
  exact ⟨effect.reads, effect.writeTask ▸ running.2⟩

theorem WriteStep.running (effect : WriteStep ws held sink after events)
    (running : after.running = true) : ws.running = true := by
  simp only [WebSocketKeepAlive.running, Bool.and_eq_true] at running ⊢
  exact ⟨effect.readTask ▸ running.1, effect.writes⟩

end Ended

end WebSocketKeepAlive
end WebSocket
end Fpd
