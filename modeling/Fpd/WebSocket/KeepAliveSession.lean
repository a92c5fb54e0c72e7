import Fpd.WebSocket.Flush

namespace Fpd
namespace WebSocket

open Async

/-!
# A `WebSocketKeepAlive` and its users

The keepalive with the calls of its own methods.  Users hold clones of it and
may send, receive and close through any of them.  A user inside the crate may
also put a message straight into the outgoing channel, as the write loop of a
`ReconnectingWebSocket` does.

`recv` reads the incoming channel and nothing else, so a call that has to wait
leaves no trace.  `send` looks at the disconnect flag before it waits and then
at every poll.  Its receiver is a clone of one that nobody ever marks as seen.

The laws are those of a pipe.  What is received is what the stream has yielded,
and what is written is what was accepted, in order; at most the last two
messages can be missing.
-/

inductive SessionEvent
  | accepted (message : Message)
  | refused (error : Error)
  | queued (message : Message)
  | received (result : Option Item)
  | closed
  | task (event : KeepAliveEvent)
  deriving DecidableEq, Repr

structure KeepAliveSession where
  ws : WebSocketKeepAlive
  handles : Nat
  sends : List Message
  log : List SessionEvent
  deriving DecidableEq, Repr

namespace KeepAliveSession

def new : KeepAliveSession :=
  ⟨.newWithPingTimeout, 1, [], []⟩

/-- `is_connected` -/
def isConnected (session : KeepAliveSession) : Bool :=
  !session.ws.disconnect.value

/-- A clone of the keepalive is alive. -/
def held (session : KeepAliveSession) : Bool :=
  decide (0 < session.handles)

@[simps] def emit (session : KeepAliveSession) (events : List SessionEvent) : KeepAliveSession :=
  { session with log := session.log ++ events }

/-- `send` up to its select. -/
def send (session : KeepAliveSession) (message : Message) : KeepAliveSession :=
  if session.ws.disconnect.value then session.emit [.refused .connectionClosed]
  else { session with sends := session.sends ++ [message] }

/-- The select of `send`. -/
def pollSend (session : KeepAliveSession) (call : Nat) : Option KeepAliveSession :=
  match session.sends[call]? with
  | some message =>
      let ended := { session with sends := session.sends.eraseIdx call }
      match session.ws.disconnect.changed true 0 with
      | .ready _ => some (ended.emit [.refused .connectionClosed])
      | .pending =>
          match session.ws.outgoingSend message with
          | .ready (.ok ws) => some ({ ended with ws := ws }.emit [.accepted message])
          | .ready (.error _) => some (ended.emit [.refused .connectionClosed])
          | .pending => none
  | none => none

/-- `outgoing_sender.send`, which gives back what it cannot put in. -/
def queue (session : KeepAliveSession) (message : Message) : Option KeepAliveSession :=
  match session.ws.outgoingSend message with
  | .ready (.ok ws) => some ({ session with ws := ws }.emit [.queued message])
  | .ready (.error _) => some session
  | .pending => none

def recv (session : KeepAliveSession) : Option KeepAliveSession :=
  match session.ws.recv with
  | .ready (result, ws) => some ({ session with ws := ws }.emit [.received result])
  | .pending => none

def close (session : KeepAliveSession) : KeepAliveSession :=
  { session with
    ws := { session.ws with disconnect := session.ws.disconnect.sendReplace true } }.emit [.closed]

/-- A task has been polled. -/
def polled (session : KeepAliveSession) :
    Option (WebSocketKeepAlive × List KeepAliveEvent) -> Option KeepAliveSession
  | some (ws, events) => some ({ session with ws := ws }.emit (events.map .task))
  | none => none

inductive Action
  | clone
  | drop
  | close
  | send (message : Message)
  | pollSend (call : Nat)
  | cancelSend (call : Nat)
  | queue (message : Message)
  | recv
  | read (stream : Poll (Option Item))
  | write (timeout : Bool) (sink : Poll (Except Error Unit))
  deriving DecidableEq, Repr

/-- A user calls a method or awaits a call, or a task is polled. -/
def step (session : KeepAliveSession) : Action -> Option KeepAliveSession
  | .clone =>
      if session.held then some { session with handles := session.handles + 1 } else none
  | .drop =>
      if 1 < session.handles ∨ (session.handles = 1 ∧ session.sends = []) then
        some { session with handles := session.handles - 1 }
      else none
  | .close => if session.held then some session.close else none
  | .send message => if session.held then some (session.send message) else none
  | .pollSend call => session.pollSend call
  | .cancelSend call =>
      if call < session.sends.length then
        some { session with sends := session.sends.eraseIdx call }
      else none
  | .queue message => if session.held then session.queue message else none
  | .recv => if session.held then session.recv else none
  | .read stream => session.polled (session.ws.readLoop session.held stream)
  | .write timeout sink => session.polled (session.ws.writeLoop session.held timeout sink)

variable {session after : KeepAliveSession} {action : Action}

/-- Everything one step can do. -/
inductive Step (session : KeepAliveSession) : Action -> KeepAliveSession -> Prop
  | clone (held : session.held = true) :
      Step session .clone { session with handles := session.handles + 1 }
  | drop (held : 0 < session.handles) :
      Step session .drop { session with handles := session.handles - 1 }
  | close (held : session.held = true) : Step session .close session.close
  | called (message : Message) (sends : List Message) :
      Step session (.send message) { session with sends := sends }
  | refusedAtOnce (message : Message) :
      Step session (.send message) (session.emit [.refused .connectionClosed])
  | accepted (call : Nat) (message : Message) (sends : List Message)
      (outgoing : Channel Message 1) (current : session.ws.disconnect.version = 0)
      (room : outgoing.queue = session.ws.outgoing.queue ++ [message]) :
      Step session (.pollSend call) ({ session with
        sends := sends, ws := { session.ws with outgoing := outgoing } }.emit [.accepted message])
  | refused (call : Nat) (sends : List Message) :
      Step session (.pollSend call)
        ({ session with sends := sends }.emit [.refused .connectionClosed])
  | cancelled (call : Nat) (sends : List Message) :
      Step session (.cancelSend call) { session with sends := sends }
  | queued (message : Message) (outgoing : Channel Message 1)
      (room : outgoing.queue = session.ws.outgoing.queue ++ [message]) :
      Step session (.queue message)
        ({ session with ws := { session.ws with outgoing := outgoing } }.emit [.queued message])
  | givenBack (message : Message) : Step session (.queue message) session
  | received (item : Item) (incoming : Channel Item 1)
      (head : session.ws.incoming.queue = item :: incoming.queue) :
      Step session .recv ({ session with ws := { session.ws with incoming := incoming } }.emit
        [.received (some item)])
  | ended (drained : session.ws.incoming.queue = [])
      (finished : session.ws.readTask.running = false) :
      Step session .recv (session.emit [.received none])
  | read (stream : Poll (Option Item)) (ws : WebSocketKeepAlive) (events : List KeepAliveEvent)
      (effect : session.ws.ReadStep session.held stream ws events) :
      Step session (.read stream) ({ session with ws := ws }.emit (events.map .task))
  | write (timeout : Bool) (sink : Poll (Except Error Unit)) (ws : WebSocketKeepAlive)
      (events : List KeepAliveEvent)
      (effect : session.ws.WriteStep session.held sink ws events) :
      Step session (.write timeout sink) ({ session with ws := ws }.emit (events.map .task))

theorem pollSend_step {call : Nat} (taken : session.pollSend call = some after) :
    Step session (.pollSend call) after := by
  unfold pollSend at taken
  cases present : session.sends[call]? with
  | none => simp only [present, reduceCtorEq] at taken
  | some message =>
      simp only [present] at taken
      cases changed : session.ws.disconnect.changed true 0 with
      | ready answer =>
          simp only [changed, Option.some.injEq] at taken
          exact taken ▸ .refused call _
      | pending =>
          have current := ((Watch.changed_eq_pending_iff _ _ _).mp changed).1
          simp only [changed] at taken
          rcases answered : session.ws.outgoingSend message with _ | returned | ws
          · simp only [answered, reduceCtorEq] at taken
          · simp only [answered, Option.some.injEq] at taken
            exact taken ▸ .refused call _
          · simp only [answered, Option.some.injEq] at taken
            rcases WebSocketKeepAlive.outgoingSend_sent answered with ⟨_, outgoing, room, rfl⟩
            exact taken ▸ .accepted call message _ outgoing current room

theorem queue_step {message : Message} (taken : session.queue message = some after) :
    Step session (.queue message) after := by
  unfold queue at taken
  rcases answered : session.ws.outgoingSend message with _ | returned | ws
  · simp only [answered, reduceCtorEq] at taken
  · simp only [answered, Option.some.injEq] at taken
    exact taken ▸ .givenBack message
  · simp only [answered, Option.some.injEq] at taken
    rcases WebSocketKeepAlive.outgoingSend_sent answered with ⟨_, outgoing, room, rfl⟩
    exact taken ▸ .queued message outgoing room

theorem recv_step (taken : session.recv = some after) : Step session .recv after := by
  unfold recv at taken
  rcases answered : session.ws.recv with _ | ⟨result, ws⟩
  · simp only [answered, reduceCtorEq] at taken
  · simp only [answered, Option.some.injEq] at taken
    cases result with
    | none =>
        rcases WebSocketKeepAlive.recv_ended answered with ⟨drained, finished, rfl⟩
        exact taken ▸ .ended drained finished
    | some item =>
        rcases WebSocketKeepAlive.recv_item answered with ⟨incoming, head, rfl⟩
        exact taken ▸ .received item incoming head

theorem step_spec (taken : step session action = some after) : Step session action after := by
  cases action with
  | clone =>
      by_cases held : session.held = true
      · simp only [step, if_pos held, Option.some.injEq] at taken
        exact taken ▸ .clone held
      · simp only [step, if_neg held, reduceCtorEq] at taken
  | drop =>
      by_cases allowed : 1 < session.handles ∨ (session.handles = 1 ∧ session.sends = [])
      · simp only [step, if_pos allowed, Option.some.injEq] at taken
        exact taken ▸ .drop (by omega)
      · simp only [step, if_neg allowed, reduceCtorEq] at taken
  | close =>
      by_cases held : session.held = true
      · simp only [step, if_pos held, Option.some.injEq] at taken
        exact taken ▸ .close held
      · simp only [step, if_neg held, reduceCtorEq] at taken
  | send message =>
      by_cases held : session.held = true
      · simp only [step, if_pos held, Option.some.injEq, send] at taken
        split at taken
        · exact taken ▸ .refusedAtOnce message
        · exact taken ▸ .called message _
      · simp only [step, if_neg held, reduceCtorEq] at taken
  | pollSend call => exact pollSend_step taken
  | cancelSend call =>
      by_cases inside : call < session.sends.length
      · simp only [step, if_pos inside, Option.some.injEq] at taken
        exact taken ▸ .cancelled call _
      · simp only [step, if_neg inside, reduceCtorEq] at taken
  | queue message =>
      by_cases held : session.held = true
      · simp only [step, if_pos held] at taken
        exact queue_step taken
      · simp only [step, if_neg held, reduceCtorEq] at taken
  | recv =>
      by_cases held : session.held = true
      · simp only [step, if_pos held] at taken
        exact recv_step taken
      · simp only [step, if_neg held, reduceCtorEq] at taken
  | read stream =>
      rcases answered : session.ws.readLoop session.held stream with _ | ⟨ws, events⟩
      · simp only [step, answered, polled, reduceCtorEq] at taken
      · simp only [step, answered, polled, Option.some.injEq] at taken
        exact taken ▸ .read stream ws events (WebSocketKeepAlive.readLoop_step answered)
  | write timeout sink =>
      rcases answered : session.ws.writeLoop session.held timeout sink with _ | ⟨ws, events⟩
      · simp only [step, answered, polled, reduceCtorEq] at taken
      · simp only [step, answered, polled, Option.some.injEq] at taken
        exact taken ▸ .write timeout sink ws events (WebSocketKeepAlive.writeLoop_step answered)

/-! ## What the log says -/

/-- The messages that have entered the outgoing channel, by either way. -/
def entered (log : List SessionEvent) : List Message :=
  log.filterMap fun
    | .accepted message => some message
    | .queued message => some message
    | _ => none

/-- The messages that `send` has accepted. -/
def accepted (log : List SessionEvent) : List Message :=
  log.filterMap fun
    | .accepted message => some message
    | _ => none

/-- What calls of `recv` have handed out as `Some`. -/
def received (log : List SessionEvent) : List Item :=
  log.filterMap fun
    | .received result => result
    | _ => none

def taskEvents (log : List SessionEvent) : List KeepAliveEvent :=
  log.filterMap fun
    | .task event => some event
    | _ => none

end KeepAliveSession

namespace KeepAliveEvent

def handedMessage : KeepAliveEvent -> Option Message
  | .handed message => some message
  | _ => none

def writtenMessage : KeepAliveEvent -> Option Message
  | .written message => some message
  | _ => none

def failedMessage : KeepAliveEvent -> Option Message
  | .writeFailed message => some message
  | _ => none

/-- An item that the read task passes on. -/
def arrivedItem : KeepAliveEvent -> Option Item
  | .streamed item => if item.isKeepAlive then none else some item
  | _ => none

end KeepAliveEvent

namespace WebSocketKeepAlive

variable {ws after : WebSocketKeepAlive} {events : List KeepAliveEvent} {held : Bool}

/-- What a poll of a task does to the messages under way: nothing, or the write
task takes one, writes it or fails to. -/
inductive Moves (ws after : WebSocketKeepAlive) (events : List KeepAliveEvent) : Prop
  | still (handed : events.filterMap KeepAliveEvent.handedMessage = [])
      (written : events.filterMap KeepAliveEvent.writtenMessage = [])
      (failed : events.filterMap KeepAliveEvent.failedMessage = [])
      (queue : after.outgoing.queue = ws.outgoing.queue)
      (hand : after.writeTask.hand = ws.writeTask.hand)
      (looping : after.writeTask.looping = true -> ws.writeTask.looping = true)
  | took (message : Message)
      (handed : events.filterMap KeepAliveEvent.handedMessage = [message])
      (written : events.filterMap KeepAliveEvent.writtenMessage = [])
      (failed : events.filterMap KeepAliveEvent.failedMessage = [])
      (queue : ws.outgoing.queue = message :: after.outgoing.queue)
      (empty : ws.writeTask.hand = []) (hand : after.writeTask.hand = [message])
      (looping : ws.writeTask.looping = true)
  | wrote (message : Message) (handed : events.filterMap KeepAliveEvent.handedMessage = [])
      (written : events.filterMap KeepAliveEvent.writtenMessage = [message])
      (failed : events.filterMap KeepAliveEvent.failedMessage = [])
      (queue : after.outgoing.queue = ws.outgoing.queue)
      (hand : ws.writeTask.hand = [message]) (empty : after.writeTask.hand = [])
      (looping : ws.writeTask.looping = true)
  | failed (message : Message) (handed : events.filterMap KeepAliveEvent.handedMessage = [])
      (written : events.filterMap KeepAliveEvent.writtenMessage = [])
      (failed : events.filterMap KeepAliveEvent.failedMessage = [message])
      (queue : after.outgoing.queue = ws.outgoing.queue)
      (hand : ws.writeTask.hand = [message]) (empty : after.writeTask.hand = [])
      (looping : ws.writeTask.looping = true) (left : after.writeTask.looping = false)

theorem ReadStep.moves {stream : Poll (Option Item)}
    (effect : ws.ReadStep held stream after events) : ws.Moves after events := by
  cases effect <;> exact .still rfl rfl rfl rfl rfl id

theorem WriteStep.moves {sink : Poll (Except Error Unit)}
    (effect : ws.WriteStep held sink after events) : ws.Moves after events := by
  -- A task that was not writing rests with nothing in its hands.
  have still {task : KeepAliveWrite} {disconnect : Watch Bool} (silent : events = [] ∨
        events = [.pingWritten] ∨ events = [.pingFailed] ∨ events = [.sinkClosed])
      (hand : task.hand = ws.writeTask.hand)
      (looping : task.looping = true -> ws.writeTask.looping = true) :
      ws.Moves { ws with disconnect := disconnect, writeTask := task } events := by
    rcases silent with rfl | rfl | rfl | rfl <;> exact .still rfl rfl rfl rfl hand looping
  cases effect with
  | took message seen outgoing rests taken =>
      exact .took message rfl rfl rfl taken (by rw [rests]; rfl) rfl (by rw [rests]; rfl)
  | wrote message seen rests =>
      exact .wrote message rfl rfl rfl rfl (by rw [rests]; rfl) rfl (by rw [rests]; rfl)
  | failed message seen error rests =>
      exact .failed message rfl rfl rfl rfl (by rw [rests]; rfl) rfl (by rw [rests]; rfl) rfl
  | stopped seen rests =>
      exact still (by simp) (by rw [rests]; rfl) (by simp [KeepAliveWrite.looping])
  | pinging seen rests =>
      exact still (by simp) (by rw [rests]; rfl) (by simp [rests, KeepAliveWrite.looping])
  | abandoned seen rests =>
      exact still (by simp) (by rw [rests]; rfl) (by simp [KeepAliveWrite.looping])
  | pinged seen rests =>
      exact still (by simp) (by rw [rests]; rfl) (by simp [rests, KeepAliveWrite.looping])
  | pingFailed seen error rests =>
      exact still (by simp) (by rw [rests]; rfl) (by simp [KeepAliveWrite.looping])
  | published rests =>
      exact still (by simp) (by rw [rests]; rfl) (by simp [KeepAliveWrite.looping])
  | closed answer rests =>
      exact still (by simp) (by rw [rests]; rfl) (by simp [KeepAliveWrite.looping])

end WebSocketKeepAlive

namespace KeepAliveSession

variable {session after later : KeepAliveSession} {action : Action}
  {log : List SessionEvent}

def handed (log : List SessionEvent) : List Message :=
  (taskEvents log).filterMap KeepAliveEvent.handedMessage

def written (log : List SessionEvent) : List Message :=
  (taskEvents log).filterMap KeepAliveEvent.writtenMessage

def failed (log : List SessionEvent) : List Message :=
  (taskEvents log).filterMap KeepAliveEvent.failedMessage

def arrived (log : List SessionEvent) : List Item :=
  (taskEvents log).filterMap KeepAliveEvent.arrivedItem

@[simp] theorem entered_append (events : List SessionEvent) :
    entered (log ++ events) = entered log ++ entered events :=
  List.filterMap_append

@[simp] theorem accepted_append (events : List SessionEvent) :
    accepted (log ++ events) = accepted log ++ accepted events :=
  List.filterMap_append

@[simp] theorem received_append (events : List SessionEvent) :
    received (log ++ events) = received log ++ received events :=
  List.filterMap_append

@[simp] theorem taskEvents_append (events : List SessionEvent) :
    taskEvents (log ++ events) = taskEvents log ++ taskEvents events :=
  List.filterMap_append

@[simp] theorem taskEvents_map (events : List KeepAliveEvent) :
    taskEvents (events.map .task) = events := by
  simp [taskEvents, List.filterMap_map]

@[simp] theorem entered_map (events : List KeepAliveEvent) :
    entered (events.map .task) = [] := by
  simp [entered, List.filterMap_map]

@[simp] theorem accepted_map (events : List KeepAliveEvent) :
    accepted (events.map .task) = [] := by
  simp [accepted, List.filterMap_map]

@[simp] theorem received_map (events : List KeepAliveEvent) :
    received (events.map .task) = [] := by
  simp [received, List.filterMap_map]

/-! ## Outgoing messages -/

/-- What has entered is what was handed to the sink and what is queued.  What
was handed to the sink is written, but for a last message that is being written
or has failed. -/
structure Ordered (session : KeepAliveSession) : Prop where
  entered : entered session.log = handed session.log ++ session.ws.outgoing.queue
  handed : handed session.log =
    written session.log ++ failed session.log ++ session.ws.writeTask.hand
  unfailed : session.ws.writeTask.looping = true -> failed session.log = []
  once : (failed session.log).length ≤ 1

namespace Ordered

/-- A step that moves no outgoing message. -/
theorem of_same (ordered : Ordered session)
    (entering : KeepAliveSession.entered after.log = KeepAliveSession.entered session.log)
    (events : taskEvents after.log = taskEvents session.log)
    (outgoing : after.ws.outgoing = session.ws.outgoing)
    (task : after.ws.writeTask = session.ws.writeTask) : Ordered after := by
  constructor <;>
    simp only [KeepAliveSession.handed, written, failed, entering, events, outgoing, task]
  · exact ordered.entered
  · exact ordered.handed
  · exact ordered.unfailed
  · exact ordered.once

/-- A message enters the channel. -/
theorem of_entered (ordered : Ordered session) {message : Message}
    (entering : KeepAliveSession.entered after.log =
      KeepAliveSession.entered session.log ++ [message])
    (events : taskEvents after.log = taskEvents session.log)
    (outgoing : after.ws.outgoing.queue = session.ws.outgoing.queue ++ [message])
    (task : after.ws.writeTask = session.ws.writeTask) : Ordered after := by
  constructor <;>
    simp only [KeepAliveSession.handed, written, failed, entering, events, outgoing, task]
  · rw [ordered.entered, List.append_assoc]
    rfl
  · exact ordered.handed
  · exact ordered.unfailed
  · exact ordered.once

/-- A poll of a task moves at most one message. -/
theorem of_moves {ws : WebSocketKeepAlive} {events : List KeepAliveEvent}
    (ordered : Ordered session) (moves : session.ws.Moves ws events) :
    Ordered ({ session with ws := ws }.emit (events.map .task)) := by
  rcases ordered with ⟨entered, handed, unfailed, once⟩
  simp only [KeepAliveSession.handed, written, failed] at entered handed unfailed once
  constructor <;>
    simp only [KeepAliveSession.handed, written, failed, emit, entered_append, entered_map,
      taskEvents_append, taskEvents_map, List.filterMap_append, List.append_nil]
  · cases moves with
    | took message handing _ _ queue => rw [entered, handing, queue, List.append_assoc]; rfl
    | still handing _ _ queue => rw [entered, handing, queue, List.append_nil]
    | wrote message handing _ _ queue => rw [entered, handing, queue, List.append_nil]
    | failed message handing _ _ queue => rw [entered, handing, queue, List.append_nil]
  · cases moves with
    | took message handing writing failing _ empty hand =>
        rw [handed, handing, writing, failing, empty, hand]
        simp only [List.append_nil]
    | still handing writing failing _ hand =>
        rw [handed, handing, writing, failing, hand]
        simp only [List.append_nil]
    | wrote message handing writing failing _ hand empty looping =>
        rw [handed, handing, writing, failing, hand, empty, unfailed looping]
        simp only [List.append_nil]
    | failed message handing writing failing _ hand empty =>
        rw [handed, handing, writing, failing, hand, empty]
        simp only [List.append_nil, List.append_assoc]
  · cases moves with
    | took message _ _ failing _ _ _ looping =>
        intro _
        rw [failing, unfailed looping]
        rfl
    | still _ _ failing _ _ looping =>
        exact fun loops => by rw [failing, unfailed (looping loops)]; rfl
    | wrote message _ _ failing _ _ _ looping =>
        exact fun _ => by rw [failing, unfailed looping]; rfl
    | failed message _ _ _ _ _ _ _ left =>
        intro loops
        rw [left] at loops
        cases loops
  · cases moves with
    | took message _ _ failing => rw [failing, List.append_nil]; exact once
    | still _ _ failing => rw [failing, List.append_nil]; exact once
    | wrote message _ _ failing => rw [failing, List.append_nil]; exact once
    | failed message _ _ failing _ _ _ looping =>
        rw [failing, unfailed looping]
        exact Nat.le_refl 1

end Ordered

theorem Step.ordered (effect : Step session action after) (ordered : Ordered session) :
    Ordered after := by
  cases effect with
  | close =>
      exact ordered.of_same (by simp [KeepAliveSession.close, entered])
        (by simp [KeepAliveSession.close, taskEvents]) rfl rfl
  | refusedAtOnce => exact ordered.of_same (by simp [entered]) (by simp [taskEvents]) rfl rfl
  | refused => exact ordered.of_same (by simp [entered]) (by simp [taskEvents]) rfl rfl
  | received => exact ordered.of_same (by simp [entered]) (by simp [taskEvents]) rfl rfl
  | ended => exact ordered.of_same (by simp [entered]) (by simp [taskEvents]) rfl rfl
  | accepted call message sends outgoing current room =>
      exact ordered.of_entered (by simp [entered]) (by simp [taskEvents]) room rfl
  | queued message outgoing room =>
      exact ordered.of_entered (by simp [entered]) (by simp [taskEvents]) room rfl
  | read stream ws events effect => exact ordered.of_moves effect.moves
  | write timeout sink ws events effect => exact ordered.of_moves effect.moves
  | _ => exact ordered.of_same rfl rfl rfl rfl

theorem ordered_of_reaches {allowed : KeepAliveSession -> Action -> Prop}
    (reached : Reaches step allowed new session) : Ordered session := by
  apply reached.invariant
  · exact ⟨rfl, rfl, fun _ => rfl, Nat.zero_le 1⟩
  · intro before action after _ ordered _ taken
    exact (step_spec taken).ordered ordered

end KeepAliveSession
end WebSocket
end Fpd
