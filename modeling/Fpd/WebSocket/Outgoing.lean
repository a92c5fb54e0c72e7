import Fpd.WebSocket.Ledger

namespace Fpd
namespace WebSocket

open Async

/-!
# The way of outgoing messages

A message that `send` has accepted waits in the outgoing channel, passes a
write loop and the keepalive's channel and is written by the keepalive's write
task.  A write loop that cannot hand it over puts it into the retry channel.
The law is a conservation law: accepted messages are those that wait, those in
some hand and those written.

Two steps break it.  A message in the hands of the keepalive's write task is
gone when the write fails, and one in the keepalive's channel is gone when that
task ends.  The law holds on the runs without these two.

A second ledger takes a message to be settled as soon as a sink is handed it.
It is balanced in every run, so no message is handed over twice.
-/

def KeepAliveWrite.hand : KeepAliveWrite -> List Message
  | .sending message _ => [message]
  | _ => []

/-- The messages in the hands of a running write loop, and in the queue and
the hands of a keepalive write task that still runs. -/
def Connection.outbound (connection : Connection) : Multiset Message :=
  ↑connection.writeLoop.hand + if connection.ws.writeTask.running then
    (↑connection.ws.outgoing.queue + ↑connection.ws.writeTask.hand : Multiset Message) else 0

namespace ReconnectingWebSocket

variable {socket after : ReconnectingWebSocket} {maxRetries : Nat} {action : Action}
  {index there : Nat} {connection replaced : Connection}

/-- The messages written to an underlying sink with success. -/
def writtenMessages (log : List Event) : Multiset Message :=
  ↑(log.filterMap fun
    | .keepAlive _ (.written message) => some message
    | _ => none)

/-- The accepted messages that are not in the hands of a connection. -/
def outside (socket : ReconnectingWebSocket) : Multiset Message :=
  ↑socket.outgoing.queue + ↑socket.retry.queue + writtenMessages socket.log

/-- Every accepted message is in a place from which it can still be sent, or
has been written, as often as it was accepted. -/
def Conserved (socket : ReconnectingWebSocket) : Prop :=
  acceptedMessages socket.log = outside socket + (socket.connections.map Connection.outbound).sum

/-- The write task drops a message: a write fails, or the task ends before its
channel is empty. -/
def dropsMessage (socket : ReconnectingWebSocket) : Action -> Bool
  | .keepAliveWrite index _ (.ready answer) =>
      match socket.connections[index]? with
      | some connection =>
          match connection.ws.writeTask, answer with
          | .sending _ _, .error _ => true
          | .closing, _ => !connection.ws.outgoing.queue.isEmpty
          | _, _ => false
      | none => false
  | _ => false

/-- The condition of the law: `close` is not called and some clone stays. -/
def StaysOpen (socket : ReconnectingWebSocket) (action : Action) : Prop :=
  action ≠ .close ∧ (action = .drop -> 1 < socket.handles)

instance : Decidable (StaysOpen socket action) :=
  inferInstanceAs (Decidable (_ ∧ (_ -> _)))

def DropsNothing (socket : ReconnectingWebSocket) (action : Action) : Prop :=
  StaysOpen socket action ∧ dropsMessage socket action = false

instance : Decidable (DropsNothing socket action) :=
  inferInstanceAs (Decidable (_ ∧ _))

/-- The ledger of the law: a message is settled when it is written. -/
def writtenLedger : Ledger where
  settled := writtenMessages
  kept ws := if ws.writeTask.running then ↑ws.outgoing.queue + ↑ws.writeTask.hand else 0
  settled_append := fun log events => by
    simp only [writtenMessages, List.filterMap_append, Multiset.coe_add]
  settled_quiet := fun event quiet => by
    rcases event with _ | _ | _ | _ | _ | _ | _ | _ | _ | ⟨_, _ | _⟩ <;> first | rfl | cases quiet
  kept_new := rfl
  kept_put := fun ws outgoing message running appended => by
    simp only [running, if_true, appended, coe_snoc]
    abel
  kept_same := fun ws after outgoing writeTask => by rw [outgoing, writeTask]

theorem conserved_iff : Conserved socket ↔ writtenLedger.Balanced socket := Iff.rfl

/-- The write task of a keepalive writes what it was handed, unless it drops
a message. -/
theorem writtenLedger_exchange {ws : WebSocketKeepAlive} {held timeout : Bool}
    {sink : Poll (Except Error Unit)} {events : List KeepAliveEvent}
    (effect : connection.ws.WriteStep held sink ws events)
    (present : socket.connections[index]? = some connection)
    (kept : dropsMessage socket (.keepAliveWrite index timeout sink) = false) :
    writtenLedger.settled (events.map (.keepAlive index)) + writtenLedger.kept ws =
      writtenLedger.kept connection.ws := by
  -- Most polls write nothing and leave the messages where they are.
  have quiet (silent : writtenLedger.settled (events.map (.keepAlive index)) = 0)
      (same : writtenLedger.kept ws = writtenLedger.kept connection.ws) :
      writtenLedger.settled (events.map (.keepAlive index)) + writtenLedger.kept ws =
        writtenLedger.kept connection.ws := by
    rw [silent, same, zero_add]
  cases effect with
  | took message seen outgoing rests taken =>
      have silent : writtenLedger.settled ([.handed message].map (.keepAlive index)) = 0 := rfl
      rw [silent, zero_add]
      simp only [writtenLedger, rests, taken, KeepAliveWrite.running, KeepAliveWrite.hand,
        coe_cons, Multiset.coe_nil, if_true]
      abel
  | wrote message seen rests =>
      have more : writtenLedger.settled ([.written message].map (.keepAlive index)) = {message} :=
        rfl
      rw [more]
      simp only [writtenLedger, rests, KeepAliveWrite.running, KeepAliveWrite.hand, coe_cons,
        Multiset.coe_nil, if_true]
      abel
  | failed message seen error rests failure =>
      simp [dropsMessage, present, rests, failure] at kept
  | closed answer rests done =>
      have drained : connection.ws.outgoing.queue = [] := by
        simpa [dropsMessage, present, rests, done] using kept
      refine quiet rfl ?_
      simp [writtenLedger, rests, drained, KeepAliveWrite.running, KeepAliveWrite.hand]
  | stopped seen rests => exact quiet rfl (by simp [writtenLedger, rests,
      KeepAliveWrite.running, KeepAliveWrite.hand])
  | pinging seen rests => exact quiet rfl (by simp [writtenLedger, rests,
      KeepAliveWrite.running, KeepAliveWrite.hand])
  | abandoned seen rests => exact quiet rfl (by simp [writtenLedger, rests,
      KeepAliveWrite.running, KeepAliveWrite.hand])
  | pinged seen rests => exact quiet rfl (by simp [writtenLedger, rests,
      KeepAliveWrite.running, KeepAliveWrite.hand])
  | pingFailed seen error rests => exact quiet rfl (by simp [writtenLedger, rests,
      KeepAliveWrite.running, KeepAliveWrite.hand])
  | published rests => exact quiet rfl (by simp [writtenLedger, rests,
      KeepAliveWrite.running, KeepAliveWrite.hand])

theorem Step.conserved (effect : Step maxRetries socket action after)
    (kept : dropsMessage socket action = false) (conserved : Conserved socket) :
    Conserved after := by
  rw [conserved_iff] at conserved ⊢
  apply effect.balanced _ conserved
  rintro index timeout sink connection ws events rfl present polled
  exact writtenLedger_exchange polled present kept

/-! ## The law and where it fails -/

/-- On a run where no keepalive drops a message, every accepted message waits,
is in the hands of a running task or has been written. -/
theorem conserved_of_reaches (maxRetries : Nat) (socket : ReconnectingWebSocket)
    (reached : Reaches (step maxRetries) DropsNothing build socket) : Conserved socket :=
  reached.invariant rfl fun _ _ _ _ conserved kept taken =>
    (step_spec taken).conserved kept.2 conserved

/-- A message on its way into the hands of the first connection's keepalive. -/
def handedOverRun : List Action :=
  [.connect, .attempted (.user 0) (.ok ()), .send (.text "hello"), .pollSend 0, .writeLoop 0,
    .writeLoop 0, .keepAliveWrite 0 false .pending]

/-- The write fails, and the message is in no place any more. -/
theorem failedWrite_loses_message : ¬ forall (maxRetries : Nat) (socket : ReconnectingWebSocket),
    Reaches (step maxRetries) StaysOpen build socket -> Conserved socket := by
  intro law
  have conserved := law 10 _ (reaches_get_run
    (handedOverRun ++ [.keepAliveWrite 0 false (.ready (.error .connectionClosed))]) rfl)
  exact absurd (congrArg Multiset.card conserved) (by decide)

theorem conserved_of_reaches_handedOver :
    Conserved ((run (step 10) DropsNothing build handedOverRun).get rfl) :=
  conserved_of_reaches 10 _ (reaches_get_run handedOverRun rfl)

/-! ## Every message is handed over at most once -/

/-- The message that a sink was handed.  Pings of the keepalive are not among
them. -/
def handedMessage : Event -> Option Message
  | .keepAlive _ (.handed message) => some message
  | _ => none

/-- The messages handed to the sinks of all connections together. -/
def handedMessages (log : List Event) : Multiset Message :=
  ↑(log.filterMap handedMessage)

/-- The event is about the keepalive of a connection. -/
def ofConnection (index : Nat) : Event -> Bool
  | .keepAlive there _ => decide (there = index)
  | _ => false

/-- The messages handed to the sink of one connection. -/
def handedTo (index : Nat) (log : List Event) : Multiset Message :=
  handedMessages (log.filter (ofConnection index))

/-- A message is settled when a sink is handed it, whatever comes of that.  One
that is left in the channel of an ended task stays there for ever. -/
def handedLedger : Ledger where
  settled := handedMessages
  kept ws := ↑ws.outgoing.queue
  settled_append := fun log events => by
    simp only [handedMessages, List.filterMap_append, Multiset.coe_add]
  settled_quiet := fun event quiet => by
    rcases event with _ | _ | _ | _ | _ | _ | _ | _ | _ | ⟨_, _ | _⟩ <;> first | rfl | cases quiet
  kept_new := rfl
  kept_put := fun ws outgoing message _ appended => by rw [appended, coe_snoc]
  kept_same := fun ws after outgoing _ => by rw [outgoing]

theorem handedLedger_exchange {ws : WebSocketKeepAlive} {held : Bool}
    {sink : Poll (Except Error Unit)} {events : List KeepAliveEvent}
    (effect : connection.ws.WriteStep held sink ws events) :
    handedLedger.settled (events.map (.keepAlive index)) + handedLedger.kept ws =
      handedLedger.kept connection.ws := by
  cases effect with
  | took message seen outgoing rests taken =>
      have more : handedLedger.settled ([.handed message].map (.keepAlive index)) = {message} := rfl
      rw [more]
      simp only [handedLedger, taken, coe_cons]
  | _ => exact zero_add _

theorem handedLedger_balanced {allowed : ReconnectingWebSocket -> Action -> Prop}
    (reached : Reaches (step maxRetries) allowed build socket) :
    handedLedger.Balanced socket := by
  apply reached.invariant
  · rfl
  · intro before action after _ balanced _ taken
    apply (step_spec taken).balanced _ balanced
    rintro index timeout sink connection ws events _ _ polled
    exact handedLedger_exchange polled

theorem handedTo_le (index : Nat) (log : List Event) : handedTo index log ≤ handedMessages log :=
  Multiset.coe_le.mpr (List.filter_sublist.filterMap handedMessage).subperm

/-- What two sinks were handed was handed over for each of them. -/
theorem handedTo_add_le (different : index ≠ there) (log : List Event) :
    handedTo index log + handedTo there log ≤ handedMessages log := by
  have apart : forall event, event ∈ (↑log : Multiset Event) ->
      ¬ (ofConnection index event = true ∧ ofConnection there event = true) := by
    rintro event _ ⟨here, elsewhere⟩
    cases event <;> simp_all [ofConnection]
  have both : (↑(log.filter (ofConnection index)) + ↑(log.filter (ofConnection there)) :
      Multiset Event) ≤ ↑log := by
    have split := Multiset.filter_add_filter (fun event => ofConnection index event = true)
      (fun event => ofConnection there event = true) (↑log : Multiset Event)
    rw [Multiset.filter_eq_nil.mpr apart, add_zero] at split
    have below := Multiset.filter_le (fun event => ofConnection index event = true ∨
      ofConnection there event = true) (↑log : Multiset Event)
    rw [← split] at below
    simpa only [Multiset.filter_coe, Bool.decide_eq_true] using below
  have views := Multiset.filterMap_le_filterMap handedMessage both
  rw [Multiset.filterMap_add] at views
  exact views

/-- Over all connections together no message is handed to a sink more often
than it was accepted.  One that was accepted once is handed to one sink at
most, and to that one at most once. -/
theorem handed_le_accepted (maxRetries : Nat) (socket : ReconnectingWebSocket)
    (reached : Reaches (step maxRetries) anyStep build socket) :
    handedMessages socket.log ≤ acceptedMessages socket.log ∧
      forall message, (acceptedMessages socket.log).count message = 1 ->
        forall index, message ∈ handedTo index socket.log ->
          (handedTo index socket.log).count message = 1 ∧
            forall there, message ∈ handedTo there socket.log -> there = index := by
  have contained : handedMessages socket.log ≤ acceptedMessages socket.log := by
    rw [handedLedger_balanced reached, Ledger.outside, add_right_comm]
    exact Multiset.le_add_left _ _
  refine ⟨contained, fun message once index handed => ⟨?_, fun there again => ?_⟩⟩
  · have bound := Multiset.count_le_of_le message ((handedTo_le index socket.log).trans contained)
    have some := Multiset.count_pos.mpr handed
    omega
  · by_contra different
    have bound :=
      Multiset.count_le_of_le message ((handedTo_add_le different socket.log).trans contained)
    have first := Multiset.count_pos.mpr handed
    have second := Multiset.count_pos.mpr again
    rw [Multiset.count_add] at bound
    omega

/-- The keepalive of the first connection has ended when its write loop hands
it a message.  The message is kept for the second connection. -/
def requeuedRun : List Action :=
  [.connect, .attempted (.user 0) (.ok ()), .readLoop 0, .readLoop 0,
    .keepAliveWrite 0 true .pending, .keepAliveWrite 0 false (.ready (.error .connectionClosed)),
    .keepAliveWrite 0 false .pending, .keepAliveWrite 0 false (.ready (.ok ())),
    .send (.text "hello"), .pollSend 0, .writeLoop 0, .writeLoop 0, .writeLoop 0, .writeLoop 0,
    .readLoop 0, .readLoop 0, .attempted (.readLoop 0) (.ok ()), .readLoop 1, .readLoop 1,
    .writeLoop 1, .writeLoop 1, .keepAliveWrite 1 false .pending]

/-- The requeued message goes to the second sink only, and once. -/
theorem handed_le_accepted_requeued :
    (handedTo 1 ((run (step 10) anyStep build requeuedRun).get rfl).log).count (.text "hello") = 1 ∧
      forall there, .text "hello" ∈ handedTo there
        ((run (step 10) anyStep build requeuedRun).get rfl).log -> there = 1 :=
  (handed_le_accepted 10 _ (reaches_get_run requeuedRun rfl)).2 (.text "hello") (by decide) 1
    (by decide)

end ReconnectingWebSocket
end WebSocket
end Fpd
