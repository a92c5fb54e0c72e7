import Fpd.Service.Reconnection
import Fpd.Service.Usage
import Fpd.WebSocket.Order
import Fpd.WebSocket.Outgoing

namespace Fpd
namespace Service

open Async WebSocket

/-!
# From a request to its reply on the wire

A request of the relay passes a connection, the websocket and the main loop,
which spawns a handler for it.  The handler's reply waits in the outgoing
channel until the outgoing task passes it to the websocket, and from there some
connection hands it to its sink.

The handlers are those of the requests that were received, in their order, and
none is handled twice.  The replies are passed on in the order in which the
handlers have given them.  As long as the outgoing task runs none of them is
missing, and each is handed to the sinks of all connections at most once.
-/

def Handler.message : Handler -> ServerMessage
  | .received message => message
  | .ended message _ => message

/-- The handler and the message of a reply. -/
def Outgoing.reply : Outgoing -> Option (Nat × ProxyMessage)
  | (.reply handler, message) => some (handler, message)
  | _ => none

/-- The outgoing task encodes a message before it passes it on. -/
def Outgoing.encode (codec : Codec) (message : Outgoing) : Message :=
  .binary (codec.serializeMsgpack message.2)

/-- The request in an item, unless it does not decode. -/
def Codec.request (codec : Codec) : Item -> Option ServerMessage
  | .ok (.binary message) => (codec.deserializeMsgpack message).toOption
  | _ => none

/-- How many calls of `send` the outgoing task awaits. -/
def OutgoingTask.awaits : OutgoingTask -> Nat
  | .sending _ => 1
  | _ => 0

namespace Daemon

variable {service : ProxyService} {codec : Codec} {daemon after : Daemon} {action : Action}

/-! ## What the websocket is used for -/

/-- The action neither sends a message nor hands out an item. -/
def quiet : ReconnectingWebSocket.Action -> Bool
  | .send _ => false
  | .pollSend _ => false
  | .cancelSend _ => false
  | .pollRecv _ => false
  | _ => true

/-- No message was sent and no item handed out. -/
structure Silent (ws called : ReconnectingWebSocket) : Prop where
  sends : called.sends = ws.sends
  accepted : ReconnectingWebSocket.acceptedInOrder called.log =
    ReconnectingWebSocket.acceptedInOrder ws.log
  received : ReconnectingWebSocket.received called.log = ReconnectingWebSocket.received ws.log

namespace Silent

variable {ws between called : ReconnectingWebSocket}

theorem refl : Silent ws ws :=
  ⟨rfl, rfl, rfl⟩

theorem trans (silent : Silent ws between) (onwards : Silent between called) : Silent ws called :=
  ⟨onwards.sends.trans silent.sends, onwards.accepted.trans silent.accepted,
    onwards.received.trans silent.received⟩

end Silent

theorem silent_of_step {maxRetries : Nat} {ws called : ReconnectingWebSocket}
    {call : ReconnectingWebSocket.Action}
    (taken : ReconnectingWebSocket.step maxRetries ws call = some called)
    (isQuiet : quiet call = true) : Silent ws called := by
  cases ReconnectingWebSocket.step_spec taken with
  | user effect =>
      cases effect with
      | cloned => exact ⟨rfl, rfl, rfl⟩
      | dropped => exact ⟨rfl, rfl, rfl⟩
      | recvCalled => exact ⟨rfl, rfl, rfl⟩
      | recvCancelled => exact ⟨rfl, rfl, rfl⟩
      | closed =>
          exact ⟨rfl, by simp [ReconnectingWebSocket.acceptedInOrder],
            by simp [ReconnectingWebSocket.received]⟩
      | _ => cases isQuiet
  | connect effect =>
      cases effect <;> refine ⟨rfl, ?_, ?_⟩ <;>
        simp [ReconnectingWebSocket.acceptedInOrder, ReconnectingWebSocket.received,
          ReconnectingWebSocket.initiated]
  | readLoop present effect =>
      refine ⟨(effect.replaces present).1.sends, ?_, ?_⟩ <;>
        cases effect <;>
        simp [ReconnectingWebSocket.acceptedInOrder, ReconnectingWebSocket.received,
          ReconnectingWebSocket.leaveReadLoop]
  | writeLoop present effect =>
      refine ⟨(effect.replaces present).1.sends, ?_, ?_⟩ <;> rw [effect.log]
  | keepAliveRead =>
      exact ⟨rfl, by simp [ReconnectingWebSocket.acceptedInOrder],
        by simp [ReconnectingWebSocket.received]⟩
  | keepAliveWrite =>
      exact ⟨rfl, by simp [ReconnectingWebSocket.acceptedInOrder],
        by simp [ReconnectingWebSocket.received]⟩

theorem silent_of_reaches {maxRetries : Nat} {ws called : ReconnectingWebSocket}
    (reached : Reaches (ReconnectingWebSocket.step maxRetries)
      (fun _ call => quiet call = true) ws called) : Silent ws called :=
  reached.invariant .refl fun _ _ _ _ silent isQuiet taken =>
    silent.trans (silent_of_step taken isQuiet)

theorem Calls.silent {ws called : ReconnectingWebSocket}
    {actions : List ReconnectingWebSocket.Action} (calls : Calls service ws actions called)
    (every : forall action, action ∈ actions -> quiet action = true) : Silent ws called :=
  silent_of_reaches (calls.reaches every)

theorem quiet_of_autonomous {called : ReconnectingWebSocket.Action}
    (alone : autonomous called = true) : quiet called = true := by
  cases called <;> first | rfl | cases alone

theorem quiet_dropped (called : ReconnectingWebSocket.Action) (member : called ∈ dropped service) :
    quiet called = true := by
  unfold dropped at member
  split at member <;> simp only [List.mem_cons, List.not_mem_nil, or_false, or_self] at member <;>
    rw [member] <;> rfl

/-! ## The way of requests and replies -/

/-- Every request has a handler and every reply has its place. -/
structure Delivers (codec : Codec) (daemon : Daemon) : Prop where
  requests : daemon.handling.handlers.map Handler.message =
    (ReconnectingWebSocket.received daemon.ws.log).filterMap codec.request
  accepted : ReconnectingWebSocket.acceptedInOrder daemon.ws.log ++ daemon.ws.sends =
    daemon.passed.map (Outgoing.encode codec)
  awaits : daemon.ws.sends.length = daemon.outgoing.awaits
  replies : daemon.outgoing ≠ .stopped ->
    (daemon.passed ++ daemon.queue).filterMap Outgoing.reply = daemon.handling.replies
  begun : daemon.passed.filterMap Outgoing.reply <+: daemon.handling.replies
  unspawned : daemon.main.entered = false -> daemon.outgoing = .unspawned

namespace Delivers

/-- Items are received, and the requests among them get their handlers. -/
theorem of_items (delivers : Delivers codec daemon) (items : List Item)
    (sends : after.ws.sends = daemon.ws.sends)
    (accepted : ReconnectingWebSocket.acceptedInOrder after.ws.log =
      ReconnectingWebSocket.acceptedInOrder daemon.ws.log)
    (received : ReconnectingWebSocket.received after.ws.log =
      ReconnectingWebSocket.received daemon.ws.log ++ items)
    (handlers : after.handling.handlers.map Handler.message =
      daemon.handling.handlers.map Handler.message ++ items.filterMap codec.request)
    (replies : after.handling.replies = daemon.handling.replies)
    (outgoing : after.outgoing = daemon.outgoing) (queue : after.queue = daemon.queue)
    (passed : after.passed = daemon.passed)
    (entered : after.main.entered = false -> daemon.main.entered = false) :
    Delivers codec after := by
  constructor
  · rw [handlers, received, List.filterMap_append, delivers.requests]
  · rw [accepted, sends, passed]
    exact delivers.accepted
  · rw [sends, outgoing]
    exact delivers.awaits
  · rw [outgoing, passed, queue, replies]
    exact delivers.replies
  · rw [passed, replies]
    exact delivers.begun
  · rw [outgoing]
    exact fun early => delivers.unspawned (entered early)

/-- A step that leaves requests and replies where they are. -/
theorem of_silent (delivers : Delivers codec daemon) (silent : Silent daemon.ws after.ws)
    (handling : after.handling = daemon.handling) (outgoing : after.outgoing = daemon.outgoing)
    (queue : after.queue = daemon.queue) (passed : after.passed = daemon.passed)
    (entered : after.main.entered = false -> daemon.main.entered = false) :
    Delivers codec after := by
  refine delivers.of_items [] silent.sends silent.accepted ?_ ?_ ?_ outgoing queue passed entered
  · rw [silent.received, List.append_nil]
  · rw [handling, List.filterMap_nil, List.append_nil]
  · rw [handling]

/-- The relay gets something, or a handler gives its reply. -/
theorem of_enqueue (delivers : Delivers codec daemon) (messages : List Outgoing)
    (handlers : after.handling.handlers.map Handler.message =
      daemon.handling.handlers.map Handler.message)
    (replies : after.handling.replies =
      daemon.handling.replies ++ messages.filterMap Outgoing.reply)
    (ws : after.ws = daemon.ws) (main : after.main = daemon.main)
    (outgoing : after.outgoing = daemon.outgoing) (passed : after.passed = daemon.passed)
    (queue : after.queue =
      if daemon.outgoing = .stopped then daemon.queue else daemon.queue ++ messages) :
    Delivers codec after := by
  constructor
  · rw [handlers, ws]
    exact delivers.requests
  · rw [ws, passed]
    exact delivers.accepted
  · rw [ws, outgoing]
    exact delivers.awaits
  · intro runs
    rw [outgoing] at runs
    rw [replies, passed, queue, if_neg runs, ← List.append_assoc, List.filterMap_append,
      delivers.replies runs]
  · rw [passed, replies]
    exact delivers.begun.trans (List.prefix_append _ _)
  · rw [main, outgoing]
    exact delivers.unspawned

end Delivers

/-! ## Every step -/

theorem handling_received {message : ServerMessage} {handling : Handling}
    (taken : daemon.handling.step service codec (.received message) = some handling) :
    handling.replies = daemon.handling.replies ∧
      handling.handlers.map Handler.message =
        daemon.handling.handlers.map Handler.message ++ [message] := by
  simp only [Handling.step, Option.some.injEq] at taken
  subst taken
  exact ⟨rfl, List.map_append⟩

theorem handling_handled {index : Nat} {provider : Provider} {handling : Handling}
    (taken : daemon.handling.step service codec (.handled index provider) = some handling) :
    handling.handlers.map Handler.message = daemon.handling.handlers.map Handler.message ∧
      handling.replies = daemon.handling.replies ++
        (replies daemon.handling handling).filterMap Outgoing.reply := by
  cases present : daemon.handling.handlers[index]? with
  | none => simp only [Handling.step, present, reduceCtorEq] at taken
  | some handler =>
      cases handler with
      | ended message before => simp only [Handling.step, present, reduceCtorEq] at taken
      | received message =>
          simp only [Handling.step, present, Option.some.injEq] at taken
          subst taken
          refine ⟨map_set_same present rfl, ?_⟩
          simp [replies, List.filterMap_map, Function.comp_def, Outgoing.reply]

/-- What the status task sends is no reply. -/
theorem status_messages {status : Status} {taken : Status.Action} {messages : List Outgoing}
    (answer : daemon.status.step service codec daemon.shutdown taken = some (status, messages)) :
    messages.filterMap Outgoing.reply = [] := by
  cases Status.step_spec answer <;> rfl

/-- A poll of `recv` sends nothing, and what it hands out it hands out last. -/
theorem pollRecv_received {ws : ReconnectingWebSocket} {answer : Poll (Option Item)}
    (polled : daemon.ws.pollRecv 0 = some (ws, answer)) :
    ws.sends = daemon.ws.sends ∧
      ReconnectingWebSocket.acceptedInOrder ws.log =
        ReconnectingWebSocket.acceptedInOrder daemon.ws.log ∧
      ReconnectingWebSocket.received ws.log =
        ReconnectingWebSocket.received daemon.ws.log ++
          match answer with
          | .ready (some item) => [item]
          | _ => [] := by
  cases ReconnectingWebSocket.pollRecv_step polled <;> refine ⟨rfl, ?_, ?_⟩ <;>
    simp [ReconnectingWebSocket.acceptedInOrder, ReconnectingWebSocket.received,
      ReconnectingWebSocket.endRecv]

/-- `connect` returns after it has received an item that is no request. -/
theorem Delivers.of_returned (delivers : Delivers codec daemon) {ws : ReconnectingWebSocket}
    {answer : Option Item} {result : Except WebSocket.Error Unit}
    (polled : daemon.ws.pollRecv 0 = some (ws, .ready answer))
    (useless : answer.toList.filterMap codec.request = [])
    (returns : { daemon with ws := ws }.returned service result = some after) :
    Delivers codec after := by
  rcases returned_some returns with ⟨called, calls, rfl⟩
  have silent := calls.silent quiet_dropped
  rcases pollRecv_received polled with ⟨sends, accepted, received⟩
  refine delivers.of_items answer.toList (silent.sends.trans sends)
    (silent.accepted.trans accepted) (silent.received.trans ?_) ?_ rfl rfl rfl rfl nofun
  · rw [received]
    cases answer <;> rfl
  · rw [useless, List.append_nil]

/-- The main loop goes on after an item. -/
theorem Delivers.of_continued (delivers : Delivers codec daemon) {ws : ReconnectingWebSocket}
    {message : Message} {handling : Handling}
    (polled : daemon.ws.pollRecv 0 = some (ws, .ready (some (.ok message))))
    (handlers : handling.handlers.map Handler.message =
      daemon.handling.handlers.map Handler.message ++ (codec.request (.ok message)).toList)
    (replies : handling.replies = daemon.handling.replies) :
    Delivers codec { daemon with ws := ws, main := .subscribing, handling := handling } := by
  rcases pollRecv_received polled with ⟨sends, accepted, received⟩
  refine delivers.of_items [.ok message] sends accepted received ?_ replies rfl rfl rfl nofun
  rw [handlers]
  cases decoded : codec.request (.ok message) <;> simp [decoded]

/-- The main loop receives an item, and a handler is spawned for a request. -/
theorem Delivers.of_received (delivers : Delivers codec daemon)
    (taken : daemon.received service codec = some after) : Delivers codec after := by
  unfold received at taken
  cases rests : daemon.main <;> simp only [rests, reduceCtorEq] at taken
  rename_i receiver
  rw [← rests] at taken
  rcases polled : daemon.ws.pollRecv 0 with _ | ⟨ws, _ | item⟩
  · simp only [polled, reduceCtorEq] at taken
  · simp only [polled, Option.some.injEq] at taken
    subst taken
    rcases pollRecv_received polled with ⟨sends, accepted, received⟩
    exact delivers.of_silent ⟨sends, accepted, received.trans (List.append_nil _)⟩ rfl rfl rfl rfl
      id
  · simp only [polled] at taken
    rcases item with _ | _ | message
    · exact delivers.of_returned polled rfl taken
    · exact delivers.of_returned polled rfl taken
    · cases message with
      | binary bytes =>
          cases decoded : codec.deserializeMsgpack bytes with
          | error err =>
              simp only [incoming, decoded, Option.some.injEq] at taken
              subst taken
              refine delivers.of_continued polled ?_ rfl
              simp [Codec.request, decoded, Except.toOption]
          | ok request =>
              simp only [incoming, decoded] at taken
              rcases Option.map_eq_some_iff.mp taken with ⟨handling, some, rfl⟩
              rcases handling_received some with ⟨replies, handlers⟩
              refine delivers.of_continued polled ?_ replies
              rw [handlers]
              simp [Codec.request, decoded, Except.toOption]
      | _ =>
          simp only [incoming, Option.some.injEq] at taken
          subst taken
          exact delivers.of_continued polled (List.append_nil _).symm rfl

/-! ## The outgoing task -/

namespace Delivers

theorem of_spawned {ws : ReconnectingWebSocket} {receiver : Nat}
    (delivers : Delivers codec daemon) (idle : daemon.outgoing = .unspawned)
    (silent : Silent daemon.ws ws) :
    Delivers codec { daemon with
      ws := ws, main := .subscribing, outgoing := .selecting receiver } := by
  have runs : daemon.outgoing ≠ .stopped := by
    rw [idle]
    exact OutgoingTask.noConfusion
  have awaits := delivers.awaits
  rw [idle] at awaits
  refine ⟨silent.received ▸ delivers.requests, ?_, ?_, fun _ => delivers.replies runs,
    delivers.begun, nofun⟩
  · dsimp only
    rw [silent.accepted, silent.sends]
    exact delivers.accepted
  · dsimp only
    rw [silent.sends]
    exact awaits

/-- A message is taken from the channel, and `send` is called with it. -/
theorem of_taken {ws : ReconnectingWebSocket} {receiver maxRetries : Nat} {message : Outgoing}
    {queue : List Outgoing} (delivers : Delivers codec daemon)
    (rests : daemon.outgoing = .selecting receiver) (head : daemon.queue = message :: queue)
    (unset : daemon.ws.close.value = false)
    (called : ReconnectingWebSocket.step maxRetries daemon.ws (.send (message.encode codec)) =
      some ws) :
    Delivers codec { daemon with
      ws := ws
      outgoing := if ws.close.value then .selecting receiver else .sending receiver
      queue := queue
      passed := daemon.passed ++ [message] } := by
  have awaits := delivers.awaits
  have replies := delivers.replies (by rw [rests]; exact OutgoingTask.noConfusion)
  rw [rests] at awaits
  rw [head] at replies
  have sending : ws = { daemon.ws with
      sends := daemon.ws.sends ++ [message.encode codec] } := by
    cases ReconnectingWebSocket.step_spec called with
    | user effect =>
        cases effect with
        | sendRefused message flag =>
            rw [unset] at flag
            cases flag
        | sendCalled => rfl
    | connect effect => cases effect
  subst sending
  have begun : (daemon.passed ++ [message]).filterMap Outgoing.reply <+:
      daemon.handling.replies := by
    rw [← replies, List.append_cons daemon.passed message queue]
    exact (List.prefix_append _ _).filterMap _
  refine ⟨delivers.requests, ?_, ?_, fun _ => ?_, begun, fun early => ?_⟩
  · dsimp only
    rw [← List.append_assoc, delivers.accepted, List.map_append]
    rfl
  · dsimp only
    rw [unset, List.length_append, awaits]
    rfl
  · dsimp only
    rw [List.append_assoc, List.singleton_append]
    exact replies
  · have idle := delivers.unspawned early
    rw [rests] at idle
    cases idle

/-- The websocket has accepted the message. -/
theorem of_sent {ws : ReconnectingWebSocket} {receiver maxRetries : Nat}
    (delivers : Delivers codec daemon) (rests : daemon.outgoing = .sending receiver)
    (alive : daemon.ws.innerAlive = true)
    (called : ReconnectingWebSocket.step maxRetries daemon.ws (.pollSend 0) = some ws) :
    Delivers codec { daemon with ws := ws, outgoing := .selecting receiver } := by
  have runs : daemon.outgoing ≠ .stopped := by
    rw [rests]
    exact OutgoingTask.noConfusion
  have awaits := delivers.awaits
  have sent := delivers.accepted
  have early (out : daemon.main.entered = false) : OutgoingTask.selecting receiver =
      .unspawned := by
    have idle := delivers.unspawned out
    rw [rests] at idle
    cases idle
  rw [rests] at awaits
  cases ReconnectingWebSocket.step_spec called with
  | user effect =>
      cases effect with
      | sendFailed call gone =>
          rw [alive] at gone
          cases gone
      | accepted call message outgoing present appended =>
          cases sends : daemon.ws.sends with
          | nil =>
              rw [sends] at present
              cases present
          | cons first rest =>
              rw [sends] at present awaits sent
              cases present
              refine ⟨?_, ?_, ?_, fun _ => delivers.replies runs, delivers.begun, early⟩
              · simpa [ReconnectingWebSocket.received] using delivers.requests
              · simpa [ReconnectingWebSocket.acceptedInOrder, sends] using sent
              · simpa [sends, OutgoingTask.awaits] using awaits
  | connect effect => cases effect

theorem of_stopped {ws : ReconnectingWebSocket} {receiver : Nat}
    (delivers : Delivers codec daemon) (rests : daemon.outgoing = .selecting receiver)
    (silent : Silent daemon.ws ws) :
    Delivers codec { daemon with ws := ws, outgoing := .stopped, queue := [] } := by
  have awaits := delivers.awaits
  rw [rests] at awaits
  refine ⟨silent.received ▸ delivers.requests, ?_, ?_, fun runs => absurd rfl runs,
    delivers.begun, fun early => ?_⟩
  · dsimp only
    rw [silent.accepted, silent.sends]
    exact delivers.accepted
  · dsimp only
    rw [silent.sends]
    exact awaits
  · have idle := delivers.unspawned early
    rw [rests] at idle
    cases idle

end Delivers

theorem Step.delivers (effect : Step service codec daemon action after)
    (taken : step service codec daemon action = some after)
    (counted : Counted service daemon) (unset : daemon.ws.close.value = false)
    (delivers : Delivers codec daemon) : Delivers codec after := by
  -- The steps in which the outgoing task is not there yet.
  have early {main : Main} (rests : daemon.main = main) (out : main.entered = false) :
      after.main.entered = false -> daemon.main.entered = false := fun _ => rests ▸ out
  cases effect with
  | signalled => exact delivers.of_silent .refl rfl rfl rfl rfl id
  | webSocket called ws alone calls =>
      exact delivers.of_silent (silent_of_step calls.single (quiet_of_autonomous alone)) rfl rfl
        rfl rfl id
  | connecting ws rests calls =>
      exact delivers.of_silent (calls.silent (by simp [quiet])) rfl rfl rfl rfl (early rests rfl)
  | waiting outcome connId ws rests calls =>
      exact delivers.of_silent (calls.silent (by simp [quiet])) rfl rfl rfl rfl id
  | refused outcome connId ws failure rests calls =>
      exact delivers.of_silent (calls.silent (by simp [quiet])) rfl rfl rfl rfl (early rests rfl)
  | connected outcome connId ws rests calls =>
      exact delivers.of_silent (calls.silent (by simp [quiet])) rfl rfl rfl rfl (early rests rfl)
  | bindFailed description ws rests calls =>
      exact delivers.of_silent (calls.silent (by simp [quiet])) rfl rfl rfl rfl (early rests rfl)
  | bound rests => exact delivers.of_silent .refl rfl rfl rfl rfl (early rests rfl)
  | spawnedStatus rests => exact delivers.of_silent .refl rfl rfl rfl rfl (early rests rfl)
  | spawnedOutgoing ws rests calls =>
      exact delivers.of_spawned (delivers.unspawned (by rw [rests]; rfl))
        (calls.silent (by simp [quiet]))
  | subscribed ws rests calls =>
      exact delivers.of_silent (calls.silent (by simp [quiet])) rfl rfl rfl rfl nofun
  | polled => exact delivers.of_received taken
  | continued => exact delivers.of_received taken
  | failed => exact delivers.of_received taken
  | disconnected => exact delivers.of_received taken
  | shutDown receiver ws rests holds calls =>
      refine delivers.of_silent (calls.silent ?_) rfl rfl rfl rfl nofun
      intro called member
      rcases List.mem_cons.mp member with rfl | dropping
      · rfl
      · exact quiet_dropped called dropping
  | status called status messages answer =>
      refine delivers.of_enqueue messages rfl ?_ rfl rfl rfl rfl rfl
      rw [status_messages answer, List.append_nil]
      rfl
  | taken receiver message queue ws rests head calls =>
      exact delivers.of_taken rests head unset calls.single
  | sent receiver ws rests calls =>
      refine delivers.of_sent rests ?_ calls.single
      apply ReconnectingWebSocket.innerAlive_of_handle
      have handles := counted.handles
      rw [rests] at handles
      simp only [OutgoingTask.running, Bool.toNat_true] at handles
      omega
  | outgoingStopped receiver ws rests holds calls =>
      exact delivers.of_stopped rests (calls.silent (by simp [quiet]))
  | accepted ws accepting calls =>
      exact delivers.of_silent (calls.silent (by simp [quiet])) rfl rfl rfl rfl id
  | acceptFailed ws accepting calls =>
      exact delivers.of_silent (calls.silent (by simp [quiet])) rfl rfl rfl rfl id
  | served ws serving calls =>
      exact delivers.of_silent (calls.silent (by simp [quiet])) rfl rfl rfl rfl id
  | handled index provider handling answer =>
      rcases handling_handled answer with ⟨handlers, more⟩
      exact delivers.of_enqueue _ handlers more rfl rfl rfl rfl rfl

theorem delivers_of_reaches {allowed : Daemon -> Action -> Prop}
    (reached : Reaches (step service codec) allowed initial daemon) : Delivers codec daemon := by
  apply reached.invariant
  · exact ⟨rfl, rfl, rfl, fun _ => rfl, List.nil_prefix, fun _ => rfl⟩
  · intro before action after earlier delivers _ taken
    exact (step_spec taken).delivers taken (counted_of_reaches earlier)
      (unclosed_of_reaches earlier) delivers

/-! ## The laws -/

/-- An error is no request, and with it the reset that `recv` keeps back. -/
theorem filterMap_request (items : List Item) :
    (items.filter fun item => !item.isReset).filterMap codec.request =
      items.filterMap codec.request := by
  induction items with
  | nil => rfl
  | cons item items inductionHypothesis =>
      cases reset : item.isReset with
      | false =>
          rw [List.filter_cons_of_pos (by rw [reset]; rfl), List.filterMap_cons,
            List.filterMap_cons, inductionHypothesis]
      | true =>
          have useless : codec.request item = none := by
            cases item with
            | error error => rfl
            | ok message => cases reset
          rw [List.filter_cons_of_neg (by rw [reset]; decide), List.filterMap_cons, useless,
            inductionHypothesis]

/-- The handlers that the main loop has spawned are those of the requests that
the read loops have forwarded, in order, one connection after the other.  What
a read loop has forwarded is a beginning of what its stream has yielded. -/
theorem requests_handled_in_order (service : ProxyService) (codec : Codec) (daemon : Daemon)
    (reached : Reaches (step service codec) anyStep initial daemon) :
    daemon.handling.handlers.map Handler.message <+:
        (ReconnectingWebSocket.forwardedByConnection daemon.ws).filterMap codec.request ∧
      forall index, ReconnectingWebSocket.forwardedFrom index daemon.ws.log <+:
        ReconnectingWebSocket.beforeClose index daemon.ws.log := by
  have once := oneConnect_of_reaches reached
  have queued := ReconnectingWebSocket.queued_of_reaches once
  refine ⟨?_, ReconnectingWebSocket.forwardedFrom_beforeClose
    (ReconnectingWebSocket.pipelines_of_reaches once)⟩
  rw [(delivers_of_reaches reached).requests, queued.handed, filterMap_request, ← queued.turns,
    queued.fifo]
  exact (List.prefix_append _ _).filterMap _

/-- As long as the outgoing task has not stopped, every reply that a handler has
given is in the channel or has been passed on, in the order of the replies.  What
has been passed on is what the websocket has accepted or is about to. -/
theorem replies_kept_in_order (service : ProxyService) (codec : Codec) (daemon : Daemon)
    (reached : Reaches (step service codec) anyStep initial daemon) :
    daemon.passed.filterMap Outgoing.reply <+: daemon.handling.replies ∧
      (daemon.outgoing ≠ .stopped ->
        (daemon.passed ++ daemon.queue).filterMap Outgoing.reply = daemon.handling.replies) ∧
      ReconnectingWebSocket.acceptedInOrder daemon.ws.log ++ daemon.ws.sends =
        daemon.passed.map (Outgoing.encode codec) := by
  have delivers := delivers_of_reaches reached
  exact ⟨delivers.begun, delivers.replies, delivers.accepted⟩

theorem length_passed (passed : List Outgoing) (handler : Nat) :
    (passed.filter fun entry => decide (entry.1 = .reply handler)).length =
      ((passed.filterMap Outgoing.reply).filter
        fun reply => decide (reply.1 = handler)).length := by
  induction passed with
  | nil => rfl
  | cons entry passed inductionHypothesis =>
      rcases entry with ⟨_ | _ | there, message⟩
      · exact inductionHypothesis
      · exact inductionHypothesis
      · have more : ((Origin.reply there, message) :: passed).filterMap Outgoing.reply =
            (there, message) :: passed.filterMap Outgoing.reply := rfl
        rw [more]
        by_cases same : there = handler <;> simp [same, inductionHypothesis]

theorem length_answers (replies : List (Nat × ProxyMessage)) (handler : Nat) :
    (replies.filter fun reply => decide (reply.1 = handler)).length =
      (replies.filterMap fun reply => if reply.1 = handler then some reply.2 else none).length := by
  induction replies with
  | nil => rfl
  | cons reply replies inductionHypothesis =>
      by_cases same : reply.1 = handler <;> simp [same, inductionHypothesis]

/-- A handler gives one reply at most. -/
theorem length_replies {handling : Handling} (accounted : handling.Accounted service codec)
    (handler : Nat) :
    (handling.replies.filter fun reply => decide (reply.1 = handler)).length ≤ 1 := by
  rw [length_answers]
  change (Handling.answers handler handling).length ≤ 1
  rw [accounted handler]
  rcases handling.handlers[handler]? with _ | message | ⟨message, provider⟩
  · exact Nat.zero_le 1
  · exact Nat.zero_le 1
  · simp only [Option.elim_some, Handler.answers]
    unfold Handling.sent
    split <;> simp

/-- No handler's reply is passed on twice, and nothing is handed to the sinks
of all connections more often than it was passed on. -/
theorem replies_handed_once (service : ProxyService) (codec : Codec) (daemon : Daemon)
    (reached : Reaches (step service codec) anyStep initial daemon) :
    (forall handler, (daemon.passed.filter fun entry => decide (entry.1 = .reply handler)).length ≤
        1) ∧
      ReconnectingWebSocket.handedMessages daemon.ws.log ≤
        ↑(daemon.passed.map (Outgoing.encode codec)) := by
  have delivers := delivers_of_reaches reached
  refine ⟨fun handler => ?_, ?_⟩
  · rw [length_passed]
    exact (delivers.begun.sublist.filter _).length_le.trans
      (length_replies (accounted_of_reaches reached) handler)
  · have balanced := ReconnectingWebSocket.handedLedger_balanced (oneConnect_of_reaches reached)
    have contained : ReconnectingWebSocket.handedMessages daemon.ws.log ≤
        ReconnectingWebSocket.acceptedMessages daemon.ws.log := by
      rw [balanced, ReconnectingWebSocket.Ledger.outside, add_right_comm]
      exact Multiset.le_add_left _ _
    rw [← delivers.accepted]
    exact contained.trans (Multiset.coe_le.mpr (List.sublist_append_left _ _).subperm)

/-! ## Two requests -/

/-- A codec to which one byte is the request for the schema of the data source
with that operation ID, and which answers in kind. -/
def askingCodec : Codec :=
  { Handling.plainCodec with
    deserializeMsgpack := fun bytes =>
      match bytes with
      | [opId] => .ok ⟨some opId.toNat, "metrics", 2, .getConfigSchema⟩
      | _ => .error "unexpected end of file"
    serializeMsgpack := fun message => (message.opId.map UInt8.ofNat).toList }

/-- The first request is received, handled and answered, and its answer is handed
to the sink. -/
def answering : List Action :=
  toFirstRound ++ deliver (.ok (.binary [1])) ++
    [.received, .handled 0 Handling.plainProvider, .taken, .sent, .webSocket (.writeLoop 0),
      .webSocket (.writeLoop 0), .webSocket (.keepAliveWrite 0 false .pending)]

/-- Then its connection is replaced, and so is the second one over the next
connection. -/
def answeringBoth : List Action :=
  answering ++ reconnect ++
    [.webSocket (.keepAliveRead 1 (.ready (some (.ok (.binary [2]))))),
      .webSocket (.keepAliveRead 1 .pending), .webSocket (.readLoop 1), .webSocket (.readLoop 1),
      .subscribed, .received, .handled 1 Handling.plainProvider, .taken, .sent,
      .webSocket (.writeLoop 1), .webSocket (.writeLoop 1), .webSocket (.writeLoop 1),
      .webSocket (.keepAliveWrite 1 false .pending)]

def answered : Daemon :=
  (run (step plainService askingCodec) anyStep initial answeringBoth).get rfl

theorem answered_reached : Reaches (step plainService askingCodec) anyStep initial answered :=
  reaches_get_run answeringBoth rfl

theorem requests_handled_in_order_answered :
    [ServerMessage.mk (some 1) "metrics" 2 .getConfigSchema,
      ServerMessage.mk (some 2) "metrics" 2 .getConfigSchema] <+:
      (ReconnectingWebSocket.forwardedByConnection answered.ws).filterMap askingCodec.request :=
  (requests_handled_in_order _ _ answered answered_reached).1

theorem replies_kept_in_order_answered :
    answered.passed.filterMap Outgoing.reply =
      [(0, .newConfigSchemaResponse ⟨"[]"⟩ 1), (1, .newConfigSchemaResponse ⟨"[]"⟩ 2)] := by
  have kept := (replies_kept_in_order _ _ answered answered_reached).2.1 (by
    intro stopped
    cases stopped)
  exact (congrArg _ (List.append_nil _).symm).trans kept

theorem replies_handed_once_answered :
    ReconnectingWebSocket.handedMessages answered.ws.log ≤ {.binary [1], .binary [2]} :=
  (replies_handed_once _ _ answered answered_reached).2

end Daemon
end Service
end Fpd
