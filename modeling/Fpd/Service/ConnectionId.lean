import Fpd.Async.Simulation
import Fpd.Http.HeaderMap
import Fpd.Service.Steps
import Fpd.WebSocket.Frames

namespace Fpd
namespace Service

open Async
open Http
open WebSocket

/-!
# The connection in the traces

Every handshake tells the daemon the id of the connection, in a header of the
response.  The handler of responses passes it on through a watch cell if it is
another one than before, and a task of its own records what the cell holds in
the span that all the other tasks log under.  Recording that there is no id
leaves the span as it is.

Handshakes may follow one another faster than the task is polled, and then it
sees the last of them only.
-/

/-- The task that records ids, and the version of the cell that it has seen. -/
inductive Recorder
  | unspawned
  | waiting (seen : Nat)
  | finished
  deriving DecidableEq, Repr

/-- `span` lists the ids that have been recorded in it, the first one first, and
`responses` those of the handshakes so far.  No step reads `responses`. -/
structure Traced where
  daemon : Daemon
  connId : Watch (Option String)
  recorder : Recorder
  span : List String
  responses : List (Option String)

/-- The id in a response, unless there is none or it is no text. -/
def responseId (headers : HeaderMap) : Option String :=
  (headers.get "fp-conn-id").bind HeaderValue.toStr

/-- What `connect_websocket` does with every response. -/
def connectResponseHandler (connId : Watch (Option String)) (headers : HeaderMap) :
    Watch (Option String) :=
  if connId.value = responseId headers then connId else connId.sendReplace (responseId headers)

namespace Traced

/-- `connect` has been called and has built the websocket. -/
def initial : Traced where
  daemon := .initial
  connId := .new none
  recorder := .unspawned
  span := []
  responses := []

/-- No handshake succeeds in it. -/
def withoutHandshake : Daemon.Action -> Bool
  | .attempted (.ok ()) _ => false
  | .webSocket (.attempted _ (.ok ())) => false
  | _ => true

def Spawning (main : Main) : Prop :=
  main = .binding ∨ main = .spawningStatus

instance (main : Main) : Decidable (Spawning main) :=
  inferInstanceAs (Decidable (_ ∨ _))

inductive Action
  | daemon (action : Daemon.Action)
  | connected (headers : HeaderMap)
  | reconnected (connection : Nat) (headers : HeaderMap)
  | recorded

/-- The handshake of a user's `connect`.  If `connect` of the service goes on it
has seen the newest value, starts the span with it and spawns the task. -/
def connected (service : ProxyService) (codec : Codec) (traced : Traced) (headers : HeaderMap) :
    Option Traced :=
  let connId := connectResponseHandler traced.connId headers
  (traced.daemon.step service codec (.attempted (.ok ()) connId.value)).map fun daemon =>
    { daemon := daemon
      connId := connId
      recorder := if Spawning daemon.main then .waiting connId.version else traced.recorder
      span := if Spawning daemon.main then connId.value.toList else traced.span
      responses := traced.responses ++ [responseId headers] }

/-- The task is polled.  The sender is there as long as the websocket is. -/
def recorded (traced : Traced) : Option Traced :=
  match traced.recorder with
  | .waiting seen =>
      match traced.connId.changed traced.daemon.ws.innerAlive seen with
      | .pending => none
      | .ready (.error ()) => some { traced with recorder := .finished }
      | .ready (.ok (value, version)) =>
          some { traced with recorder := .waiting version, span := traced.span ++ value.toList }
  | _ => none

def step (service : ProxyService) (codec : Codec) (traced : Traced) : Action -> Option Traced
  | .daemon action =>
      if withoutHandshake action then
        (traced.daemon.step service codec action).map fun daemon => { traced with daemon := daemon }
      else none
  | .connected headers => traced.connected service codec headers
  | .reconnected connection headers =>
      (traced.daemon.step service codec
        (.webSocket (.attempted (.readLoop connection) (.ok ())))).map fun daemon =>
          { traced with
            daemon := daemon
            connId := connectResponseHandler traced.connId headers
            responses := traced.responses ++ [responseId headers] }
  | .recorded => traced.recorded

/-- What the task will record next is already in the span. -/
def caughtUp (traced : Traced) : Bool :=
  match traced.recorder with
  | .unspawned => false
  | .waiting seen => decide (seen = traced.connId.version)
  | .finished => true

end Traced

/-! ## The cell -/

variable {connId : Watch (Option String)} {span : List String} {responses : List (Option String)}
  {seen : Nat}

theorem value_connectResponseHandler (connId : Watch (Option String)) (headers : HeaderMap) :
    (connectResponseHandler connId headers).value = responseId headers := by
  unfold connectResponseHandler
  by_cases same : connId.value = responseId headers
  · rw [if_pos same]
    exact same
  · rw [if_neg same]
    rfl

/-- Who has seen a version of the cell has recorded ids of handshakes up to some
point.  With the newest version the id of the newest handshake is the last. -/
def Records (connId : Watch (Option String)) (span : List String)
    (responses : List (Option String)) (seen : Nat) : Prop :=
  seen ≤ connId.version ∧ span ≠ [] ∧ Exists fun old => Exists fun fresh =>
    responses = old ++ fresh ∧ span.Sublist (old.filterMap id) ∧
      (seen ≠ connId.version -> fresh ≠ []) ∧
      (seen = connId.version -> forall name, connId.value = some name ->
        span.getLast? = some name)

namespace Records

theorem sublist (records : Records connId span responses seen) :
    span.Sublist (responses.filterMap id) := by
  obtain ⟨_, _, old, fresh, rfl, sublist, _⟩ := records
  rw [List.filterMap_append]
  exact sublist.trans (List.sublist_append_left _ _)

/-- There is one more handshake. -/
theorem response (records : Records connId span responses seen) (headers : HeaderMap) :
    Records (connectResponseHandler connId headers) span (responses ++ [responseId headers])
      seen := by
  obtain ⟨older, named, old, fresh, rfl, sublist, unseen, newest⟩ := records
  have more : old ++ fresh ++ [responseId headers] = old ++ (fresh ++ [responseId headers]) :=
    List.append_assoc _ _ _
  unfold connectResponseHandler
  by_cases same : connId.value = responseId headers
  · rw [if_pos same]
    exact ⟨older, named, old, _, more, sublist, fun _ => by simp, newest⟩
  · rw [if_neg same]
    refine ⟨Nat.le_succ_of_le older, named, old, _, more, sublist, fun _ => by simp, ?_⟩
    intro impossible
    have bumped : seen = connId.version + 1 := impossible
    omega

/-- The last id of some handshakes, if there is one, is among their ids. -/
theorem sublist_getLast? (responses : List (Option String)) :
    responses.getLast?.join.toList.Sublist (responses.filterMap id) := by
  rcases List.eq_nil_or_concat responses with rfl | ⟨before, last, rfl⟩
  · exact List.Sublist.refl _
  · rw [List.concat_eq_append, List.getLast?_concat, List.filterMap_append]
    cases last with
    | none => exact List.nil_sublist _
    | some name => exact List.sublist_append_right _ _

/-- The span starts with the id of the newest handshake. -/
theorem first {name : String} (value : connId.value = responses.getLast?.join)
    (holds : connId.value = some name) :
    Records connId connId.value.toList responses connId.version := by
  refine ⟨Nat.le_refl _, by simp [holds], responses, [], (List.append_nil _).symm, ?_,
    fun different => absurd rfl different, fun _ other same => ?_⟩
  · rw [value]
    exact sublist_getLast? responses
  · rw [holds, Option.some.injEq] at same
    rw [holds, ← same]
    rfl

/-- The newest id is recorded. -/
theorem recorded (records : Records connId span responses seen)
    (value : connId.value = responses.getLast?.join) (unseen : connId.version ≠ seen) :
    Records connId (span ++ connId.value.toList) responses connId.version := by
  obtain ⟨_, named, old, fresh, rfl, sublist, remaining, _⟩ := records
  have some := remaining (Ne.symm unseen)
  rw [List.getLast?_append_of_ne_nil _ some] at value
  refine ⟨Nat.le_refl _, by simp [named], old ++ fresh, [], (List.append_nil _).symm, ?_,
    fun different => absurd rfl different, fun _ name holds => ?_⟩
  · rw [List.filterMap_append, value]
    exact sublist.append (sublist_getLast? fresh)
  · rw [holds]
    exact List.getLast?_concat

end Records

/-! ## The main function of the service -/

namespace Daemon

variable {service : ProxyService} {codec : Codec} {daemon after : Daemon} {action : Action}

/-- `connect` of the websocket has not returned, or it is over with the service. -/
def Idle (main : Main) : Prop :=
  main = .called ∨ main = .connecting ∨ Exists fun failure => main = .failed failure

theorem main_of_attempted {outcome : Except WebSocket.Error Unit} {connId : Option String}
    (taken : daemon.attempted service outcome connId = some after) :
    Idle after.main ∨ (outcome = .ok () ∧ connId ≠ none ∧ Traced.Spawning after.main) := by
  unfold attempted at taken
  cases rests : daemon.main <;> simp only [rests, reduceCtorEq] at taken
  cases called : daemon.callWebSocket service [.attempted (.user 0) outcome] with
  | none => simp only [called, reduceCtorEq] at taken
  | some between =>
      rcases callWebSocket_some called with ⟨ws, calls, rfl⟩
      simp only [called] at taken
      by_cases answered : ws.connects.isEmpty = true
      · rw [if_pos answered] at taken
        unfold connected at taken
        rcases outcome with error | _
        · rcases callWebSocket_map taken with ⟨dropped, _, rfl⟩
          exact Or.inl (Or.inr (Or.inr ⟨_, rfl⟩))
        · cases connId with
          | none =>
              rcases callWebSocket_map taken with ⟨dropped, _, rfl⟩
              exact Or.inl (Or.inr (Or.inr ⟨_, rfl⟩))
          | some id =>
              rcases callWebSocket_map taken with ⟨cloned, _, rfl⟩
              refine Or.inr ⟨rfl, nofun, ?_⟩
              dsimp only
              split
              · exact Or.inl rfl
              · exact Or.inr rfl
      · rw [if_neg answered, Option.some.injEq] at taken
        subst taken
        exact Or.inl (Or.inr (Or.inl rests))

/-- The service does not connect a second time. -/
theorem Step.early (effect : Step service codec daemon action after)
    (early : after.main = .called ∨ after.main = .connecting) :
    daemon.main = .called ∨ daemon.main = .connecting := by
  have never {main : Main} (early : main = .called ∨ main = .connecting)
      (later : main ≠ .called ∧ main ≠ .connecting) : False :=
    early.elim later.1 later.2
  cases effect with
  | connecting _ rests => exact Or.inl rests
  | waiting _ _ _ rests => exact Or.inr rests
  | connected =>
      dsimp only at early
      split at early <;> exact (never early ⟨nofun, nofun⟩).elim
  | refused => exact (never early ⟨nofun, nofun⟩).elim
  | bindFailed => exact (never early ⟨nofun, nofun⟩).elim
  | bound => exact (never early ⟨nofun, nofun⟩).elim
  | spawnedStatus => exact (never early ⟨nofun, nofun⟩).elim
  | spawnedOutgoing => exact (never early ⟨nofun, nofun⟩).elim
  | subscribed => exact (never early ⟨nofun, nofun⟩).elim
  | continued => exact (never early ⟨nofun, nofun⟩).elim
  | failed => exact (never early ⟨nofun, nofun⟩).elim
  | disconnected => exact (never early ⟨nofun, nofun⟩).elim
  | shutDown => exact (never early ⟨nofun, nofun⟩).elim
  | _ => exact early

/-- Without a successful handshake it goes nowhere. -/
theorem Step.idle (effect : Step service codec daemon action after)
    (taken : step service codec daemon action = some after)
    (without : Traced.withoutHandshake action = true) (idle : Idle daemon.main) :
    Idle after.main := by
  have apart {main : Main} (rests : daemon.main = main)
      (later : main ≠ .called ∧ main ≠ .connecting ∧ forall failure, main ≠ .failed failure) :
      False := by
    rcases idle with called | connecting | ⟨failure, failed⟩
    · exact later.1 (rests.symm.trans called)
    · exact later.2.1 (rests.symm.trans connecting)
    · exact later.2.2 failure (rests.symm.trans failed)
  cases effect with
  | connecting => exact Or.inr (Or.inl rfl)
  | refused => exact Or.inr (Or.inr ⟨_, rfl⟩)
  | connected outcome connId =>
      rcases main_of_attempted taken with still | ⟨rfl, _, _⟩
      · exact still
      · cases without
  | bindFailed _ _ rests => exact (apart rests ⟨nofun, nofun, nofun⟩).elim
  | bound rests => exact (apart rests ⟨nofun, nofun, nofun⟩).elim
  | spawnedStatus rests => exact (apart rests ⟨nofun, nofun, nofun⟩).elim
  | spawnedOutgoing _ rests => exact (apart rests ⟨nofun, nofun, nofun⟩).elim
  | subscribed _ rests => exact (apart rests ⟨nofun, nofun, nofun⟩).elim
  | continued _ _ _ _ rests => exact (apart rests ⟨nofun, nofun, nofun⟩).elim
  | failed _ _ _ _ rests => exact (apart rests ⟨nofun, nofun, nofun⟩).elim
  | disconnected _ _ _ rests => exact (apart rests ⟨nofun, nofun, nofun⟩).elim
  | shutDown _ _ rests => exact (apart rests ⟨nofun, nofun, nofun⟩).elim
  | _ => exact idle

theorem dead_of_reaches {maxRetries : Nat} {ws later : ReconnectingWebSocket}
    {holds : ReconnectingWebSocket -> ReconnectingWebSocket.Action -> Prop}
    (onwards : Reaches (ReconnectingWebSocket.step maxRetries) holds ws later)
    (dead : ws.innerAlive = false) : later.innerAlive = false := by
  apply onwards.invariant
  · exact dead
  · intro before call next _ gone _ called
    exact (ReconnectingWebSocket.step_spec called).dead gone

theorem dead_of_step (taken : step service codec daemon action = some after)
    (dead : daemon.ws.innerAlive = false) : after.ws.innerAlive = false :=
  dead_of_reaches (step_spec taken).webSocketRun dead

/-- A read loop that reconnects keeps the websocket. -/
theorem alive_of_reconnected {connection : Nat} {outcome : Except WebSocket.Error Unit}
    (taken : step service codec daemon (.webSocket (.attempted (.readLoop connection) outcome)) =
      some after) : daemon.ws.innerAlive = true := by
  rcases callWebSocket_some taken with ⟨ws, calls, rfl⟩
  have called := calls.single
  unfold ReconnectingWebSocket.step ReconnectingWebSocket.attempted at called
  cases call : daemon.ws.connectCall (.readLoop connection) with
  | none =>
      simp only [call] at called
      cases called
  | some attempt =>
      unfold ReconnectingWebSocket.connectCall at call
      cases present : daemon.ws.connections[connection]? with
      | none =>
          simp only [present] at call
          cases call
      | some found =>
          simp only [present] at call
          apply ReconnectingWebSocket.innerAlive_of_holder present
          cases rests : found.readLoop <;> simp only [rests, reduceCtorEq] at call
          simp only [Connection.holdsInner, rests, ReadLoop.holdsInner, Bool.true_or]

end Daemon

/-! ## What the span says -/

namespace Traced

variable {service : ProxyService} {codec : Codec} {traced after : Traced}

structure Follows (traced : Traced) : Prop where
  value : traced.connId.value = traced.responses.getLast?.join
  unspawned : traced.recorder = .unspawned -> Daemon.Idle traced.daemon.main
  early : traced.daemon.main = .called ∨ traced.daemon.main = .connecting ->
    traced.recorder = .unspawned
  waiting : forall seen, traced.recorder = .waiting seen ->
    Records traced.connId traced.span traced.responses seen
  finished : traced.recorder = .finished -> traced.daemon.ws.innerAlive = false ∧
    Records traced.connId traced.span traced.responses traced.connId.version

theorem value_response (connId : Watch (Option String)) (headers : HeaderMap)
    (responses : List (Option String)) :
    (connectResponseHandler connId headers).value =
      (responses ++ [responseId headers]).getLast?.join := by
  rw [value_connectResponseHandler, List.getLast?_concat]
  rfl

namespace Follows

/-- A step of the daemon in which no handshake succeeds. -/
theorem of_daemon {action : Daemon.Action} {daemon : Daemon} (follows : Follows traced)
    (moved : traced.daemon.step service codec action = some daemon)
    (without : withoutHandshake action = true) : Follows { traced with daemon := daemon } := by
  have effect := Daemon.step_spec moved
  exact
    { value := follows.value
      unspawned := fun unspawned => effect.idle moved without (follows.unspawned unspawned)
      early := fun early => follows.early (effect.early early)
      waiting := follows.waiting
      finished := fun finished => ⟨Daemon.dead_of_step moved (follows.finished finished).1,
        (follows.finished finished).2⟩ }

/-- As long as a read loop reconnects the task has not finished. -/
theorem of_reconnected {connection : Nat} {headers : HeaderMap} (follows : Follows traced)
    (taken : step service codec traced (.reconnected connection headers) = some after) :
    Follows after := by
  rcases Option.map_eq_some_iff.mp taken with ⟨daemon, moved, rfl⟩
  have effect := Daemon.step_spec moved
  have alive := Daemon.alive_of_reconnected moved
  have same : daemon.main = traced.daemon.main := by
    rcases Daemon.callWebSocket_some moved with ⟨ws, _, rfl⟩
    rfl
  exact
    { value := value_response _ _ _
      unspawned := fun unspawned => same ▸ follows.unspawned unspawned
      early := fun early => follows.early (effect.early early)
      waiting := fun seen waiting => (follows.waiting seen waiting).response headers
      finished := fun finished => by
        have dead := (follows.finished finished).1
        rw [alive] at dead
        cases dead }

/-- The service connects before it spawns the task. -/
theorem unspawned_of_attempted {outcome : Except WebSocket.Error Unit} {connId : Option String}
    {daemon : Daemon} (follows : Follows traced)
    (moved : traced.daemon.step service codec (.attempted outcome connId) = some daemon) :
    traced.recorder = .unspawned := by
  apply follows.early
  cases Daemon.step_spec moved with
  | waiting _ _ _ rests => exact Or.inr rests
  | refused _ _ _ _ rests => exact Or.inr rests
  | connected _ _ _ rests => exact Or.inr rests

theorem of_connected {headers : HeaderMap} (follows : Follows traced)
    (taken : step service codec traced (.connected headers) = some after) : Follows after := by
  rcases Option.map_eq_some_iff.mp taken with ⟨daemon, moved, rfl⟩
  have unspawned := follows.unspawned_of_attempted moved
  rcases Daemon.main_of_attempted moved with idle | ⟨_, named, spawning⟩
  · have quiet : ¬ Spawning daemon.main := by
      rintro (binding | spawning)
      · rcases idle with main | main | ⟨failure, main⟩ <;> cases main.symm.trans binding
      · rcases idle with main | main | ⟨failure, main⟩ <;> cases main.symm.trans spawning
    rw [if_neg quiet, if_neg quiet]
    exact
      { value := value_response _ _ _
        unspawned := fun _ => idle
        early := fun _ => unspawned
        waiting := fun seen waiting => by cases unspawned.symm.trans waiting
        finished := fun finished => by cases unspawned.symm.trans finished }
  · rw [if_pos spawning, if_pos spawning]
    obtain ⟨name, holds⟩ := Option.ne_none_iff_exists'.mp named
    exact
      { value := value_response _ _ _
        unspawned := nofun
        early := fun early => by
          rcases spawning with main | main <;> rcases early with called | called <;>
            cases main.symm.trans called
        waiting := fun seen waiting => by
          cases waiting
          exact Records.first (value_response _ _ _) holds
        finished := nofun }

/-- The task records a value that it has not seen, or it ends with the websocket. -/
theorem of_recorded (follows : Follows traced)
    (taken : step service codec traced .recorded = some after) : Follows after := by
  simp only [step, recorded] at taken
  cases rests : traced.recorder with
  | unspawned => simp only [rests, reduceCtorEq] at taken
  | finished => simp only [rests, reduceCtorEq] at taken
  | waiting seen =>
      simp only [rests] at taken
      have records := follows.waiting seen rests
      have busy : traced.recorder ≠ .unspawned := by
        rw [rests]
        exact nofun
      split at taken
      · cases taken
      · next gone =>
          cases taken
          have ended := (Watch.changed_eq_error_iff _ _ _).mp gone
          exact
            { value := follows.value
              unspawned := nofun
              early := fun early => absurd (follows.early early) busy
              waiting := nofun
              finished := fun _ => ⟨ended.2, ended.1 ▸ records⟩ }
      · next value version news =>
          cases taken
          have unseen := Watch.changed_eq_ok news
          rw [Watch.changed_of_ne unseen] at news
          cases news
          exact
            { value := follows.value
              unspawned := nofun
              early := fun early => absurd (follows.early early) busy
              waiting := fun seen waiting => by
                cases waiting
                exact records.recorded follows.value unseen
              finished := nofun }

end Follows

theorem step_follows {action : Action} (follows : Follows traced)
    (taken : step service codec traced action = some after) : Follows after := by
  cases action with
  | daemon action =>
      simp only [step] at taken
      by_cases without : withoutHandshake action = true
      · rw [if_pos without, Option.map_eq_some_iff] at taken
        obtain ⟨daemon, moved, rfl⟩ := taken
        exact follows.of_daemon moved without
      · rw [if_neg without] at taken
        cases taken
  | reconnected connection headers => exact follows.of_reconnected taken
  | connected headers => exact follows.of_connected taken
  | recorded => exact follows.of_recorded taken

theorem follows_of_reaches (reached : Reaches (step service codec) anyStep initial traced) :
    Follows traced := by
  apply reached.invariant
  · exact
      { value := rfl
        unspawned := fun _ => Or.inl rfl
        early := fun _ => rfl
        waiting := nofun
        finished := nofun }
  · intro before action after _ follows _ taken
    exact step_follows follows taken

/-- Once the main loop has been entered, the span has an id and nothing but ids of
handshakes, in their order.  The task is behind only until it is polled, and when
it is not, the span goes by the id of the newest handshake if that has one. -/
theorem span_names_connection (service : ProxyService) (codec : Codec) (traced : Traced)
    (reached : Reaches (step service codec) anyStep initial traced)
    (entered : traced.daemon.main.entered = true) :
    traced.span ≠ [] ∧ traced.span.Sublist (traced.responses.filterMap id) ∧
      (traced.caughtUp = true -> forall name, traced.responses.getLast? = some (some name) ->
        traced.span.getLast? = some name) ∧
      (traced.caughtUp = false -> Exists fun after =>
        step service codec traced .recorded = some after ∧ after.caughtUp = true ∧
          after.daemon = traced.daemon) := by
  have follows := follows_of_reaches reached
  have newest {seen : Nat}
      (records : Records traced.connId traced.span traced.responses seen)
      (same : seen = traced.connId.version) (name : String)
      (last : traced.responses.getLast? = some (some name)) :
      traced.span.getLast? = some name := by
    obtain ⟨_, _, _, _, _, _, _, newest⟩ := records
    apply newest same name
    rw [follows.value, last]
    rfl
  cases rests : traced.recorder with
  | unspawned =>
      rcases follows.unspawned rests with main | main | ⟨failure, main⟩ <;>
      · rw [main] at entered
        cases entered
  | waiting seen =>
      have records := follows.waiting seen rests
      refine ⟨records.2.1, records.sublist, fun current => ?_, fun behind => ?_⟩
      · simp only [caughtUp, rests, decide_eq_true_eq] at current
        exact newest records current
      · simp only [caughtUp, rests, decide_eq_false_iff_not] at behind
        refine ⟨{ traced with
          recorder := .waiting traced.connId.version
          span := traced.span ++ traced.connId.value.toList }, ?_, ?_, rfl⟩
        · simp only [step, recorded, rests, Watch.changed_of_ne (Ne.symm behind)]
        · simp only [caughtUp, decide_true]
  | finished =>
      have records := (follows.finished rests).2
      refine ⟨records.2.1, records.sublist, fun _ => newest records rfl, fun behind => ?_⟩
      simp only [caughtUp, rests] at behind
      cases behind

/-! ## A connection that is replaced -/

def withId (name : String) : HeaderMap :=
  HeaderMap.insert ∅ "fp-conn-id" name

/-- The stream of the first connection ends, and there is another one. -/
def reconnecting : List Action :=
  [.daemon .connecting, .connected (withId "1"), .daemon .spawnedStatus, .daemon .spawnedOutgoing,
    .daemon (.webSocket (.readLoop 0)), .daemon (.webSocket (.readLoop 0)),
    .daemon (.webSocket (.keepAliveRead 0 (.ready none))),
    .daemon (.webSocket (.keepAliveRead 0 .pending)), .daemon (.webSocket (.readLoop 0)),
    .daemon (.webSocket (.readLoop 0)), .reconnected 0 (withId "2"), .recorded]

theorem span_names_connection_reconnected :
    ((run (step Daemon.plainService Handling.plainCodec) anyStep initial reconnecting).get
      rfl).span.getLast? = some "2" :=
  (span_names_connection Daemon.plainService Handling.plainCodec _
    (reaches_get_run reconnecting rfl) rfl).2.2.1 rfl "2" rfl

end Traced
end Service
end Fpd
