import Fpd.Async.Simulation
import Fpd.Service.Status

namespace Fpd
namespace Service

open Async

/-!
# Counting the calls of providers

The service counts every call of a provider under the labels of its message:
how many there have been, how many are under way and how long each of them
took.  A message that is answered without asking a provider is not counted.

Here a call of `handle_message_inner` rests while its provider works, so calls
for the relay and calls of status checks overlap in every way they can.  They
share nothing but the metrics.  The runtime may also panic in a call: where it
decodes itself what the provider returns, it does so on bytes that do not decode.
A call that panics does not reach the line that takes it off the gauge, but its
timer observes the duration when it is dropped.  The words of the counters are
taken to be wide enough.
-/

/-- The values of `LABELS`. -/
structure Labels where
  protocolVersion : String
  providerType : String
  dataSourceName : Name
  deriving DecidableEq, Repr

/-- `QUERIES_TOTAL`, `CONCURRENT_QUERIES` and the number of observations of
`QUERIES_DURATION_SECONDS`. -/
structure Metrics where
  queriesTotal : Labels -> Nat
  concurrentQueries : Labels -> Int
  queriesDuration : Labels -> Nat

namespace Metrics

def new : Metrics :=
  ⟨fun _ => 0, fun _ => 0, fun _ => 0⟩

/-- The provider is about to be called. -/
def start (metrics : Metrics) (labels : Labels) : Metrics :=
  { metrics with
    queriesTotal :=
      Function.update metrics.queriesTotal labels (metrics.queriesTotal labels + 1)
    concurrentQueries :=
      Function.update metrics.concurrentQueries labels (metrics.concurrentQueries labels + 1) }

/-- The timer observes, when it is told to or when it is dropped. -/
def observe (metrics : Metrics) (labels : Labels) : Metrics :=
  { metrics with
    queriesDuration :=
      Function.update metrics.queriesDuration labels (metrics.queriesDuration labels + 1) }

/-- The provider has answered. -/
def finish (metrics : Metrics) (labels : Labels) : Metrics :=
  { metrics with
    concurrentQueries :=
      Function.update metrics.concurrentQueries labels (metrics.concurrentQueries labels - 1)
    }.observe labels

end Metrics

/-! ## `handle_message_inner` in two parts -/

/-- A message together with the provider that is to be called for it. -/
structure Query where
  protocolVersion : UInt8
  payload : ServerMessagePayload
  runtime : Runtime
  dataSource : ProxyDataSource
  opId : Base64Uuid

namespace Query

def labels (query : Query) : Labels :=
  ⟨toString query.protocolVersion, query.dataSource.providerType, query.dataSource.name⟩

def call (codec : Codec) (provider : Provider) (query : Query) : Outcome ProxyMessage :=
  ProxyService.callProvider codec provider query.payload query.runtime query.dataSource query.opId

end Query

/-- What becomes of a message before any provider is called. -/
inductive Prepared
  | answered (result : Except Error ProxyMessage)
  | querying (query : Query)
  | panicked

/-- `handle_message_inner` up to the metrics. -/
def ProxyService.prepare (service : ProxyService) (message : ServerMessage) : Prepared :=
  match message.opId with
  | none =>
      .answered (.error (.deserialization "Incoming message is expecting an operation ID"))
  | some opId =>
      if message.protocolVersion ≠ 2 then
        .answered (.ok (.newErrorResponse
          (.invocation ("unsupported version: " ++ toString message.protocolVersion)) opId))
      else
        match service.dataSources.lookup message.dataSourceName with
        | none => .answered (.ok (.newErrorResponse .notFound opId))
        | some dataSource =>
            match service.wasmModules.lookup dataSource.providerType with
            | none => .panicked
            | some (.error error) => .answered (.ok (.newErrorResponse error opId))
            | some (.ok runtime) =>
                .querying ⟨message.protocolVersion, message.payload, runtime, dataSource, opId⟩

def Prepared.outcome (codec : Codec) (provider : Provider) :
    Prepared -> Outcome (Except Error ProxyMessage)
  | .answered result => .returned result
  | .querying query => (query.call codec provider).map .ok
  | .panicked => .panicked

/-- The two parts are the function. -/
theorem handleMessageInner_eq_outcome (service : ProxyService) (codec : Codec)
    (provider : Provider) (message : ServerMessage) :
    service.handleMessageInner codec provider message =
      (service.prepare message).outcome codec provider := by
  unfold ProxyService.handleMessageInner ProxyService.prepare
  cases message.opId with
  | none => rfl
  | some opId =>
      dsimp only
      by_cases unsupported : message.protocolVersion ≠ 2
      · rw [if_pos unsupported, if_pos unsupported]
        rfl
      · rw [if_neg unsupported, if_neg unsupported]
        cases service.dataSources.lookup message.dataSourceName with
        | none => rfl
        | some dataSource =>
            dsimp only
            rcases service.wasmModules.lookup dataSource.providerType with _ | error | runtime <;>
              rfl

/-! ## Calls that overlap -/

/-- An unsupported payload is counted, but no runtime is called for it. -/
def ServerMessagePayload.callsRuntime : ServerMessagePayload -> Bool
  | .other _ => false
  | _ => true

/-- One call of `handle_message_inner`: not begun, resting in its provider, or
at its end.  A call that ends without a provider has been answered by the
service itself, or it is lost because a module is missing.  One whose runtime has
panicked is dead. -/
inductive Call
  | received (message : ServerMessage)
  | querying (message : ServerMessage) (query : Query)
  | refused (message : ServerMessage) (result : Except Error ProxyMessage)
  | lost (message : ServerMessage)
  | ended (message : ServerMessage) (query : Query) (provider : Provider)
  | dead (message : ServerMessage) (query : Query)

namespace Call

/-- The call begins. -/
def begun (service : ProxyService) (metrics : Metrics) : Call -> Option (Call × Metrics)
  | .received message =>
      match service.prepare message with
      | .answered result => some (.refused message result, metrics)
      | .querying query => some (.querying message query, metrics.start query.labels)
      | .panicked => some (.lost message, metrics)
  | _ => none

/-- The provider answers. -/
def answered (codec : Codec) (provider : Provider) (metrics : Metrics) :
    Call -> Option (Call × Metrics)
  | .querying message query =>
      match query.call codec provider with
      | .returned _ => some (.ended message query provider, metrics.finish query.labels)
      | .panicked => some (.ended message query provider, metrics.observe query.labels)
  | _ => none

/-- The runtime panics. -/
def died (metrics : Metrics) : Call -> Option (Call × Metrics)
  | .querying message query =>
      if query.payload.callsRuntime then
        some (.dead message query, metrics.observe query.labels)
      else none
  | _ => none

/-- What `handle_message` sends once its call has ended. -/
def responses (codec : Codec) : Call -> List ProxyMessage
  | .refused _ result => Handling.sent (.returned result)
  | .ended _ query provider => Handling.sent ((query.call codec provider).map .ok)
  | _ => []

end Call

/-- The calls for messages of the relay with the answers they have sent, the
calls of status checks, and the metrics. -/
structure Metering where
  handlers : List Call
  replies : List (Nat × ProxyMessage)
  checks : List Call
  metrics : Metrics

namespace Metering

def empty : Metering :=
  ⟨[], [], [], .new⟩

inductive Action
  | received (message : ServerMessage)
  | checked (dataSourceName : Name) (opId : Base64Uuid)
  | begun (index : Nat)
  | answered (index : Nat) (provider : Provider)
  | died (index : Nat)
  | checkBegun (index : Nat)
  | checkAnswered (index : Nat) (provider : Provider)
  | checkDied (index : Nat)

/-- A handler takes a step, and sends what it comes to. -/
def handler (codec : Codec) (metering : Metering) (index : Nat) :
    Option (Call × Metrics) -> Option Metering
  | some (call, metrics) =>
      some { metering with
        handlers := metering.handlers.set index call
        replies := metering.replies ++ (call.responses codec).map (index, ·)
        metrics := metrics }
  | none => none

def check (metering : Metering) (index : Nat) : Option (Call × Metrics) -> Option Metering
  | some (call, metrics) =>
      some { metering with checks := metering.checks.set index call, metrics := metrics }
  | none => none

/-- The relay sends a message, a check is made, or a call takes a step. -/
def step (service : ProxyService) (codec : Codec) (metering : Metering) :
    Action -> Option Metering
  | .received message =>
      some { metering with handlers := metering.handlers ++ [.received message] }
  | .checked dataSourceName opId =>
      match ProxyService.statusRequestV2 codec with
      | .returned request =>
          some { metering with
            checks := metering.checks ++
              [.received (.newInvokeProxyRequest request dataSourceName 2 opId)] }
      | .panicked => none
  | .begun index =>
      match metering.handlers[index]? with
      | some call => metering.handler codec index (call.begun service metering.metrics)
      | none => none
  | .answered index provider =>
      match metering.handlers[index]? with
      | some call => metering.handler codec index (call.answered codec provider metering.metrics)
      | none => none
  | .died index =>
      match metering.handlers[index]? with
      | some call => metering.handler codec index (call.died metering.metrics)
      | none => none
  | .checkBegun index =>
      match metering.checks[index]? with
      | some call => metering.check index (call.begun service metering.metrics)
      | none => none
  | .checkAnswered index provider =>
      match metering.checks[index]? with
      | some call => metering.check index (call.answered codec provider metering.metrics)
      | none => none
  | .checkDied index =>
      match metering.checks[index]? with
      | some call => metering.check index (call.died metering.metrics)
      | none => none

end Metering

variable {service : ProxyService} {codec : Codec} {metrics counted : Metrics} {call next : Call}

/-- Everything one step of a call can do, and what it does to the metrics. -/
inductive CallStep (service : ProxyService) (codec : Codec) (metrics : Metrics) :
    Call -> Call -> Metrics -> Prop
  | refused (message : ServerMessage) (result : Except Error ProxyMessage)
      (prepared : service.prepare message = .answered result) :
      CallStep service codec metrics (.received message) (.refused message result) metrics
  | started (message : ServerMessage) (query : Query)
      (prepared : service.prepare message = .querying query) :
      CallStep service codec metrics (.received message) (.querying message query)
        (metrics.start query.labels)
  | lost (message : ServerMessage) (prepared : service.prepare message = .panicked) :
      CallStep service codec metrics (.received message) (.lost message) metrics
  | finished (message : ServerMessage) (query : Query) (provider : Provider)
      (response : ProxyMessage) (returned : query.call codec provider = .returned response) :
      CallStep service codec metrics (.querying message query) (.ended message query provider)
        (metrics.finish query.labels)
  | panicked (message : ServerMessage) (query : Query) (provider : Provider)
      (panicked : query.call codec provider = .panicked) :
      CallStep service codec metrics (.querying message query) (.ended message query provider)
        (metrics.observe query.labels)
  | died (message : ServerMessage) (query : Query) :
      CallStep service codec metrics (.querying message query) (.dead message query)
        (metrics.observe query.labels)

theorem Call.begun_step (begun : call.begun service metrics = some (next, counted)) :
    CallStep service codec metrics call next counted := by
  cases call with
  | received message =>
      cases prepared : service.prepare message <;>
        simp only [Call.begun, prepared, Option.some.injEq, Prod.mk.injEq] at begun <;>
        rcases begun with ⟨rfl, rfl⟩
      · exact .refused message _ prepared
      · exact .started message _ prepared
      · exact .lost message prepared
  | _ => cases begun

theorem Call.answered_step {provider : Provider}
    (answered : call.answered codec provider metrics = some (next, counted)) :
    CallStep service codec metrics call next counted := by
  cases call with
  | querying message query =>
      cases outcome : query.call codec provider <;>
        simp only [Call.answered, outcome, Option.some.injEq, Prod.mk.injEq] at answered <;>
        rcases answered with ⟨rfl, rfl⟩
      · exact .panicked message query provider outcome
      · exact .finished message query provider _ outcome
  | _ => cases answered

theorem Call.died_step (died : call.died metrics = some (next, counted)) :
    CallStep service codec metrics call next counted := by
  cases call with
  | querying message query =>
      simp only [Call.died] at died
      split at died
      · cases died
        exact .died message query
      · cases died
  | _ => cases died

namespace Metering

variable {metering after : Metering} {action : Action}

/-- Everything one step can do. -/
inductive Step (service : ProxyService) (codec : Codec) (metering : Metering) :
    Action -> Metering -> Prop
  | received (message : ServerMessage) :
      Step service codec metering (.received message)
        { metering with handlers := metering.handlers ++ [.received message] }
  | checked (dataSourceName : Name) (opId : Base64Uuid) (message : ServerMessage) :
      Step service codec metering (.checked dataSourceName opId)
        { metering with checks := metering.checks ++ [.received message] }
  | handler {action : Action} (index : Nat) (call next : Call) (counted : Metrics)
      (present : metering.handlers[index]? = some call)
      (effect : CallStep service codec metering.metrics call next counted) :
      Step service codec metering action { metering with
        handlers := metering.handlers.set index next
        replies := metering.replies ++ (next.responses codec).map (index, ·)
        metrics := counted }
  | check {action : Action} (index : Nat) (call next : Call) (counted : Metrics)
      (present : metering.checks[index]? = some call)
      (effect : CallStep service codec metering.metrics call next counted) :
      Step service codec metering action
        { metering with checks := metering.checks.set index next, metrics := counted }

theorem handler_step {index : Nat} {answer : Option (Call × Metrics)}
    (taken : metering.handler codec index answer = some after)
    (present : metering.handlers[index]? = some call)
    (effect : forall next counted, answer = some (next, counted) ->
      CallStep service codec metering.metrics call next counted) :
    Step service codec metering action after := by
  rcases answer with _ | ⟨next, counted⟩
  · cases taken
  · simp only [handler, Option.some.injEq] at taken
    exact taken ▸ .handler index call next counted present (effect next counted rfl)

theorem check_step {index : Nat} {answer : Option (Call × Metrics)}
    (taken : metering.check index answer = some after)
    (present : metering.checks[index]? = some call)
    (effect : forall next counted, answer = some (next, counted) ->
      CallStep service codec metering.metrics call next counted) :
    Step service codec metering action after := by
  rcases answer with _ | ⟨next, counted⟩
  · cases taken
  · simp only [check, Option.some.injEq] at taken
    exact taken ▸ .check index call next counted present (effect next counted rfl)

theorem step_spec (taken : step service codec metering action = some after) :
    Step service codec metering action after := by
  cases action with
  | received message =>
      simp only [step, Option.some.injEq] at taken
      exact taken ▸ .received message
  | checked dataSourceName opId =>
      cases encoded : ProxyService.statusRequestV2 codec with
      | panicked => simp only [step, encoded, reduceCtorEq] at taken
      | returned request =>
          simp only [step, encoded, Option.some.injEq] at taken
          exact taken ▸ .checked dataSourceName opId _
  | begun index =>
      cases present : metering.handlers[index]? with
      | none => simp only [step, present, reduceCtorEq] at taken
      | some call =>
          simp only [step, present] at taken
          exact handler_step taken present fun _ _ => Call.begun_step
  | answered index provider =>
      cases present : metering.handlers[index]? with
      | none => simp only [step, present, reduceCtorEq] at taken
      | some call =>
          simp only [step, present] at taken
          exact handler_step taken present fun _ _ => Call.answered_step
  | died index =>
      cases present : metering.handlers[index]? with
      | none => simp only [step, present, reduceCtorEq] at taken
      | some call =>
          simp only [step, present] at taken
          exact handler_step taken present fun _ _ => Call.died_step
  | checkBegun index =>
      cases present : metering.checks[index]? with
      | none => simp only [step, present, reduceCtorEq] at taken
      | some call =>
          simp only [step, present] at taken
          exact check_step taken present fun _ _ => Call.begun_step
  | checkAnswered index provider =>
      cases present : metering.checks[index]? with
      | none => simp only [step, present, reduceCtorEq] at taken
      | some call =>
          simp only [step, present] at taken
          exact check_step taken present fun _ _ => Call.answered_step
  | checkDied index =>
      cases present : metering.checks[index]? with
      | none => simp only [step, present, reduceCtorEq] at taken
      | some call =>
          simp only [step, present] at taken
          exact check_step taken present fun _ _ => Call.died_step

end Metering

end Service
end Fpd
