import Fpd.Service.Readings

namespace Fpd
namespace Service

open Async

/-!
# Handlers that overlap

The handlers of the relay's messages do all their work in one step of their
machine.  In truth a handler rests while its provider works, and other handlers
and the status checks go on in the meantime.  That makes no difference to the
relay: whatever it sees of calls that overlap, it sees of handlers that take
one step each, and so every message is answered as it should be.
-/

variable {service : ProxyService} {codec : Codec} {metrics counted : Metrics} {call next : Call}

/-- A call for a message of the relay, seen as a handler that does all its work
in one step.  Where no provider has been asked, any one stands for it.  A
handler whose runtime has panicked is seen as one that never takes its step. -/
def Call.handler (anyProvider : Provider) : Call -> Handler
  | .received message => .received message
  | .querying message _ => .received message
  | .refused message _ => .ended message anyProvider
  | .lost message => .ended message anyProvider
  | .ended message _ provider => .ended message provider
  | .dead message _ => .received message

/-- Replacing an entry by itself changes nothing. -/
theorem set_same {Task : Type} {tasks : List Task} {here : Nat} {task : Task}
    (present : tasks[here]? = some task) : tasks.set here task = tasks := by
  rcases List.getElem?_eq_some_iff.mp present with ⟨inside, rfl⟩
  exact List.set_getElem_self inside

/-- A step of a call is the step of its handler, or it is not seen. -/
theorem CallStep.handler {anyProvider : Provider}
    (effect : CallStep service codec metrics call next counted)
    (prepared : call.Prepared service) :
    (next.handler anyProvider = call.handler anyProvider ∧ next.responses codec = []) ∨
      Exists fun message => Exists fun provider =>
        call.handler anyProvider = .received message ∧
          next.handler anyProvider = .ended message provider ∧
          next.responses codec =
            Handling.sent (service.handleMessageInner codec provider message) := by
  cases effect with
  | refused message result answered =>
      refine Or.inr ⟨message, anyProvider, rfl, rfl, ?_⟩
      rw [handleMessageInner_eq_outcome, answered]
      rfl
  | started message query => exact Or.inl ⟨rfl, rfl⟩
  | lost message missing =>
      refine Or.inr ⟨message, anyProvider, rfl, rfl, ?_⟩
      rw [handleMessageInner_eq_outcome, missing]
      rfl
  | finished message query provider response returned =>
      refine Or.inr ⟨message, provider, rfl, rfl, ?_⟩
      rw [handleMessageInner_eq_outcome, prepared]
      rfl
  | panicked message query provider panicked =>
      refine Or.inr ⟨message, provider, rfl, rfl, ?_⟩
      rw [handleMessageInner_eq_outcome, prepared]
      rfl
  | died message query => exact Or.inl ⟨rfl, rfl⟩

namespace Metering

variable {metering after : Metering} {action : Action}

/-- What the relay sees. -/
def handling (anyProvider : Provider) (metering : Metering) : Handling :=
  ⟨metering.handlers.map (Call.handler anyProvider), metering.replies⟩

theorem Step.handling {anyProvider : Provider} (effect : Step service codec metering action after)
    (prepared : forall call, call ∈ metering.calls -> call.Prepared service) :
    Reaches (Handling.step service codec) anyStep (metering.handling anyProvider)
      (after.handling anyProvider) := by
  cases effect with
  | received message =>
      have taken : Handling.step service codec (metering.handling anyProvider)
          (.received message) = some (Metering.handling anyProvider
            { metering with handlers := metering.handlers ++ [.received message] }) := by
        simp [Handling.step, Metering.handling, Call.handler]
      exact Reaches.single trivial taken
  | checked dataSourceName opId message => exact .refl
  | check index call next counted present effect => exact .refl
  | handler index call next counted present effect =>
      have here : (metering.handlers.map (Call.handler anyProvider))[index]? =
          some (call.handler anyProvider) := by
        rw [List.getElem?_map, present]
        rfl
      rcases effect.handler (prepared call (List.mem_append_left _ (List.mem_of_getElem? present)))
        with ⟨same, quiet⟩ | ⟨message, provider, before, ended, responses⟩
      · have unseen : Metering.handling anyProvider { metering with
            handlers := metering.handlers.set index next
            replies := metering.replies ++ (next.responses codec).map (index, ·)
            metrics := counted } = metering.handling anyProvider := by
          simp only [Metering.handling, List.map_set, quiet, List.map_nil, List.append_nil]
          rw [same, set_same here]
        rw [unseen]
        exact .refl
      · have taken : Handling.step service codec (metering.handling anyProvider)
            (.handled index provider) = some (Metering.handling anyProvider { metering with
              handlers := metering.handlers.set index next
              replies := metering.replies ++ (next.responses codec).map (index, ·)
              metrics := counted }) := by
          rw [before] at here
          simp only [Handling.step, here, Metering.handling, List.map_set, ended, responses]
        exact Reaches.single trivial taken

/-- What the relay sees of overlapping calls is what it sees of handlers that
work one at a time. -/
theorem handling_of_reaches (anyProvider : Provider)
    (reached : Reaches (step service codec) anyStep empty metering) :
    Reaches (Handling.step service codec) anyStep Handling.empty
      (metering.handling anyProvider) :=
  reached.mapped (Metering.handling anyProvider) fun _ _ _ earlier _ taken =>
    (step_spec taken).handling (prepared_of_reaches earlier)

/-- The answers of one handler. -/
def answers (index : Nat) (metering : Metering) : List ProxyMessage :=
  metering.replies.filterMap fun entry => if entry.1 = index then some entry.2 else none

theorem not_undecodable_of_refused {message : ServerMessage} {result : Except Error ProxyMessage}
    {provider : Provider} (refused : service.prepare message = .answered result) :
    ¬ Undecodable service codec provider message := by
  rintro ⟨addressed, version, _, dataSource, runtime, _, found, loaded, _⟩
  rcases Option.isSome_iff_exists.mp addressed with ⟨opId, address⟩
  simp [ProxyService.prepare, address, version, found, loaded] at refused

theorem not_lost_of_complete {message : ServerMessage} (complete : service.Complete) :
    service.prepare message ≠ .panicked := by
  intro lost
  unfold ProxyService.prepare at lost
  cases address : message.opId with
  | none => simp only [address, reduceCtorEq] at lost
  | some opId =>
      by_cases unsupported : message.protocolVersion ≠ 2
      · simp only [address, if_pos unsupported, reduceCtorEq] at lost
      · simp only [address, if_neg unsupported] at lost
        cases found : service.dataSources.lookup message.dataSourceName with
        | none => simp only [found, reduceCtorEq] at lost
        | some dataSource =>
            rcases Option.isSome_iff_exists.mp (complete _ _ found) with ⟨wasmModule, loaded⟩
            cases wasmModule <;> simp only [found, loaded, reduceCtorEq] at lost

/-- Whatever the order in which the calls for the relay and the status checks
begin and their providers answer, a handler that is not at its end has sent
nothing, nor has one whose runtime has panicked; one that needs no provider has
answered as it should, and one whose provider has answered has itself answered
as it should exactly unless these were query types that do not decode. -/
theorem overlapping_answered_iff_decodable (wasmDir : WasmDir) (dataSources : List ProxyDataSource)
    (maxRetries : Nat) (listenAddress : Option String) (statusCheckInterval : Duration)
    (codec : Codec) (metering : Metering)
    (reached : Reaches (step (.init wasmDir dataSources maxRetries listenAddress
      statusCheckInterval) codec) anyStep empty metering) (index : Nat) (call : Call)
    (present : metering.handlers[index]? = some call) :
    match call with
    | .received _ => answers index metering = []
    | .querying _ _ => answers index metering = []
    | .refused message _ => Answered message (answers index metering)
    | .lost _ => False
    | .ended message _ provider => Answered message (answers index metering) ↔
        ¬ Undecodable (.init wasmDir dataSources maxRetries listenAddress statusCheckInterval)
          codec provider message
    | .dead _ _ => answers index metering = [] := by
  have complete := ProxyService.init_complete wasmDir dataSources maxRetries listenAddress
    statusCheckInterval
  have prepared := prepared_of_reaches reached call
    (List.mem_append_left _ (List.mem_of_getElem? present))
  have accounted := Handling.accounted_of_reaches
    (handling_of_reaches Handling.plainProvider reached) index
  have here : (metering.handling Handling.plainProvider).handlers[index]? =
      some (call.handler Handling.plainProvider) := by
    rw [Metering.handling, List.getElem?_map, present]
    rfl
  rw [here] at accounted
  have answered : answers index metering =
      (call.handler Handling.plainProvider).answers _ codec := accounted
  cases call with
  | received message => exact answered
  | querying message query => exact answered
  | refused message result =>
      simp only [answered]
      exact (answered_sent_iff complete).mpr (not_undecodable_of_refused prepared)
  | lost message => exact not_lost_of_complete complete prepared
  | ended message query provider =>
      simp only [answered]
      exact answered_sent_iff complete
  | dead message query => exact answered

/-- While the first provider still works, the second one has answered. -/
def secondFirst : List Action :=
  [.received ⟨some 7, "metrics", 2, .getSupportedQueryTypes⟩,
    .received ⟨some 8, "metrics", 2, .getConfigSchema⟩, .begun 0, .checked "metrics" 9,
    .checkBegun 0, .begun 1, .answered 1 Handling.plainProvider]

theorem overlapping_answered_iff_decodable_secondFirst :
    Answered ⟨some 8, "metrics", 2, .getConfigSchema⟩
      [.newConfigSchemaResponse ⟨"[]"⟩ 8] := by
  have answered := (overlapping_answered_iff_decodable Handling.plainDir [Handling.plainSource] 3
    none 60 Handling.plainCodec _ (reaches_get_run secondFirst rfl) 1
    (.ended ⟨some 8, "metrics", 2, .getConfigSchema⟩ ⟨2, .getConfigSchema, ⟨[0]⟩,
      Handling.plainSource, 8⟩ Handling.plainProvider) rfl).mpr
  exact answered fun undecodable => by cases undecodable.2.2.1

end Metering
end Service
end Fpd
