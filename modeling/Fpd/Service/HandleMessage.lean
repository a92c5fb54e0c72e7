import Fpd.Async.Machine
import Fpd.Async.Slots
import Fpd.Service.Init

namespace Fpd
namespace Service

open Async Bindings

/-!
# Answering the relay

Every message of the relay is handled by a task of its own.  Such a task reads
the maps of the service, calls the provider and puts its answer on the reply
channel.  It shares nothing else with other tasks, so all it does from its
start to the answer of the provider is one step here.

Every way through `handle_message_inner` answers except two: a message without
operation ID has no address to answer to, and a provider that lists its query
types in bytes that do not decode makes the task panic.
-/

namespace ProxyService

def handleInvokeProxyMessage (codec : Codec) (provider : Provider) (message : InvokeRequest)
    (runtime : Runtime) (dataSource : ProxyDataSource) (opId : Base64Uuid) : ProxyMessage :=
  match invokeProviderV2 codec provider runtime message.data dataSource.config with
  | .ok response => .newInvokeProxyResponse response opId
  | .error error => .newErrorResponse error opId

def handleCreateCellsProxyMessage (provider : Provider) (message : CreateCellsRequest)
    (runtime : Runtime) (opId : Base64Uuid) : ProxyMessage :=
  match createCells provider runtime message.queryType message.response with
  | .ok cells => .newCreateCellsResponse cells opId
  | .error error => .newErrorResponse error opId

def handleExtractDataProxyMessage (provider : Provider) (message : ExtractDataRequest)
    (runtime : Runtime) (opId : Base64Uuid) : ProxyMessage :=
  match extractData provider runtime message.response message.mimeType message.query with
  | .ok data => .newExtractDataResponse data opId
  | .error error => .newErrorResponse error opId

def handleConfigSchemaProxyMessage (provider : Provider) (runtime : Runtime)
    (opId : Base64Uuid) : ProxyMessage :=
  match getConfigSchema provider runtime with
  | .ok schema => .newConfigSchemaResponse schema opId
  | .error error => .newErrorResponse error opId

def handleSupportedQueryTypes (codec : Codec) (provider : Provider) (runtime : Runtime)
    (dataSource : ProxyDataSource) (opId : Base64Uuid) : Outcome ProxyMessage :=
  (getSupportedQueryTypes codec provider runtime dataSource.config).map fun
    | .ok queries => .newSupportedQueryTypesResponse queries opId
    | .error error => .newErrorResponse error opId

/-- The provider call for a payload and the answer made of it. -/
def callProvider (codec : Codec) (provider : Provider) (payload : ServerMessagePayload)
    (runtime : Runtime) (dataSource : ProxyDataSource) (opId : Base64Uuid) : Outcome ProxyMessage :=
  match payload with
  | .invoke message =>
      .returned (handleInvokeProxyMessage codec provider message runtime dataSource opId)
  | .createCells message =>
      .returned (handleCreateCellsProxyMessage provider message runtime opId)
  | .extractData message =>
      .returned (handleExtractDataProxyMessage provider message runtime opId)
  | .getConfigSchema => .returned (handleConfigSchemaProxyMessage provider runtime opId)
  | .getSupportedQueryTypes => handleSupportedQueryTypes codec provider runtime dataSource opId
  | .other debug =>
      .returned (.newErrorResponse (.invocation ("unsupported payload: (" ++ debug ++ ")")) opId)

/-- `handle_message_inner`.  The lookup of the module is an `unwrap`. -/
def handleMessageInner (service : ProxyService) (codec : Codec) (provider : Provider)
    (message : ServerMessage) : Outcome (Except Error ProxyMessage) :=
  match message.opId with
  | none =>
      .returned (.error (.deserialization "Incoming message is expecting an operation ID"))
  | some opId =>
      if message.protocolVersion ≠ 2 then
        .returned (.ok (.newErrorResponse
          (.invocation ("unsupported version: " ++ toString message.protocolVersion)) opId))
      else
        match service.dataSources.lookup message.dataSourceName with
        | none => .returned (.ok (.newErrorResponse .notFound opId))
        | some dataSource =>
            match service.wasmModules.lookup dataSource.providerType with
            | none => .panicked
            | some (.error error) => .returned (.ok (.newErrorResponse error opId))
            | some (.ok runtime) =>
                (callProvider codec provider message.payload runtime dataSource opId).map .ok

end ProxyService

/-! ## The tasks of `handle_message` -/

/-- The task of one message, and once it has ended the answers that the
provider gave to it. -/
inductive Handler
  | received (message : ServerMessage)
  | ended (message : ServerMessage) (provider : Provider)

/-- The tasks and the reply channel, whose entries say which task sent them. -/
structure Handling where
  handlers : List Handler
  replies : List (Nat × ProxyMessage)

namespace Handling

def empty : Handling := ⟨[], []⟩

inductive Action
  | received (message : ServerMessage)
  | handled (index : Nat) (provider : Provider)

/-- What `handle_message` puts on the reply channel. -/
def sent : Outcome (Except Error ProxyMessage) -> List ProxyMessage
  | .returned (.ok response) => [response]
  | _ => []

/-- The relay sends a message, or a task runs to its end. -/
def step (service : ProxyService) (codec : Codec) (handling : Handling) :
    Action -> Option Handling
  | .received message =>
      some { handling with handlers := handling.handlers ++ [.received message] }
  | .handled index provider =>
      match handling.handlers[index]? with
      | some (.received message) =>
          some { handlers := handling.handlers.set index (.ended message provider)
                 replies := handling.replies ++
                   (sent (service.handleMessageInner codec provider message)).map (index, ·) }
      | _ => none

/-- The answers of one task. -/
def answers (index : Nat) (handling : Handling) : List ProxyMessage :=
  handling.replies.filterMap fun entry => if entry.1 = index then some entry.2 else none

end Handling

/-! ## One answer of the right kind -/

/-- The response kind that belongs to a payload kind, or an error. -/
def belongs : ServerMessagePayload -> ProxyMessagePayload -> Bool
  | _, .error _ => true
  | .invoke _, .invokeProxyResponse _ => true
  | .createCells _, .createCellsResponse _ => true
  | .extractData _, .extractDataResponse _ => true
  | .getConfigSchema, .getConfigSchemaResponse _ => true
  | .getSupportedQueryTypes, .getSupportedQueryTypesResponse _ => true
  | _, _ => false

/-- The answers are what the message asks for: exactly one with its operation
ID and a payload of the right kind, or none if it has no operation ID. -/
def Answered (message : ServerMessage) (answers : List ProxyMessage) : Prop :=
  match message.opId with
  | some opId => Exists fun response => answers = [response] ∧ response.opId = some opId ∧
      belongs message.payload response.payload = true
  | none => answers = []

/-- The message asks a loaded provider of a known data source for its query
types, and the bytes it returns do not decode. -/
def Undecodable (service : ProxyService) (codec : Codec) (provider : Provider)
    (message : ServerMessage) : Prop :=
  message.opId.isSome = true ∧ message.protocolVersion = 2 ∧
    message.payload = .getSupportedQueryTypes ∧
    Exists fun dataSource => Exists fun runtime => Exists fun result =>
      service.dataSources.lookup message.dataSourceName = some dataSource ∧
      service.wasmModules.lookup dataSource.providerType = some (.ok runtime) ∧
      provider.getSupportedQueryTypesRaw runtime
        (codec.serializeToVec (.object dataSource.config)) = .ok result ∧
      codec.deserializeFromSlice result = none

variable {service : ProxyService} {codec : Codec} {provider : Provider}
  {message : ServerMessage}

namespace ProxyService

/-- A provider call ends in an answer of the right kind, or it panics because
a list of query types does not decode. -/
theorem callProvider_answers (codec : Codec) (provider : Provider)
    (payload : ServerMessagePayload) (runtime : Runtime) (dataSource : ProxyDataSource)
    (opId : Base64Uuid) :
    (Exists fun response =>
      callProvider codec provider payload runtime dataSource opId = .returned response ∧
        response.opId = some opId ∧ belongs payload response.payload = true) ∨
    (callProvider codec provider payload runtime dataSource opId = .panicked ∧
      payload = .getSupportedQueryTypes ∧
      getSupportedQueryTypes codec provider runtime dataSource.config = .panicked) := by
  cases payload with
  | invoke request =>
      refine Or.inl ⟨_, rfl, ?_⟩
      unfold handleInvokeProxyMessage
      cases invokeProviderV2 codec provider runtime request.data dataSource.config <;>
        exact ⟨rfl, rfl⟩
  | createCells request =>
      refine Or.inl ⟨_, rfl, ?_⟩
      unfold handleCreateCellsProxyMessage
      cases createCells provider runtime request.queryType request.response <;> exact ⟨rfl, rfl⟩
  | extractData request =>
      refine Or.inl ⟨_, rfl, ?_⟩
      unfold handleExtractDataProxyMessage
      cases extractData provider runtime request.response request.mimeType request.query <;>
        exact ⟨rfl, rfl⟩
  | getConfigSchema =>
      refine Or.inl ⟨_, rfl, ?_⟩
      unfold handleConfigSchemaProxyMessage
      cases getConfigSchema provider runtime <;> exact ⟨rfl, rfl⟩
  | getSupportedQueryTypes =>
      unfold callProvider handleSupportedQueryTypes
      cases called : getSupportedQueryTypes codec provider runtime dataSource.config with
      | panicked => exact Or.inr ⟨rfl, rfl, rfl⟩
      | returned result => cases result <;> exact Or.inl ⟨_, rfl, rfl, rfl⟩
  | other debug => exact Or.inl ⟨_, rfl, rfl, rfl⟩

/-- No lookup of a module fails. -/
def Complete (service : ProxyService) : Prop :=
  forall (name : Name) (dataSource : ProxyDataSource),
    service.dataSources.lookup name = some dataSource ->
      (service.wasmModules.lookup dataSource.providerType).isSome = true

theorem init_complete (wasmDir : WasmDir) (dataSources : List ProxyDataSource) (maxRetries : Nat)
    (listenAddress : Option String) (statusCheckInterval : Duration) :
    Complete (init wasmDir dataSources maxRetries listenAddress statusCheckInterval) := by
  intro name dataSource found
  rw [init_wasmModules found]
  rfl

end ProxyService

/-- With everything found, the message is undecodable exactly when it asks for
query types and the binding panics. -/
theorem undecodable_iff {dataSource : ProxyDataSource} {runtime : Runtime}
    (addressed : message.opId.isSome = true) (version : message.protocolVersion = 2)
    (found : service.dataSources.lookup message.dataSourceName = some dataSource)
    (loaded : service.wasmModules.lookup dataSource.providerType = some (.ok runtime)) :
    Undecodable service codec provider message ↔ message.payload = .getSupportedQueryTypes ∧
      getSupportedQueryTypes codec provider runtime dataSource.config = .panicked := by
  rw [getSupportedQueryTypes_panicked_iff]
  constructor
  · rintro ⟨_, _, asks, listed, called, result, listing, calling, answered, undecoded⟩
    rw [found, Option.some.injEq] at listing
    subst listing
    rw [loaded, Option.some.injEq, Except.ok.injEq] at calling
    subst calling
    exact ⟨asks, result, answered, undecoded⟩
  · rintro ⟨asks, result, answered, undecoded⟩
    exact ⟨addressed, version, asks, dataSource, runtime, result, found, loaded, answered,
      undecoded⟩

/-- With everything found, the handler answers what the provider call gives. -/
theorem answered_called_iff {dataSource : ProxyDataSource} {runtime : Runtime} {opId : Base64Uuid}
    (address : message.opId = some opId) (version : message.protocolVersion = 2)
    (found : service.dataSources.lookup message.dataSourceName = some dataSource)
    (loaded : service.wasmModules.lookup dataSource.providerType = some (.ok runtime)) :
    Answered message (Handling.sent (service.handleMessageInner codec provider message)) ↔
      ¬ Undecodable service codec provider message := by
  have inner : service.handleMessageInner codec provider message =
      (ProxyService.callProvider codec provider message.payload runtime dataSource opId).map
        .ok := by
    simp only [ProxyService.handleMessageInner, address, version, found, loaded, ne_eq,
      not_true_eq_false, if_false]
  rw [undecodable_iff (by rw [address]; rfl) version found loaded, inner]
  simp only [Answered, address]
  rcases ProxyService.callProvider_answers codec provider message.payload runtime dataSource opId
    with ⟨response, called, addressed, kind⟩ | ⟨called, asks, panicked⟩
  · rw [called]
    refine ⟨fun _ undecodable => ?_, fun _ => ⟨response, rfl, addressed, kind⟩⟩
    simp only [undecodable.1, ProxyService.callProvider, ProxyService.handleSupportedQueryTypes,
      undecodable.2, Outcome.map, reduceCtorEq] at called
  · rw [called]
    refine ⟨?_, fun sound => absurd ⟨asks, panicked⟩ sound⟩
    rintro ⟨response, impossible, _⟩
    cases impossible

/-- A message is answered as it should unless its provider lists query types
that do not decode. -/
theorem answered_sent_iff (complete : service.Complete) :
    Answered message (Handling.sent (service.handleMessageInner codec provider message)) ↔
      ¬ Undecodable service codec provider message := by
  cases address : message.opId with
  | none => simp [Answered, Undecodable, ProxyService.handleMessageInner, Handling.sent, address]
  | some opId =>
      by_cases version : message.protocolVersion ≠ 2
      · simp [Answered, Undecodable, ProxyService.handleMessageInner, Handling.sent, address,
          version, ProxyMessage.newErrorResponse, belongs]
      rw [ne_eq, not_not] at version
      cases found : service.dataSources.lookup message.dataSourceName with
      | none =>
          simp [Answered, Undecodable, ProxyService.handleMessageInner, Handling.sent, address,
            version, found, ProxyMessage.newErrorResponse, belongs]
      | some dataSource =>
          rcases Option.isSome_iff_exists.mp (complete _ _ found) with ⟨wasmModule, loaded⟩
          cases wasmModule with
          | error error =>
              simp [Answered, Undecodable, ProxyService.handleMessageInner, Handling.sent, address,
                version, found, loaded, ProxyMessage.newErrorResponse, belongs]
          | ok runtime => exact answered_called_iff address version found loaded

/-! ## Every run -/

/-- The answers that the handler of one task has sent. -/
def Handler.answers (service : ProxyService) (codec : Codec) : Handler -> List ProxyMessage
  | .received _ => []
  | .ended message provider =>
      Handling.sent (service.handleMessageInner codec provider message)

namespace Handling

variable {handling after : Handling} {action : Action}

/-- The reply channel holds what the ended tasks have sent and nothing else. -/
def Accounted (service : ProxyService) (codec : Codec) (handling : Handling) : Prop :=
  forall index, answers index handling =
    handling.handlers[index]?.elim [] (Handler.answers service codec)

theorem answers_append (index there : Nat) (messages : List ProxyMessage) (handlers : List Handler)
    (replies : List (Nat × ProxyMessage)) :
    answers there ⟨handlers, replies ++ messages.map (index, ·)⟩ =
      answers there ⟨handlers, replies⟩ ++ if index = there then messages else [] := by
  simp only [answers, List.filterMap_append, List.filterMap_map]
  by_cases same : index = there
  · simp [same]
  · simp [same]

theorem step_accounted (taken : step service codec handling action = some after)
    (accounted : Accounted service codec handling) : Accounted service codec after := by
  intro there
  cases action with
  | received message =>
      simp only [step, Option.some.injEq] at taken
      subst taken
      refine (accounted there).trans ?_
      cases located : (handling.handlers ++ [.received message])[there]? with
      | none =>
          have beyond := List.getElem?_eq_none_iff.mp located
          rw [List.length_append] at beyond
          rw [List.getElem?_eq_none_iff.mpr (by omega)]
      | some found =>
          rcases getElem?_append_cases located with ⟨last, new⟩ | ⟨_, old⟩
          · rw [last, List.getElem?_eq_none_iff.mpr (Nat.le_refl _), new]
            rfl
          · rw [old]
  | handled index provider =>
      cases present : handling.handlers[index]? with
      | none => simp [step, present] at taken
      | some handler =>
          cases handler with
          | ended message before => simp [step, present] at taken
          | received message =>
              simp only [step, present, Option.some.injEq] at taken
              subst taken
              have before := accounted there
              rw [answers_append]
              by_cases same : index = there
              · subst same
                rw [present] at before
                rw [getElem?_set_here present, if_pos rfl]
                exact congrArg (· ++ _) before
              · rw [getElem?_set_there (Ne.symm same), if_neg same, List.append_nil]
                exact before

theorem accounted_of_reaches
    (reached : Reaches (step service codec) anyStep empty handling) :
    Accounted service codec handling :=
  reached.invariant (fun _ => rfl) fun _ _ _ _ accounted _ taken => step_accounted taken accounted

/-- One data source whose provider answers every call with a single byte, and
codecs that take any bytes for a request and none for a list of query types. -/
def plainSource : ProxyDataSource := ⟨"metrics", "prometheus", ⟨"{}"⟩, none⟩

def plainDir : WasmDir := ⟨fun _ => .ok [0], fun wasm => .ok ⟨wasm⟩⟩

def plainCodec : Codec where
  statusQueryType := "status"
  statusMimeType := "application/json"
  requestFromSlice _ := .ok ⟨"status", ⟨[], "application/json"⟩, .null, none⟩
  requestToVecNamed _ := .ok []
  responseFromSlice _ := .ok (.ok ⟨[], "application/json"⟩)
  serializeToVec _ := []
  deserializeFromSlice _ := none
  deserializeMsgpack _ := .error "unexpected end of file"
  serializeMsgpack _ := []
  debugPayload _ := ""

def plainProvider : Provider where
  invoke2Raw _ _ := .ok [0]
  createCells _ _ _ := .ok (.ok [])
  extractData _ response _ _ := .ok (.ok response)
  getConfigSchema _ := .ok ⟨"[]"⟩
  getSupportedQueryTypesRaw _ _ := .ok [0]

/-- In every run of the tasks of a service built by `init`, a task that has not
ended has sent nothing, and one that has ended has answered its message as it
should, exactly unless its provider listed query types that do not decode. -/
theorem answered_iff_decodable (wasmDir : WasmDir) (dataSources : List ProxyDataSource)
    (maxRetries : Nat) (listenAddress : Option String) (statusCheckInterval : Duration)
    (codec : Codec) (handling : Handling)
    (reached : Reaches (step (.init wasmDir dataSources maxRetries listenAddress
      statusCheckInterval) codec) anyStep empty handling) (index : Nat) (handler : Handler)
    (present : handling.handlers[index]? = some handler) :
    match handler with
    | .received _ => answers index handling = []
    | .ended message provider => Answered message (answers index handling) ↔
        ¬ Undecodable (.init wasmDir dataSources maxRetries listenAddress statusCheckInterval)
          codec provider message := by
  have accounted := accounted_of_reaches reached index
  rw [present] at accounted
  cases handler with
  | received message => exact accounted
  | ended message provider =>
      simp only [accounted]
      exact answered_sent_iff (ProxyService.init_complete _ _ _ _ _)

/-- The relay asks for the schema of the data source, and its provider is called. -/
theorem answered_iff_decodable_schema :
    Answered ⟨some 7, "metrics", 2, .getConfigSchema⟩
      [.newConfigSchemaResponse ⟨"[]"⟩ 7] := by
  have answered := (answered_iff_decodable plainDir [plainSource] 3 none 60 plainCodec _
    (reaches_get_run [.received ⟨some 7, "metrics", 2, .getConfigSchema⟩, .handled 0 plainProvider]
      rfl) 0 (.ended ⟨some 7, "metrics", 2, .getConfigSchema⟩ plainProvider) rfl).mpr
  exact answered fun undecodable => by cases undecodable.2.2.1

/-- The provider returns one byte for its query types, which is no list. -/
theorem undecodable_unanswered :
    ¬ forall (wasmDir : WasmDir) (dataSources : List ProxyDataSource) (maxRetries : Nat)
        (listenAddress : Option String) (statusCheckInterval : Duration) (codec : Codec)
        (handling : Handling),
      Reaches (step (.init wasmDir dataSources maxRetries listenAddress statusCheckInterval) codec)
        anyStep empty handling ->
      forall index message provider,
        handling.handlers[index]? = some (.ended message provider) ->
          Answered message (answers index handling) := by
  intro claim
  have answered := claim plainDir [plainSource] 3 none 60 plainCodec _
    (reaches_get_run [.received ⟨some 7, "metrics", 2, .getSupportedQueryTypes⟩,
      .handled 0 plainProvider] rfl) 0 ⟨some 7, "metrics", 2, .getSupportedQueryTypes⟩
      plainProvider rfl
  rcases answered with ⟨response, impossible, _⟩
  cases impossible

end Handling

end Service
end Fpd
