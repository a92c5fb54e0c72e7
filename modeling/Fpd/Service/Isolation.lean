import Fpd.Service.Notification

namespace Fpd
namespace Service

open Bindings

/-!
# Provider calls for the relay

An `Invoke` message names a data source and carries an encoded request.  The
daemon decodes it, puts the configuration of the data source in and encodes it
again, so the relay has a say in the rest of the request only.

The runtime is not part of the daemon.  Which call a message leads to shows in
the answer, which depends on what the runtime gives for this one call.
-/

/-- What comes of a request to the provider of a data source: the bytes of the
provider, or the first error on the way. -/
def invocation (wasmDir : WasmDir) (codec : Codec) (provider : Provider)
    (dataSource : ProxyDataSource) (data : Bytes) : Except Error Bytes :=
  (loadWasmModule wasmDir dataSource.providerType).bind fun runtime =>
    invokeProviderV2 codec provider runtime data dataSource.config

/-- The answer that carries the bytes or the error to the relay. -/
def invokeAnswer (opId : Base64Uuid) : Except Error Bytes -> ProxyMessage
  | .ok response => .newInvokeProxyResponse response opId
  | .error error => .newErrorResponse error opId

/-- A message is answered with what the runtime gives for these bytes. -/
def Calls (service : ProxyService) (codec : Codec) (message : ServerMessage) (runtime : Runtime)
    (request : Bytes) : Prop :=
  Exists fun opId => message.opId = some opId ∧ forall provider : Provider,
    service.handleMessageInner codec provider message = .returned (.ok (invokeAnswer opId
      ((provider.invoke2Raw runtime request).mapError invocationError)))

variable {wasmDir : WasmDir} {dataSources : List ProxyDataSource} {maxRetries : Nat}
  {listenAddress : Option String} {statusCheckInterval : Duration} {codec : Codec}
  {provider : Provider} {message : ServerMessage} {data : Bytes} {opId : Base64Uuid}
  {dataSource : ProxyDataSource} {runtime : Runtime}

/-! ## The way of a message -/

/-- An `Invoke` message is answered with what comes of its request to the data
source of that name. -/
theorem handleMessageInner_invoke (asks : message.payload = .invoke ⟨data⟩)
    (version : message.protocolVersion = 2) (address : message.opId = some opId) :
    (ProxyService.init wasmDir dataSources maxRetries listenAddress
      statusCheckInterval).handleMessageInner codec provider message = .returned (.ok
        ((lastNamed dataSources message.dataSourceName).elim (.newErrorResponse .notFound opId)
          fun dataSource =>
            invokeAnswer opId (invocation wasmDir codec provider dataSource data))) := by
  have found := @lookup_init wasmDir dataSources maxRetries listenAddress statusCheckInterval
    message.dataSourceName
  unfold ProxyService.handleMessageInner
  simp only [address, version, ne_eq, not_true_eq_false, if_false]
  cases named : lastNamed dataSources message.dataSourceName with
  | none =>
      rw [named] at found
      simp only [found, Option.elim_none]
  | some dataSource =>
      rw [named] at found
      have loaded := init_wasmModules found
      simp only [found, loaded, Option.elim_some, invocation]
      cases loadWasmModule wasmDir dataSource.providerType with
      | error error => rfl
      | ok runtime =>
          simp only [Except.bind, asks, ProxyService.callProvider,
            ProxyService.handleInvokeProxyMessage, Outcome.map]
          cases invokeProviderV2 codec provider runtime data dataSource.config <;> rfl

/-- The request that the runtime is given, if the module is there and the
request can be encoded with the configuration. -/
theorem invocation_eq {request : Bytes}
    (loaded : loadWasmModule wasmDir dataSource.providerType = .ok runtime)
    (injected : injectConfig codec data dataSource.config = .ok request) :
    invocation wasmDir codec provider dataSource data =
      (provider.invoke2Raw runtime request).mapError invocationError := by
  simp only [invocation, loaded, Except.bind, invokeProviderV2, injected]

/-- Otherwise the provider is not asked. -/
theorem invocation_unasked {error : Error}
    (failed : (loadWasmModule wasmDir dataSource.providerType).bind
      (fun _ => injectConfig codec data dataSource.config) = .error error) :
    invocation wasmDir codec provider dataSource data = .error error := by
  unfold invocation
  cases loaded : loadWasmModule wasmDir dataSource.providerType with
  | error unloaded => rwa [loaded] at failed
  | ok runtime =>
      rw [loaded] at failed
      simp only [Except.bind] at failed
      simp only [Except.bind, invokeProviderV2, failed]

/-- The configuration in a request makes no difference to what the runtime is
given. -/
theorem injectConfig_congr {other : Bytes} {request : ProviderRequest} {config : Value}
    (decoded : codec.requestFromSlice data = .ok request)
    (alike : codec.requestFromSlice other = .ok { request with config := config }) (map : Map) :
    injectConfig codec other map = injectConfig codec data map := by
  simp only [injectConfig, decoded, alike]

/-- The runtime is given the request with the configuration of the data source. -/
theorem injectConfig_config {bytes : Bytes} {map : Map}
    (decodes : forall request bytes, codec.requestToVecNamed request = .ok bytes ->
      codec.requestFromSlice bytes = .ok request)
    (injected : injectConfig codec data map = .ok bytes) :
    Exists fun request => codec.requestFromSlice data = .ok request ∧
      codec.requestFromSlice bytes = .ok { request with config := .object map } := by
  unfold injectConfig at injected
  cases decoded : codec.requestFromSlice data with
  | error err => simp only [decoded, reduceCtorEq] at injected
  | ok request =>
      simp only [decoded] at injected
      cases encoded : codec.requestToVecNamed { request with config := .object map } with
      | error err => simp only [encoded, reduceCtorEq] at injected
      | ok encoding =>
          simp only [encoded, Except.ok.injEq] at injected
          exact ⟨request, rfl, injected ▸ decodes _ _ encoded⟩

/-! ## The call of a message -/

/-- A provider that gives itself away when it gets this call. -/
def revealing (runtime : Runtime) (request : Bytes) : Provider :=
  { Handling.plainProvider with
    invoke2Raw := fun asked given =>
      if asked = runtime ∧ given = request then .ok [1] else .ok [0] }

theorem invokeAnswer_ok_inj {response other : Bytes}
    (same : invokeAnswer opId (.ok response) = invokeAnswer opId (.ok other)) :
    response = other := by
  simpa [invokeAnswer, ProxyMessage.newInvokeProxyResponse] using same

/-- The answer to a message gives away at most one call. -/
theorem Calls.unique {service : ProxyService} {other : Runtime} {request given : Bytes}
    (calls : Calls service codec message runtime request)
    (calling : Calls service codec message other given) : other = runtime ∧ given = request := by
  rcases calls with ⟨opId, address, answers⟩
  rcases calling with ⟨_, address', answers'⟩
  rw [address, Option.some.injEq] at address'
  subst address'
  have same := (answers (revealing runtime request)).symm.trans (answers' _)
  simp only [Outcome.returned.injEq, Except.ok.injEq, revealing, and_self, if_true] at same
  by_contra differ
  rw [if_neg differ] at same
  cases invokeAnswer_ok_inj same

/-- An answer that is the same for all providers gives away none. -/
theorem not_calls_of_forall_eq {service : ProxyService}
    (unasked : forall provider other : Provider,
      service.handleMessageInner codec provider message =
        service.handleMessageInner codec other message) (request : Bytes) :
    ¬ Calls service codec message runtime request := by
  rintro ⟨opId, _, answers⟩
  have same := (answers (revealing runtime request)).symm.trans
    ((unasked _ _).trans (answers Handling.plainProvider))
  simp only [Outcome.returned.injEq, Except.ok.injEq, revealing, and_self, if_true] at same
  cases invokeAnswer_ok_inj same

/-! ## Two messages and two services -/

/-- Two messages about one data source whose requests differ in their
configuration at most. -/
structure DifferInConfig (codec : Codec) (first second : ServerMessage) : Prop where
  version : first.protocolVersion = 2 ∧ second.protocolVersion = 2
  dataSourceName : second.dataSourceName = first.dataSourceName
  opId : second.opId = first.opId
  requests : Exists fun data => Exists fun other => Exists fun request => Exists fun config =>
    first.payload = .invoke ⟨data⟩ ∧ second.payload = .invoke ⟨other⟩ ∧
      codec.requestFromSlice data = .ok request ∧
      codec.requestFromSlice other = .ok { request with config := config }

/-- The configurations of data sources with other names may have changed. -/
def ReconfiguredElsewhere (name : Name) : List ProxyDataSource -> List ProxyDataSource -> Prop :=
  List.Forall₂ fun dataSource other => other = dataSource ∨
    dataSource.name ≠ name ∧ Exists fun config => other = { dataSource with config := config }

theorem lastNamed_reconfigured {name : Name} {others : List ProxyDataSource}
    (elsewhere : ReconfiguredElsewhere name dataSources others) :
    lastNamed others name = lastNamed dataSources name := by
  have reversed := List.forall₂_reverse_iff.mpr elsewhere
  unfold lastNamed
  generalize dataSources.reverse = sources, others.reverse = configured at reversed
  induction reversed with
  | nil => rfl
  | cons head _ inductionHypothesis =>
      rw [List.find?_cons, List.find?_cons, inductionHypothesis]
      rcases head with rfl | ⟨differ, config, rfl⟩
      · rfl
      · simp only [decide_eq_false differ]

/-- What the relay has no choice in. -/
structure CannotConfigure (wasmDir : WasmDir) (dataSources : List ProxyDataSource) (codec : Codec)
    (service other : ProxyService) (first second : ServerMessage) : Prop where
  answers : forall provider, other.handleMessageInner codec provider second =
    service.handleMessageInner codec provider first
  calls : forall runtime request, Calls other codec second runtime request ↔
    Calls service codec first runtime request
  configured : forall runtime bytes, Calls service codec first runtime bytes ->
    Exists fun dataSource => Exists fun request =>
      lastNamed dataSources first.dataSourceName = some dataSource ∧
        loadWasmModule wasmDir dataSource.providerType = .ok runtime ∧
        codec.requestFromSlice bytes = .ok request ∧ request.config = .object dataSource.config
  reached : forall data opId dataSource runtime bytes, first.payload = .invoke ⟨data⟩ ->
    first.opId = some opId -> lastNamed dataSources first.dataSourceName = some dataSource ->
    loadWasmModule wasmDir dataSource.providerType = .ok runtime ->
    injectConfig codec data dataSource.config = .ok bytes ->
    Calls service codec first runtime bytes

/-- The module and the request are all that it takes to be called. -/
theorem calls_of_injected {bytes : Bytes} (asks : message.payload = .invoke ⟨data⟩)
    (version : message.protocolVersion = 2) (address : message.opId = some opId)
    (named : lastNamed dataSources message.dataSourceName = some dataSource)
    (loaded : loadWasmModule wasmDir dataSource.providerType = .ok runtime)
    (injected : injectConfig codec data dataSource.config = .ok bytes) :
    Calls (.init wasmDir dataSources maxRetries listenAddress statusCheckInterval) codec message
      runtime bytes := by
  refine ⟨opId, address, fun provider => ?_⟩
  rw [handleMessageInner_invoke asks version address, named, Option.elim_some,
    invocation_eq loaded injected]

/-- A message that calls a runtime has found it by the name of the data source,
and has had the configuration of the data source put in. -/
theorem configured_of_calls {request : Bytes} (asks : message.payload = .invoke ⟨data⟩)
    (version : message.protocolVersion = 2)
    (decodes : forall request bytes, codec.requestToVecNamed request = .ok bytes ->
      codec.requestFromSlice bytes = .ok request)
    (calls : Calls (.init wasmDir dataSources maxRetries listenAddress statusCheckInterval) codec
      message runtime request) :
    Exists fun dataSource => Exists fun given =>
      lastNamed dataSources message.dataSourceName = some dataSource ∧
        loadWasmModule wasmDir dataSource.providerType = .ok runtime ∧
        codec.requestFromSlice request = .ok given ∧ given.config = .object dataSource.config := by
  have address := calls
  rcases address with ⟨opId, address, _⟩
  have answered := fun provider => @handleMessageInner_invoke wasmDir dataSources maxRetries
    listenAddress statusCheckInterval codec provider message data opId asks version address
  cases named : lastNamed dataSources message.dataSourceName with
  | none =>
      refine absurd calls (not_calls_of_forall_eq (fun provider other => ?_) request)
      rw [answered, answered, named, Option.elim_none, Option.elim_none]
  | some dataSource =>
      cases routed : (loadWasmModule wasmDir dataSource.providerType).bind
          (fun _ => injectConfig codec data dataSource.config) with
      | error error =>
          refine absurd calls (not_calls_of_forall_eq (fun provider other => ?_) request)
          rw [answered, answered, named, Option.elim_some, Option.elim_some,
            invocation_unasked routed, invocation_unasked routed]
      | ok bytes =>
          cases loaded : loadWasmModule wasmDir dataSource.providerType with
          | error error =>
              rw [loaded] at routed
              cases routed
          | ok called =>
              rw [loaded] at routed
              rcases (calls_of_injected asks version address named loaded routed).unique calls
                with ⟨rfl, rfl⟩
              rcases injectConfig_config decodes routed with ⟨given, _, decoded⟩
              exact ⟨dataSource, _, rfl, loaded, decoded, rfl⟩

/-- The relay cannot choose the configuration that a provider is called with,
and neither does the configuration of any other data source matter. -/
theorem relay_cannotConfigure (wasmDir : WasmDir) (dataSources others : List ProxyDataSource)
    (maxRetries : Nat) (listenAddress : Option String) (statusCheckInterval : Duration)
    (codec : Codec) (first second : ServerMessage)
    (decodes : forall request bytes, codec.requestToVecNamed request = .ok bytes ->
      codec.requestFromSlice bytes = .ok request)
    (differ : DifferInConfig codec first second)
    (elsewhere : ReconfiguredElsewhere first.dataSourceName dataSources others) :
    CannotConfigure wasmDir dataSources codec
      (.init wasmDir dataSources maxRetries listenAddress statusCheckInterval)
      (.init wasmDir others maxRetries listenAddress statusCheckInterval) first second := by
  rcases differ with ⟨⟨version, version'⟩, same, address, data, other, request, config, asks, asks',
    decoded, alike⟩
  have answers : forall provider, (ProxyService.init wasmDir others maxRetries listenAddress
      statusCheckInterval).handleMessageInner codec provider second =
        (ProxyService.init wasmDir dataSources maxRetries listenAddress
          statusCheckInterval).handleMessageInner codec provider first := by
    intro provider
    cases addressed : first.opId with
    | none => simp only [ProxyService.handleMessageInner, address, addressed]
    | some opId =>
        rw [handleMessageInner_invoke asks version addressed,
          handleMessageInner_invoke asks' version' (address.trans addressed), same,
          lastNamed_reconfigured elsewhere]
        simp only [invocation, invokeProviderV2, injectConfig_congr decoded alike]
  refine ⟨answers, fun runtime request => ?_, fun runtime bytes =>
    configured_of_calls asks version decodes, ?_⟩
  · simp only [Calls, answers, address]
  · intro given opId dataSource runtime bytes asks addressed named loaded injected
    exact calls_of_injected asks version addressed named loaded injected

/-- Three requests that differ in their configuration, with the byte that stands
for it in MessagePack. -/
def configRequest (config : Value) : ProviderRequest :=
  ⟨"status", ⟨[], "application/json"⟩, config, none⟩

def configs : List (UInt8 × Value) :=
  [(0xc0, .null), (0xc3, ⟨"true"⟩), (0x80, .object ⟨"{}"⟩)]

/-- "status" and "application/json" -/
def statusText : Bytes :=
  [0xa6, 115, 116, 97, 116, 117, 115]

def mimeTypeText : Bytes :=
  [0xb0, 97, 112, 112, 108, 105, 99, 97, 116, 105, 111, 110, 47, 106, 115, 111, 110]

/-- A request as `to_vec` writes it, an array of its fields, and as
`to_vec_named` does, which names "queryType", "queryData" with its "data" and
"mimeType", "config" and "previousResponse". -/
def arrayBytes (config : UInt8) : Bytes :=
  0x94 :: statusText ++ [0x92, 0xc4, 0] ++ mimeTypeText ++ [config, 0xc0]

def namedBytes (config : UInt8) : Bytes :=
  [0x84, 0xa9, 113, 117, 101, 114, 121, 84, 121, 112, 101] ++ statusText ++
    [0xa9, 113, 117, 101, 114, 121, 68, 97, 116, 97, 0x82, 0xa4, 100, 97, 116, 97, 0xc4, 0, 0xa8,
      109, 105, 109, 101, 84, 121, 112, 101] ++ mimeTypeText ++
    [0xa6, 99, 111, 110, 102, 105, 103, config, 0xb0, 112, 114, 101, 118, 105, 111, 117, 115, 82,
      101, 115, 112, 111, 110, 115, 101, 0xc0]

/-- A result that is "Ok", as an array. -/
def responseBytes : Bytes :=
  [0x81, 0xa2, 79, 107, 0x92, 0xc4, 0] ++ mimeTypeText

/-- Both forms of a request are read, and one of them is written. -/
def configCodec : Codec :=
  { Handling.plainCodec with
    requestFromSlice := fun bytes =>
      match configs.find? fun entry => bytes = arrayBytes entry.1 ∨ bytes = namedBytes entry.1 with
      | some entry => .ok (configRequest entry.2)
      | none => .error "invalid type"
    requestToVecNamed := fun request =>
      match configs.find? fun entry => request = configRequest entry.2 with
      | some entry => .ok (namedBytes entry.1)
      | none => .error "depth limit exceeded"
    responseFromSlice := fun bytes =>
      if bytes = responseBytes then .ok (.ok ⟨[], "application/json"⟩) else .error "invalid type" }

theorem configCodec_decodes (request : ProviderRequest) (bytes : Bytes)
    (encoded : configCodec.requestToVecNamed request = .ok bytes) :
    configCodec.requestFromSlice bytes = .ok request := by
  have reads : forall entry, entry ∈ configs ->
      configCodec.requestFromSlice (namedBytes entry.1) = .ok (configRequest entry.2) := by
    decide
  simp only [configCodec] at encoded
  split at encoded
  · next entry found =>
      cases encoded
      have same := List.find?_some found
      rw [decide_eq_true_eq] at same
      rw [same]
      exact reads entry (List.mem_of_find?_eq_some found)
  · cases encoded

/-- The relay asks twice, and meanwhile another data source is configured anew. -/
theorem relay_cannotConfigure_metrics :
    CannotConfigure Handling.plainDir
      [Handling.plainSource, ⟨"logs", "loki", ⟨"{}"⟩, none⟩] configCodec
      (.init Handling.plainDir [Handling.plainSource, ⟨"logs", "loki", ⟨"{}"⟩, none⟩] 3 none 60)
      (.init Handling.plainDir [Handling.plainSource, ⟨"logs", "loki", ⟨"\x7b\"a\":1\x7d"⟩, none⟩]
        3 none 60)
      ⟨some 7, "metrics", 2, .invoke ⟨arrayBytes 0xc0⟩⟩
      ⟨some 7, "metrics", 2, .invoke ⟨arrayBytes 0xc3⟩⟩ :=
  relay_cannotConfigure Handling.plainDir _ _ 3 none 60 configCodec _ _ configCodec_decodes
    ⟨⟨rfl, rfl⟩, rfl, rfl, _, _, configRequest .null, ⟨"true"⟩, rfl, rfl, rfl, rfl⟩
    (.cons (Or.inl rfl) (.cons (Or.inr ⟨by decide, _, rfl⟩) .nil))

end Service
end Fpd
