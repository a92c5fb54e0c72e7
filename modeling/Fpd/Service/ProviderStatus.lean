import Fpd.Service.Isolation

namespace Fpd
namespace Service

open Async Bindings ProxyService

/-!
# The status of a data source

A check sends the status request through the handler of the relay's messages
and looks into the answer.  The provider may fail in its module, in the call, in
the bytes it returns and in what these say, and each of these is reported as an
error of its own.
-/

/-- What `STATUS_REQUEST_V2` encodes. -/
def statusRequest (codec : Codec) : ProviderRequest where
  queryType := codec.statusQueryType
  queryData := ⟨[], codec.statusMimeType⟩
  config := .null
  previousResponse := none

variable {wasmDir : WasmDir} {dataSources : List ProxyDataSource} {maxRetries : Nat}
  {listenAddress : Option String} {statusCheckInterval : Duration} {codec : Codec}
  {provider : Provider} {data : Bytes} {opId : Base64Uuid} {dataSource : ProxyDataSource}

/-- The bytes for the runtime of the data source, if they can be made. -/
def statusBytes (codec : Codec) (dataSource : ProxyDataSource) : Except String Bytes :=
  codec.requestToVecNamed { statusRequest codec with config := .object dataSource.config }

/-- The module of the provider is loaded, and its runtime has answered the
status request. -/
def Gives (wasmDir : WasmDir) (codec : Codec) (provider : Provider)
    (dataSource : ProxyDataSource) (result : Except String Bytes) : Prop :=
  Exists fun runtime => Exists fun request =>
    loadWasmModule wasmDir dataSource.providerType = .ok runtime ∧
      statusBytes codec dataSource = .ok request ∧ provider.invoke2Raw runtime request = result

/-- The status tells whether the provider works, and else the first thing that
failed. -/
structure Reports (wasmDir : WasmDir) (codec : Codec) (provider : Provider)
    (dataSource : ProxyDataSource) (status : DataSourceStatus) : Prop where
  connected : status = .connected ↔ Exists fun bytes => Exists fun blob =>
    Gives wasmDir codec provider dataSource (.ok bytes) ∧
      codec.responseFromSlice bytes = .ok (.ok blob)
  unloaded : forall error, loadWasmModule wasmDir dataSource.providerType = .error error ->
    status = .error error
  unencoded : forall runtime err, loadWasmModule wasmDir dataSource.providerType = .ok runtime ->
    statusBytes codec dataSource = .error err ->
      status = .error (.deserialization ("Error serializing request: " ++ err))
  uninvoked : forall err, Gives wasmDir codec provider dataSource (.error err) ->
    status = .error (.invocation ("Error invoking provider: " ++ err))
  undecoded : forall bytes err, Gives wasmDir codec provider dataSource (.ok bytes) ->
    codec.responseFromSlice bytes = .error err ->
      status = .error (.deserialization ("Error deserializing provider response: " ++ err))
  failed : forall bytes error, Gives wasmDir codec provider dataSource (.ok bytes) ->
    codec.responseFromSlice bytes = .ok (.error error) -> status = .error error

/-- The status that is made of what comes of a request. -/
def statusOfInvocation (codec : Codec) (opId : Base64Uuid) (result : Except Error Bytes) :
    DataSourceStatus :=
  statusOfResponse (statusOfPayload codec (invokeAnswer opId result).payload)

/-- It is enough to know each way to an error, and what is made of the bytes. -/
theorem reports_of_layers {status : DataSourceStatus}
    (unloaded : forall error, loadWasmModule wasmDir dataSource.providerType = .error error ->
      status = .error error)
    (unencoded : forall runtime err, loadWasmModule wasmDir dataSource.providerType = .ok runtime ->
      statusBytes codec dataSource = .error err ->
        status = .error (.deserialization ("Error serializing request: " ++ err)))
    (uninvoked : forall err, Gives wasmDir codec provider dataSource (.error err) ->
      status = .error (.invocation ("Error invoking provider: " ++ err)))
    (answered : forall bytes, Gives wasmDir codec provider dataSource (.ok bytes) ->
      status = statusOfResponse (statusOfPayload codec (.invokeProxyResponse bytes))) :
    Reports wasmDir codec provider dataSource status := by
  have undecoded : forall bytes err, Gives wasmDir codec provider dataSource (.ok bytes) ->
      codec.responseFromSlice bytes = .error err ->
      status = .error (.deserialization ("Error deserializing provider response: " ++ err)) := by
    intro bytes err gives undecoded
    simp only [answered bytes gives, statusOfPayload, undecoded, statusOfResponse]
  have failed : forall bytes error, Gives wasmDir codec provider dataSource (.ok bytes) ->
      codec.responseFromSlice bytes = .ok (.error error) -> status = .error error := by
    intro bytes error gives failed
    simp only [answered bytes gives, statusOfPayload, failed, Except.map, statusOfResponse]
  refine ⟨⟨fun connected => ?_, ?_⟩, unloaded, unencoded, uninvoked, undecoded, failed⟩
  · -- Every other way through the layers ends in an error.
    subst connected
    cases loaded : loadWasmModule wasmDir dataSource.providerType with
    | error error => cases unloaded error loaded
    | ok runtime =>
        cases encoded : statusBytes codec dataSource with
        | error err => cases unencoded runtime err loaded encoded
        | ok request =>
            have gives : Gives wasmDir codec provider dataSource
                (provider.invoke2Raw runtime request) := ⟨runtime, request, loaded, encoded, rfl⟩
            cases called : provider.invoke2Raw runtime request with
            | error err => cases uninvoked err (called ▸ gives)
            | ok bytes =>
                rw [called] at gives
                cases response : codec.responseFromSlice bytes with
                | error err => cases undecoded bytes err gives response
                | ok result =>
                    cases result with
                    | error error => cases failed bytes error gives response
                    | ok blob => exact ⟨bytes, blob, gives, response⟩
  · rintro ⟨bytes, blob, gives, works⟩
    simp only [answered bytes gives, statusOfPayload, works, Except.map, statusOfResponse]

/-! ## The way of the status request -/

theorem injectConfig_statusRequest
    (decoded : codec.requestFromSlice data = .ok (statusRequest codec))
    (dataSource : ProxyDataSource) : injectConfig codec data dataSource.config =
      (statusBytes codec dataSource).mapError fun err =>
        .deserialization ("Error serializing request: " ++ err) := by
  simp only [injectConfig, decoded, statusBytes]
  cases codec.requestToVecNamed { statusRequest codec with config := .object dataSource.config } <;>
    rfl

theorem Gives.invocation {result : Except String Bytes}
    (gives : Gives wasmDir codec provider dataSource result)
    (decoded : codec.requestFromSlice data = .ok (statusRequest codec)) :
    invocation wasmDir codec provider dataSource data = result.mapError invocationError := by
  rcases gives with ⟨runtime, request, loaded, encoded, rfl⟩
  apply invocation_eq loaded
  rw [injectConfig_statusRequest decoded, encoded]
  rfl

theorem reports_statusOfInvocation (opId : Base64Uuid)
    (decoded : codec.requestFromSlice data = .ok (statusRequest codec)) :
    Reports wasmDir codec provider dataSource (statusOfInvocation codec opId
      (invocation wasmDir codec provider dataSource data)) := by
  apply reports_of_layers
  · intro error unloaded
    rw [invocation_unasked (by rw [unloaded]; rfl)]
    rfl
  · intro runtime err loaded unencoded
    rw [invocation_unasked (by
      rw [loaded, injectConfig_statusRequest decoded, unencoded]; rfl)]
    rfl
  · intro err gives
    rw [gives.invocation decoded]
    rfl
  · intro bytes gives
    rw [gives.invocation decoded]
    rfl

/-- A check of a configured data source comes to an end. -/
theorem checkProviderStatusV2_eq {name : Name}
    (encoded : codec.requestToVecNamed (statusRequest codec) = .ok data)
    (configured : lastNamed dataSources name = some dataSource) :
    (ProxyService.init wasmDir dataSources maxRetries listenAddress
      statusCheckInterval).checkProviderStatusV2 codec provider name opId =
        .returned (statusOfPayload codec (invokeAnswer opId
          (invocation wasmDir codec provider dataSource data)).payload) := by
  have request : statusRequestV2 codec = .returned data := by
    unfold statusRequest at encoded
    simp only [statusRequestV2, encoded]
  have answered := @handleMessageInner_invoke wasmDir dataSources maxRetries listenAddress
    statusCheckInterval codec provider (.newInvokeProxyRequest data name 2 opId) data opId
    rfl rfl rfl
  have named : lastNamed dataSources (ServerMessage.newInvokeProxyRequest data name 2
    opId).dataSourceName = some dataSource := configured
  simp only [checkProviderStatusV2, request, answered, named, Outcome.bind, Option.elim_some]

/-- The check of a configured data source stores its status, which is connected
if and only if the provider works, and otherwise the first error on the way. -/
theorem status_reportsProvider (wasmDir : WasmDir) (dataSources : List ProxyDataSource)
    (maxRetries : Nat) (listenAddress : Option String) (statusCheckInterval : Duration)
    (codec : Codec) (data : Bytes)
    (encoded : codec.requestToVecNamed (statusRequest codec) = .ok data)
    (decoded : codec.requestFromSlice data = .ok (statusRequest codec)) (shutdown : Broadcast)
    (status : Status) (pending : List DataSourceCheckTask) (receiver position : Nat)
    (task : DataSourceCheckTask) (opId : Base64Uuid) (provider : Provider)
    (dataSource : ProxyDataSource) (rests : status.task = .updating pending receiver)
    (due : pending[position]? = some task)
    (configured : lastNamed dataSources task.name = some dataSource) :
    Exists fun after => Exists fun update =>
      status.step (.init wasmDir dataSources maxRetries listenAddress statusCheckInterval) codec
        shutdown (.checked position opId provider) = some (after, []) ∧
      after.dataSourcesState.lookup task.name = some update ∧
      Reports wasmDir codec provider dataSource update.status := by
  have found := @lookup_init wasmDir dataSources maxRetries listenAddress statusCheckInterval
    task.name
  rw [configured] at found
  have checked := @checkProviderStatusV2_eq wasmDir _ maxRetries listenAddress statusCheckInterval
    _ provider _ opId _ _ encoded configured
  have reports := @reports_statusOfInvocation wasmDir codec provider data dataSource opId decoded
  simp only [Status.step, rests, due, updateDataSource, found, checked, Outcome.map]
  exact ⟨_, _, rfl, AList.lookup_insert _, reports⟩

def respondingProvider : Provider :=
  { Handling.plainProvider with invoke2Raw := fun _ _ => .ok responseBytes }

/-- The only data source, whose provider has answered. -/
theorem status_reportsProvider_metrics :
    Exists fun after => Exists fun update =>
      Status.step (.init Handling.plainDir [Handling.plainSource] 3 none 60) configCodec .new
        ⟨.updating [.new "metrics" 60 10 (3 / 2)] 0, ∅, [], []⟩
        (.checked 0 7 respondingProvider) = some (after, []) ∧
      after.dataSourcesState.lookup "metrics" = some update ∧
      Reports Handling.plainDir configCodec respondingProvider Handling.plainSource
        update.status :=
  status_reportsProvider Handling.plainDir [Handling.plainSource] 3 none 60 configCodec
    (namedBytes 0xc0) rfl rfl .new _ _ 0 0 (.new "metrics" 60 10 (3 / 2)) 7 respondingProvider _ rfl
    rfl rfl

end Service
end Fpd
