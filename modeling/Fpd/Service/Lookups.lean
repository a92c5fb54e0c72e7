import Fpd.Service.Rounds

namespace Fpd
namespace Service

open Async

/-!
# The lookups that must not fail

Three places of the service take a value for granted: the module of a data
source's provider, the data source of a check, and the answer to a status
request.  What makes them safe is set up elsewhere, by `init` for the modules
and by every tick for the checks, and it holds in all runs.
-/

variable {service : ProxyService} {codec : Codec} {provider : Provider}

/-- A request to a provider has an operation ID, so it is answered. -/
theorem ProxyService.Complete.answers (complete : service.Complete) (request : Bytes)
    (dataSourceName : Name) (opId : Base64Uuid) :
    Exists fun response => service.handleMessageInner codec provider
      (.newInvokeProxyRequest request dataSourceName 2 opId) = .returned (.ok response) := by
  unfold handleMessageInner
  simp only [ServerMessage.newInvokeProxyRequest, ne_eq, not_true_eq_false, if_false]
  cases found : service.dataSources.lookup dataSourceName with
  | none => exact ⟨_, rfl⟩
  | some dataSource =>
      have present := complete dataSourceName dataSource found
      rcases Option.isSome_iff_exists.mp present with ⟨loaded, loads⟩
      cases loaded with
      | error error => simp only [loads]; exact ⟨_, rfl⟩
      | ok runtime => simp only [loads]; exact ⟨_, rfl⟩

/-- The encoding of the status request is all that can make a check panic. -/
theorem ProxyService.Complete.checks (complete : service.Complete) {dataSourceName : Name}
    {opId : Base64Uuid}
    (lost : service.checkProviderStatusV2 codec provider dataSourceName opId = .panicked) :
    statusRequestV2 codec = .panicked := by
  unfold checkProviderStatusV2 at lost
  cases encoded : statusRequestV2 codec with
  | panicked => rfl
  | returned request =>
      have answers : Exists fun response => service.handleMessageInner codec provider
          (.newInvokeProxyRequest request dataSourceName 2 opId) = .returned (.ok response) :=
        complete.answers request dataSourceName opId
      rcases answers with ⟨response, answered⟩
      simp only [encoded, Outcome.bind, answered, reduceCtorEq] at lost

/-- Every check is for a data source of the service, and the task has panicked
only where it could not help it. -/
structure Configured (service : ProxyService) (codec : Codec) (status : Status) : Prop where
  known : status.Known service
  panicked : status.task = .panicked ->
    service.statusCheckInterval = 0 ∨ ProxyService.statusRequestV2 codec = .panicked

theorem Status.Step.configured {shutdown : Broadcast} {status after : Status}
    {action : Status.Action} {messages : List Outgoing} (complete : service.Complete)
    (effect : Status.Step service codec shutdown status action after messages)
    (configured : Configured service codec status) : Configured service codec after := by
  constructor
  · exact effect.known configured.known
  · intro lost
    cases effect with
    | panicked position opId provider pending receiver task rests checked panics =>
        rcases ProxyService.updateDataSource_panicked panics with unknown | lost
        · have member : task ∈ status.task.pending := by
            rw [rests]
            exact List.mem_of_getElem? checked
          have found := configured.known.pending member
          rw [unknown] at found
          cases found
        · exact Or.inr (complete.checks lost)
    | woken => exact configured.panicked lost
    | ticked => cases lost
    | retried => cases lost
    | checked => cases lost
    | notified => cases lost
    | stopped => cases lost

theorem configured_of_reaches {observed : Observed} (complete : service.Complete)
    (reached : Reaches (Observed.step service codec) anyStep .initial observed) :
    Configured service codec observed.status := by
  apply reached.invariant
  · exact ⟨fun name member => (by cases member), fun lost => by cases lost⟩
  · intro before action after _ configured _ taken
    cases Observed.step_spec taken with
    | spawned receiver rests =>
        refine ⟨Status.known_spawned rests configured.known, fun lost => ?_⟩
        by_cases zero : service.statusCheckInterval = 0
        · exact Or.inl zero
        · simp [Status.spawned, zero] at lost
    | taken shutdown action status messages effect => exact effect.configured complete configured

/-- In every run of the daemon no lookup fails: the provider of each data source
has its module, every check is for a data source of the service, and a status
request is answered.  So the status task panics only for an interval without
length or a status request that cannot be encoded. -/
theorem lookups_succeed (wasmDir : WasmDir) (dataSources : List ProxyDataSource)
    (maxRetries : Nat) (listenAddress : Option String) (statusCheckInterval : Duration)
    (codec : Codec) (daemon : Daemon)
    (reached : Reaches (Daemon.step (.init wasmDir dataSources maxRetries listenAddress
      statusCheckInterval) codec) anyStep .initial daemon) :
    let service : ProxyService :=
      .init wasmDir dataSources maxRetries listenAddress statusCheckInterval
    (forall name dataSource, service.dataSources.lookup name = some dataSource ->
      (service.wasmModules.lookup dataSource.providerType).isSome = true) ∧
    (forall task, task ∈ daemon.status.tasks ->
      (service.dataSources.lookup task.name).isSome = true) ∧
    (forall provider request name opId, Exists fun response =>
      service.handleMessageInner codec provider (.newInvokeProxyRequest request name 2 opId) =
        .returned (.ok response)) ∧
    (daemon.status.task = .panicked ->
      statusCheckInterval = 0 ∨ ProxyService.statusRequestV2 codec = .panicked) := by
  have complete := ProxyService.init_complete wasmDir dataSources maxRetries listenAddress
    statusCheckInterval
  rcases Daemon.observed_of_reaches reached with ⟨observed, same, observing⟩
  have configured := configured_of_reaches complete observing
  rw [same] at configured
  refine ⟨complete, fun task member => ?_, fun provider request name opId => ?_,
    configured.panicked⟩
  · exact configured.known task.name (List.mem_map_of_mem member)
  · exact complete.answers request name opId

/-- Of two data sources of one name the later one stays, and its check finds it. -/
theorem lookups_succeed_checking :
    ((ProxyService.init Handling.plainDir [⟨"metrics", "loki", ⟨"{}"⟩, none⟩, Handling.plainSource]
      3 none 60).dataSources.lookup "metrics").isSome = true := by
  have succeed := lookups_succeed Handling.plainDir
    [⟨"metrics", "loki", ⟨"{}"⟩, none⟩, Handling.plainSource] 3 none 60 Handling.plainCodec _
    (reaches_get_run (Daemon.toFirstRound ++ [.status .ticked]) rfl)
  exact succeed.2.1 (.new "metrics" 60 10 (3 / 2)) List.mem_cons_self

end Service
end Fpd
