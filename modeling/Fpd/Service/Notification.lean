import Fpd.Service.Rounds

namespace Fpd
namespace Service

open Async ProxyService

/-!
# What the relay is told

A notification is a snapshot of the map that the checks fill.  It is complete
because the first round checks every data source, and nothing can come before
it: a retry is there only after a check has failed.  It is current because an
entry is written when its check completes, and a round ends before the next one
begins.
-/

/-- The last one of its name. -/
def lastNamed (dataSources : List ProxyDataSource) (name : Name) : Option ProxyDataSource :=
  dataSources.reverse.find? fun dataSource => decide (dataSource.name = name)

/-- What the last completed check of the data source has found. -/
def lastOutcome (completed : List (Name × Except Error Unit)) (name : Name) :
    Option (Except Error Unit) :=
  (completed.reverse.find? fun check => decide (check.1 = name)).map Prod.snd

/-- Every configured data source is listed exactly once and nothing else is, each
as its last configuration has it. -/
structure ListsAll (dataSources : List ProxyDataSource) (listed : List UpsertProxyDataSource) :
    Prop where
  once : (listed.map UpsertProxyDataSource.name).Nodup
  every : forall dataSource, dataSource ∈ dataSources ->
    dataSource.name ∈ listed.map UpsertProxyDataSource.name
  configured : forall entry, entry ∈ listed -> Exists fun dataSource =>
    lastNamed dataSources entry.name = some dataSource ∧
      entry.providerType = dataSource.providerType ∧ entry.description = dataSource.description

/-- The statuses are what the last completed checks have found. -/
def ShowsOutcomes (completed : List (Name × Except Error Unit))
    (listed : List UpsertProxyDataSource) : Prop :=
  forall entry, entry ∈ listed -> Exists fun response =>
    lastOutcome completed entry.name = some response ∧ entry.status = statusOfResponse response

variable {wasmDir : WasmDir} {dataSources : List ProxyDataSource} {maxRetries : Nat}
  {listenAddress : Option String} {statusCheckInterval : Duration}
  {service : ProxyService} {codec : Codec} {observed after : Observed}

theorem lookup_init (name : Name) :
    (ProxyService.init wasmDir dataSources maxRetries listenAddress
      statusCheckInterval).dataSources.lookup name = lastNamed dataSources name := by
  have found := HashMap.lookup_ofPairs_eq
    (dataSources.map fun dataSource => (dataSource.name, dataSource)) name
  rw [← List.map_reverse, List.find?_map, Option.map_map] at found
  rw [ProxyService.init, found]
  exact Option.map_id'

theorem name_of_lastNamed {name : Name} {dataSource : ProxyDataSource}
    (found : lastNamed dataSources name = some dataSource) : dataSource.name = name := by
  have decided := List.find?_some found
  exact of_decide_eq_true decided

theorem lastNamed_isSome {dataSource : ProxyDataSource} (member : dataSource ∈ dataSources) :
    (lastNamed dataSources dataSource.name).isSome = true := by
  rw [lastNamed, List.find?_isSome]
  exact ⟨dataSource, List.mem_reverse.mpr member, decide_eq_true rfl⟩

theorem lastOutcome_concat (completed : List (Name × Except Error Unit))
    (check : Name × Except Error Unit) (name : Name) :
    lastOutcome (completed ++ [check]) name =
      if check.1 = name then some check.2 else lastOutcome completed name := by
  rw [lastOutcome, List.reverse_append, List.reverse_singleton, List.singleton_append,
    List.find?_cons]
  by_cases same : check.1 = name
  · rw [decide_eq_true same, if_pos same]
    rfl
  · rw [decide_eq_false same, if_neg same]
    rfl

/-! ## The map behind the snapshot -/

/-- The entries are those of the last completed checks.  In a round the map lacks
only data sources whose check is under way.  Between two rounds it lacks none,
or no check has been made yet. -/
structure Current (service : ProxyService) (observed : Observed) : Prop where
  entries : forall name entry, observed.status.dataSourcesState.lookup name = some entry ->
    Exists fun dataSource => Exists fun response =>
      service.dataSources.lookup name = some dataSource ∧
        lastOutcome observed.completed name = some response ∧
        entry = upsert name dataSource (statusOfResponse response)
  unspawned : observed.status.task = .unspawned ->
    observed.status.queued = [] ∧ observed.status.sleeping = []
  selecting : forall receiver, observed.status.task = .selecting receiver ->
    (forall name, name ∈ service.dataSources -> name ∈ observed.status.dataSourcesState) ∨
      (observed.status.queued = [] ∧ observed.status.sleeping = [])
  updating : forall pending receiver, observed.status.task = .updating pending receiver ->
    forall name, name ∈ service.dataSources -> name ∈ observed.status.dataSourcesState ∨
      name ∈ pending.map DataSourceCheckTask.name

/-- A step without a completed check that leaves the map as it is. -/
theorem Current.of_same {status : Status} {completed : List (Name × Except Error Unit)}
    (current : Current service observed) (same : completed = observed.completed)
    (state : status.dataSourcesState = observed.status.dataSourcesState)
    (unspawned : status.task = .unspawned -> status.queued = [] ∧ status.sleeping = [])
    (selecting : forall receiver, status.task = .selecting receiver ->
      (forall name, name ∈ service.dataSources -> name ∈ observed.status.dataSourcesState) ∨
        (status.queued = [] ∧ status.sleeping = []))
    (updating : forall pending receiver, status.task = .updating pending receiver ->
      forall name, name ∈ service.dataSources -> name ∈ observed.status.dataSourcesState ∨
        name ∈ pending.map DataSourceCheckTask.name) :
    Current service ⟨status, completed⟩ where
  entries := same.symm ▸ state.symm ▸ current.entries
  unspawned := unspawned
  selecting := state.symm ▸ selecting
  updating := state.symm ▸ updating

theorem Current.checked {status : Status} {pending : List DataSourceCheckTask}
    {position receiver : Nat} {task : DataSourceCheckTask} {dataSource : ProxyDataSource}
    {response : Except Error Unit} (current : Current service observed)
    (rests : observed.status.task = .updating pending receiver)
    (checked : pending[position]? = some task)
    (found : service.dataSources.lookup task.name = some dataSource)
    (state : status.dataSourcesState = observed.status.dataSourcesState.insert task.name
      (upsert task.name dataSource (statusOfResponse response)))
    (moved : status.task = .updating (pending.eraseIdx position) receiver) :
    Current service ⟨status, observed.completed ++ [(task.name, response)]⟩ where
  entries := fun name entry present => by
    rw [lastOutcome_concat]
    simp only [state] at present
    by_cases same : name = task.name
    · subst same
      rw [AList.lookup_insert, Option.some.injEq] at present
      exact ⟨dataSource, response, found, if_pos rfl, present.symm⟩
    · rw [AList.lookup_insert_ne same] at present
      rw [if_neg (Ne.symm same)]
      exact current.entries name entry present
  unspawned := fun waits => by
    rw [moved] at waits
    cases waits
  selecting := fun receiver waits => by
    rw [moved] at waits
    cases waits
  updating := fun later receiver now name known => by
    simp only [moved, StatusTask.updating.injEq] at now
    rw [← now.1, state, AList.mem_insert]
    rcases current.updating pending _ rests name known with there | underWay
    · exact Or.inl (Or.inr there)
    · have split := Status.coe_map_eraseIdx DataSourceCheckTask.name checked
      rw [← Multiset.mem_coe, split, Multiset.mem_add, Multiset.mem_singleton] at underWay
      exact underWay.imp Or.inl id

theorem Observed.Step.current {action : Observed.Action}
    (effect : Observed.Step service codec observed action after)
    (current : Current service observed) : Current service after := by
  cases effect with
  | spawned receiver rests =>
      have nothing := current.unspawned rests
      refine current.of_same rfl rfl (fun _ => nothing) (fun _ _ => Or.inr nothing) ?_
      intro pending receiver now
      by_cases zero : service.statusCheckInterval = 0 <;> simp [Status.spawned, zero] at now
  | taken shutdown action status messages effect =>
      cases effect with
      | ticked receiver rests =>
          refine current.of_same (List.append_nil _) rfl (fun now => by cases now)
            (fun _ now => by cases now) ?_
          intro pending receiver now name known
          simp only [StatusTask.updating.injEq] at now
          rw [← now.1, service.names_checkTasks]
          exact Or.inr (AList.mem_keys.mp known)
      | retried receiver task queued rests head =>
          refine current.of_same (List.append_nil _) rfl (fun now => by cases now)
            (fun _ now => by cases now) ?_
          intro pending receiver now name known
          rcases current.selecting _ rests with full | nothing
          · exact Or.inl (full name known)
          · rw [head] at nothing
            cases nothing.1
      | panicked position opId provider pending receiver task rests checked lost =>
          have silent : observed.status.completes service codec (.checked position opId provider) =
              none := by
            rcases ProxyService.updateDataSource_panicked lost with unknown | lost
            · simp only [Status.completes, rests, StatusTask.pending, checked, unknown]
            · cases found : service.dataSources.lookup task.name <;>
                simp only [Status.completes, rests, StatusTask.pending, checked, found, lost]
          exact current.of_same (by rw [silent]; exact List.append_nil _) rfl
            (fun now => by cases now) (fun _ now => by cases now)
            (fun _ _ now => by cases now)
      | checked position opId provider pending receiver task update retry rests checked updated =>
          rcases service.updateDataSource_returned updated with
            ⟨dataSource, response, found, answered, rfl, _⟩
          have completes : observed.status.completes service codec
              (.checked position opId provider) = some (task.name, response) := by
            simp only [Status.completes, rests, StatusTask.pending, checked, found, answered]
          rw [completes]
          exact current.checked rests checked found rfl rfl
      | notified receiver rests =>
          refine current.of_same (List.append_nil _) rfl (fun now => by cases now)
            (fun _ _ => Or.inl ?_) (fun _ _ now => by cases now)
          intro name known
          rcases current.updating _ _ rests name known with there | underWay
          · exact there
          · cases underWay
      | stopped receiver rests holds =>
          exact current.of_same (List.append_nil _) rfl (fun now => by cases now)
            (fun _ now => by cases now) (fun _ _ now => by cases now)
      | woken position delay task slept =>
          have asleep : observed.status.sleeping ≠ [] := fun none => by
            rw [none] at slept
            cases slept
          refine current.of_same (List.append_nil _) rfl (fun now => ?_) (fun receiver now => ?_)
            current.updating
          · exact absurd (current.unspawned now).2 asleep
          · exact Or.inl ((current.selecting receiver now).resolve_right fun nothing =>
              asleep nothing.2)

theorem current_of_reaches
    (reached : Reaches (Observed.step service codec) anyStep .initial observed) :
    Current service observed := by
  apply reached.invariant
  · constructor
    · intro name entry present
      rw [show Observed.initial.status.dataSourcesState = ∅ from rfl, AList.lookup_empty] at present
      cases present
    · exact fun _ => ⟨rfl, rfl⟩
    · exact fun _ now => by cases now
    · exact fun _ _ now => by cases now
  · exact fun before action after _ current _ taken => (Observed.step_spec taken).current current

/-! ## Complete and current -/

/-- A map whose keys are those of the service, with an entry for each as its data
source has it, lists them all. -/
theorem listsAll_of_values {map : HashMap UpsertProxyDataSource}
    (lookups : forall name, service.dataSources.lookup name = lastNamed dataSources name)
    (every : forall name, name ∈ service.dataSources -> name ∈ map)
    (entries : forall name entry, map.lookup name = some entry ->
      Exists fun dataSource => Exists fun status =>
        service.dataSources.lookup name = some dataSource ∧ entry = upsert name dataSource status) :
    ListsAll dataSources map.values := by
  have names : map.values.map UpsertProxyDataSource.name = map.keys := by
    apply HashMap.map_values
    intro name entry present
    rcases entries name entry present with ⟨_, _, _, rfl⟩
    rfl
  constructor
  · rw [names]
    exact map.keys_nodup
  · intro dataSource member
    rw [names, ← AList.mem_keys]
    apply every
    rw [← AList.lookup_isSome, lookups]
    exact lastNamed_isSome member
  · intro entry member
    rcases HashMap.exists_lookup_of_mem_values member with ⟨name, present⟩
    rcases entries name entry present with ⟨dataSource, status, found, rfl⟩
    exact ⟨dataSource, (lookups name).symm.trans found, rfl, rfl⟩

/-- The offline message lists the data sources of the service themselves. -/
theorem listsAll_offline
    (lookups : forall name, service.dataSources.lookup name = lastNamed dataSources name) :
    ListsAll dataSources (service.dataSources.values.map fun dataSource =>
      upsert dataSource.name dataSource (.error .proxyDisconnected)) := by
  have names : (service.dataSources.values.map fun dataSource =>
      upsert dataSource.name dataSource (.error .proxyDisconnected)).map
        UpsertProxyDataSource.name = service.dataSources.keys := by
    rw [List.map_map]
    apply HashMap.map_values
    intro name dataSource found
    exact name_of_lastNamed ((lookups name).symm.trans found)
  constructor
  · rw [names]
    exact service.dataSources.keys_nodup
  · intro dataSource member
    rw [names, ← AList.mem_keys, ← AList.lookup_isSome, lookups]
    exact lastNamed_isSome member
  · intro entry member
    rcases List.mem_map.mp member with ⟨dataSource, inside, rfl⟩
    rcases HashMap.exists_lookup_of_mem_values inside with ⟨name, found⟩
    have last := (lookups name).symm.trans found
    have same := name_of_lastNamed last
    exact ⟨dataSource, same ▸ last, rfl, rfl⟩

/-- In every run of the status task, each notification lists every configured data
source once, as configured, with what the last completed check of it has found;
in the last one they are all offline. -/
theorem notification_complete (wasmDir : WasmDir) (dataSources : List ProxyDataSource)
    (maxRetries : Nat) (listenAddress : Option String) (statusCheckInterval : Duration)
    (codec : Codec) (observed : Observed)
    (reached : Reaches (Observed.step (.init wasmDir dataSources maxRetries listenAddress
      statusCheckInterval) codec) anyStep .initial observed)
    (shutdown : Broadcast) (action : Status.Action) (after : Status) (messages : List Outgoing)
    (taken : observed.status.step (.init wasmDir dataSources maxRetries listenAddress
      statusCheckInterval) codec shutdown action = some (after, messages))
    (origin : Origin) (message : ProxyMessage) (sent : (origin, message) ∈ messages) :
    Exists fun listed => message = .newSetDataSourcesNotification listed ∧
      ListsAll dataSources listed ∧
      if origin = .offline then
        forall entry, entry ∈ listed -> entry.status = .error .proxyDisconnected
      else ShowsOutcomes observed.completed listed := by
  have current := current_of_reaches reached
  have lookups := @lookup_init wasmDir dataSources maxRetries listenAddress statusCheckInterval
  cases Status.step_spec taken with
  | notified receiver rests =>
      rcases List.mem_singleton.mp sent with ⟨rfl, rfl⟩
      refine ⟨_, rfl, listsAll_of_values lookups ?_ ?_, ?_⟩
      · intro name known
        rcases current.updating _ _ rests name known with there | underWay
        · exact there
        · cases underWay
      · intro name entry present
        rcases current.entries name entry present with ⟨dataSource, response, found, _, same⟩
        exact ⟨dataSource, _, found, same⟩
      · rw [if_neg (by decide)]
        intro entry member
        rcases HashMap.exists_lookup_of_mem_values member with ⟨name, present⟩
        rcases current.entries name entry present with ⟨_, response, _, outcome, rfl⟩
        exact ⟨response, outcome, rfl⟩
  | stopped receiver rests holds =>
      rcases List.mem_singleton.mp sent with ⟨rfl, rfl⟩
      refine ⟨_, rfl, listsAll_offline lookups, ?_⟩
      rw [if_pos rfl]
      intro entry member
      rcases List.mem_map.mp member with ⟨_, _, rfl⟩
      rfl
  | ticked => cases sent
  | retried => cases sent
  | panicked => cases sent
  | checked => cases sent
  | woken => cases sent

/-- The first round of a service with one data source, up to its notification. -/
def firstRound : List Observed.Action :=
  [.spawned 0, .taken .new .ticked, .taken .new (.checked 0 7 Handling.plainProvider)]

def afterFirstRound : Observed :=
  (run (Observed.step Daemon.plainService Handling.plainCodec) anyStep .initial firstRound).get rfl

theorem notification_complete_firstRound :
    Exists fun listed => ProxyMessage.newSetDataSourcesNotification
        [upsert "metrics" Handling.plainSource .connected] = .newSetDataSourcesNotification listed ∧
      ListsAll [Handling.plainSource] listed ∧
      if Origin.notification = .offline then
        forall entry, entry ∈ listed -> entry.status = .error .proxyDisconnected
      else ShowsOutcomes [("metrics", .ok ())] listed :=
  notification_complete Handling.plainDir [Handling.plainSource] 3 none 60 Handling.plainCodec
    afterFirstRound (reaches_get_run firstRound rfl) .new .notified _ _ rfl .notification _
    (List.mem_singleton.mpr rfl)

end Service
end Fpd
