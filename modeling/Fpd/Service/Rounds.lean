import Fpd.Service.Steps
import Mathlib.Algebra.Order.Group.Multiset
import Mathlib.Tactic.Abel
import Mathlib.Tactic.GCongr

namespace Fpd
namespace Service

open Async

/-!
# Runs of the status task

The status task on its own, from the moment it is spawned.  The shutdown signal
may be in any state when the task takes a step, so these are its runs under any
daemon, and a run of the daemon contains one of them.

A run also records the checks that have been completed, and what they found.
-/

/-- The checks of the round that is under way. -/
def StatusTask.pending : StatusTask -> List DataSourceCheckTask
  | .updating pending _ => pending
  | _ => []

namespace Status

/-- The checks under way, queued or asleep. -/
def tasks (status : Status) : List DataSourceCheckTask :=
  status.task.pending ++ status.queued ++ status.sleeping.map Prod.snd

/-- The data sources they are for. -/
def names (status : Status) : Multiset Name :=
  ↑(status.tasks.map DataSourceCheckTask.name)

/-- `connect` spawns the task.  An interval without length makes it panic. -/
def spawned (service : ProxyService) (status : Status) (receiver : Nat) : Status :=
  { status with
    task := if service.statusCheckInterval = 0 then .panicked else .selecting receiver }

/-- The check that a step completes, with its data source and what it found. -/
def completes (service : ProxyService) (codec : Codec) (status : Status) :
    Action -> Option (Name × Except Error Unit)
  | .checked position opId provider =>
      match status.task.pending[position]? with
      | some task =>
          match service.dataSources.lookup task.name,
              service.checkProviderStatusV2 codec provider task.name opId with
          | some _, .returned response => some (task.name, response)
          | _, _ => none
      | none => none
  | _ => none

end Status

/-- The status task and the checks completed so far, oldest first.  No step
reads the record. -/
structure Observed where
  status : Status
  completed : List (Name × Except Error Unit)

namespace Observed

def initial : Observed :=
  ⟨.empty, []⟩

inductive Action
  | spawned (receiver : Nat)
  | taken (shutdown : Broadcast) (action : Status.Action)

def step (service : ProxyService) (codec : Codec) (observed : Observed) :
    Action -> Option Observed
  | .spawned receiver =>
      match observed.status.task with
      | .unspawned => some { observed with status := observed.status.spawned service receiver }
      | _ => none
  | .taken shutdown action =>
      (observed.status.step service codec shutdown action).map fun answer =>
        { status := answer.1
          completed :=
            observed.completed ++ (observed.status.completes service codec action).toList }

variable {service : ProxyService} {codec : Codec} {observed after : Observed} {action : Action}

inductive Step (service : ProxyService) (codec : Codec) (observed : Observed) :
    Action -> Observed -> Prop
  | spawned (receiver : Nat) (rests : observed.status.task = .unspawned) :
      Step service codec observed (.spawned receiver)
        { observed with status := observed.status.spawned service receiver }
  | taken (shutdown : Broadcast) (action : Status.Action) (status : Status)
      (messages : List Outgoing)
      (effect : Status.Step service codec shutdown observed.status action status messages) :
      Step service codec observed (.taken shutdown action)
        { status := status
          completed :=
            observed.completed ++ (observed.status.completes service codec action).toList }

theorem step_spec (taken : step service codec observed action = some after) :
    Step service codec observed action after := by
  cases action with
  | spawned receiver =>
      cases rests : observed.status.task <;>
        simp only [step, rests, reduceCtorEq, Option.some.injEq] at taken
      exact taken ▸ .spawned receiver rests
  | taken shutdown action =>
      rcases Option.map_eq_some_iff.mp taken with ⟨⟨status, messages⟩, answer, rfl⟩
      exact .taken shutdown action status messages (Status.step_spec answer)

end Observed

/-! ## What an update amounts to -/

variable {service : ProxyService} {codec : Codec} {provider : Provider}
  {task : DataSourceCheckTask} {opId : Base64Uuid}

namespace ProxyService

/-- An update stores what the check has found, and only a failed check is
retried. -/
theorem updateDataSource_returned {update : UpsertProxyDataSource}
    {retry : Option (Duration × DataSourceCheckTask)}
    (updated : service.updateDataSource codec provider task opId = .returned (update, retry)) :
    Exists fun dataSource => Exists fun response =>
      service.dataSources.lookup task.name = some dataSource ∧
        service.checkProviderStatusV2 codec provider task.name opId = .returned response ∧
        update = upsert task.name dataSource (statusOfResponse response) ∧
        retry = match response with
          | .ok _ => none
          | .error _ => task.next := by
  unfold updateDataSource at updated
  cases found : service.dataSources.lookup task.name with
  | none => simp only [found, reduceCtorEq] at updated
  | some dataSource =>
      cases checked : service.checkProviderStatusV2 codec provider task.name opId with
      | panicked => simp only [found, checked, Outcome.map, reduceCtorEq] at updated
      | returned response =>
          simp only [found, checked, Outcome.map, Outcome.returned.injEq, Prod.mk.injEq] at updated
          exact ⟨dataSource, response, rfl, rfl, updated.1.symm, updated.2.symm⟩

theorem updateDataSource_panicked
    (lost : service.updateDataSource codec provider task opId = .panicked) :
    service.dataSources.lookup task.name = none ∨
      service.checkProviderStatusV2 codec provider task.name opId = .panicked := by
  unfold updateDataSource at lost
  cases found : service.dataSources.lookup task.name with
  | none => exact Or.inl rfl
  | some dataSource =>
      cases checked : service.checkProviderStatusV2 codec provider task.name opId with
      | panicked => exact Or.inr rfl
      | returned response => simp only [found, checked, Outcome.map, reduceCtorEq] at lost

theorem names_checkTasks (service : ProxyService) :
    service.checkTasks.map DataSourceCheckTask.name = service.dataSources.keys :=
  List.map_map

end ProxyService

theorem DataSourceCheckTask.name_next {delay : Duration} {retry : DataSourceCheckTask}
    (next : task.next = some (delay, retry)) : retry.name = task.name := by
  obtain ⟨_, _, rfl⟩ := DataSourceCheckTask.next_eq_some_iff.mp next
  rfl

namespace Status

variable {shutdown : Broadcast} {status after : Status} {action : Action}
  {messages : List Outgoing}

theorem names_eq (status : Status) : status.names =
    ↑(status.task.pending.map DataSourceCheckTask.name) +
      ↑(status.queued.map DataSourceCheckTask.name) +
        ↑(status.sleeping.map fun sleeper => sleeper.2.name) := by
  simp only [names, tasks, List.map_append, List.map_map, Multiset.coe_add]
  rfl

/-- The task is spawned without any check. -/
theorem tasks_spawned {receiver : Nat} (rests : status.task = .unspawned) :
    (status.spawned service receiver).tasks = status.tasks := by
  by_cases zero : service.statusCheckInterval = 0 <;>
    simp [tasks, spawned, zero, rests, StatusTask.pending]

theorem coe_map_eraseIdx {Value Result : Type*} {list : List Value} {position : Nat} {value : Value}
    (view : Value -> Result) (present : list[position]? = some value) :
    (↑(list.map view) : Multiset Result) = {view value} + ↑((list.eraseIdx position).map view) := by
  rcases List.getElem?_eq_some_iff.mp present with ⟨inside, rfl⟩
  exact (Multiset.coe_eq_coe.mpr ((List.getElem_cons_eraseIdx_perm inside).map view)).symm

/-- Only a tick adds checks, one for each data source.  A retry takes the place
of the check that has failed. -/
theorem Step.names (effect : Step service codec shutdown status action after messages) :
    after.names ≤ status.names ∨ (action = .ticked ∧ status.task.pending = [] ∧
      after.tasks = service.checkTasks ++ status.queued ++ status.sleeping.map Prod.snd) := by
  rw [names_eq, names_eq]
  cases effect with
  | ticked receiver rests => exact Or.inr ⟨rfl, by rw [rests]; rfl, rfl⟩
  | retried receiver task queued rests head =>
      refine Or.inl (le_of_eq ?_)
      have first : (↑((task :: queued).map DataSourceCheckTask.name) : Multiset Name) =
          {task.name} + ↑(queued.map DataSourceCheckTask.name) := rfl
      rw [rests, head, first]
      simp [StatusTask.pending]
  | panicked =>
      exact Or.inl (add_le_add (add_le_add (Multiset.zero_le _) le_rfl) le_rfl)
  | checked position opId provider pending receiver task update retry rests checked updated =>
      have dropped := coe_map_eraseIdx DataSourceCheckTask.name checked
      rcases service.updateDataSource_returned updated with ⟨_, response, _, _, _, same⟩
      refine Or.inl ?_
      rw [rests]
      simp only [StatusTask.pending, dropped]
      cases retry with
      | none =>
          simp only [Option.toList_none, List.append_nil]
          gcongr
          exact Multiset.le_add_left _ _
      | some sleeper =>
          have next : task.next = some sleeper := by
            cases response with
            | ok => cases same
            | error => exact same.symm
          have name : sleeper.2.name = task.name := DataSourceCheckTask.name_next next
          simp only [Option.toList_some, List.map_append, List.map_singleton, name]
          rw [← Multiset.coe_add, Multiset.coe_singleton]
          apply le_of_eq
          abel
  | notified receiver rests => simp [rests, StatusTask.pending]
  | stopped receiver rests holds => simp [rests, StatusTask.pending]
  | woken position delay task slept =>
      have dropped := coe_map_eraseIdx (fun sleeper => sleeper.2.name) slept
      refine Or.inl ?_
      rw [dropped]
      cases running : status.task.running with
      | true =>
          simp only [if_true, List.map_append, List.map_singleton]
          rw [← Multiset.coe_add, Multiset.coe_singleton]
          apply le_of_eq
          abel
      | false =>
          simp only [Bool.false_eq_true, if_false]
          gcongr
          exact Multiset.le_add_left _ _

theorem mem_tasks {task : DataSourceCheckTask} : task ∈ status.tasks ↔
    task ∈ status.task.pending ∨ task ∈ status.queued ∨
      Exists fun sleeper => sleeper ∈ status.sleeping ∧ sleeper.2 = task := by
  rw [tasks, List.mem_append, List.mem_append, List.mem_map, or_assoc]

/-- A check that is new has come with a tick or after a failure. -/
theorem Step.tasks_cases (effect : Step service codec shutdown status action after messages)
    {task : DataSourceCheckTask} (member : task ∈ after.tasks) :
    task ∈ status.tasks ∨ task ∈ service.checkTasks ∨
      Exists fun failed => failed ∈ status.tasks ∧ Exists fun delay =>
        failed.next = some (delay, task) := by
  rw [mem_tasks] at member
  rw [mem_tasks]
  cases effect with
  | ticked receiver rests =>
      rcases member with new | old
      · exact Or.inr (Or.inl new)
      · exact Or.inl (Or.inr old)
  | retried receiver first queued rests head =>
      rw [head]
      rcases member with now | later | asleep
      · rw [List.mem_singleton.mp now]
        exact Or.inl (Or.inr (Or.inl List.mem_cons_self))
      · exact Or.inl (Or.inr (Or.inl (List.mem_cons_of_mem _ later)))
      · exact Or.inl (Or.inr (Or.inr asleep))
  | panicked =>
      rcases member with now | old
      · cases now
      · exact Or.inl (Or.inr old)
  | checked position opId provider pending receiver failed update retry rests checked updated =>
      rw [rests]
      rcases member with now | queued | ⟨sleeper, asleep, rfl⟩
      · exact Or.inl (Or.inl (List.mem_of_mem_eraseIdx now))
      · exact Or.inl (Or.inr (Or.inl queued))
      · rcases List.mem_append.mp asleep with before | new
        · exact Or.inl (Or.inr (Or.inr ⟨sleeper, before, rfl⟩))
        · rcases service.updateDataSource_returned updated with ⟨_, response, _, _, _, same⟩
          have given := Option.mem_toList.mp new
          cases response with
          | ok =>
              rw [same] at given
              cases given
          | error =>
              refine Or.inr (Or.inr ⟨failed, ?_, sleeper.1, same.symm.trans given⟩)
              rw [mem_tasks, rests]
              exact Or.inl (List.mem_of_getElem? checked)
  | notified receiver rests =>
      rcases member with now | old
      · cases now
      · exact Or.inl (Or.inr old)
  | stopped receiver rests holds =>
      rcases member with now | old
      · cases now
      · exact Or.inl (Or.inr old)
  | woken position delay slept located =>
      rcases member with now | queued | ⟨sleeper, asleep, rfl⟩
      · exact Or.inl (Or.inl now)
      · split at queued
        · rcases List.mem_append.mp queued with before | new
          · exact Or.inl (Or.inr (Or.inl before))
          · rw [List.mem_singleton.mp new]
            exact Or.inl (Or.inr (Or.inr ⟨_, List.mem_of_getElem? located, rfl⟩))
        · exact Or.inl (Or.inr (Or.inl queued))
      · exact Or.inl (Or.inr (Or.inr ⟨sleeper, List.mem_of_mem_eraseIdx asleep, rfl⟩))

/-- The data source of a check is one of the service. -/
def Known (service : ProxyService) (status : Status) : Prop :=
  forall name, name ∈ status.names -> (service.dataSources.lookup name).isSome = true

theorem known_checkTasks {task : DataSourceCheckTask} (member : task ∈ service.checkTasks) :
    (service.dataSources.lookup task.name).isSome = true := by
  have listed : task.name ∈ service.checkTasks.map DataSourceCheckTask.name :=
    List.mem_map_of_mem member
  rw [service.names_checkTasks] at listed
  exact AList.lookup_isSome.mpr (AList.mem_keys.mpr listed)

theorem Known.pending (known : Known service status) {task : DataSourceCheckTask}
    (member : task ∈ status.task.pending) :
    (service.dataSources.lookup task.name).isSome = true := by
  apply known
  rw [names, Multiset.mem_coe, tasks, List.append_assoc]
  exact List.mem_map_of_mem (List.mem_append_left _ member)

theorem Step.known (effect : Step service codec shutdown status action after messages)
    (known : Known service status) : Known service after := by
  intro name member
  rcases effect.names with fewer | ⟨_, _, same⟩
  · exact known name (Multiset.mem_of_le fewer member)
  · rw [Status.names, same, Multiset.mem_coe, List.mem_map] at member
    rcases member with ⟨task, inside, rfl⟩
    rw [List.append_assoc, List.mem_append] at inside
    rcases inside with new | old
    · exact known_checkTasks new
    · apply known
      rw [Status.names, Multiset.mem_coe, Status.tasks, List.append_assoc]
      exact List.mem_map_of_mem (List.mem_append_right _ old)

theorem known_spawned {receiver : Nat} (rests : status.task = .unspawned)
    (known : Known service status) : Known service (status.spawned service receiver) := by
  intro name member
  rw [names, tasks_spawned rests] at member
  exact known name member

end Status

theorem Status.step_empty (shutdown : Broadcast) (action : Status.Action) :
    Status.empty.step service codec shutdown action = none := by
  cases action <;> rfl

/-! ## The runs of the daemon -/

/-- `connect` has not spawned the status task yet. -/
def Main.early : Main -> Bool
  | .called => true
  | .connecting => true
  | .binding => true
  | .spawningStatus => true
  | _ => false

namespace Daemon

variable {daemon after : Daemon} {action : Action}

/-- What a step of the daemon does to the status task. -/
inductive StatusStep (service : ProxyService) (codec : Codec) (daemon after : Daemon) : Prop
  | same (status : after.status = daemon.status)
      (early : after.main.early = true -> daemon.main.early = true)
  | spawned (rests : daemon.main = .spawningStatus) (entered : after.main.early = false)
      (status : after.status = daemon.status.spawned service daemon.shutdown.subscribe)
  | taken (action : Status.Action) (messages : List Outgoing)
      (main : after.main = daemon.main)
      (answer : daemon.status.step service codec daemon.shutdown action =
        some (after.status, messages))

theorem Step.statusStep (effect : Step service codec daemon action after) :
    StatusStep service codec daemon after := by
  have early {main : Main} (rests : daemon.main = main) (isEarly : main.early = true) :
      daemon.main.early = true := rests ▸ isEarly
  cases effect with
  | status action status messages answer => exact .taken action messages rfl answer
  | spawnedStatus rests => exact .spawned rests rfl rfl
  | connecting _ rests => exact .same rfl fun _ => early rests rfl
  | refused _ _ _ _ rests => exact .same rfl fun _ => early rests rfl
  | connected _ _ _ rests => exact .same rfl fun _ => early rests rfl
  | bindFailed _ _ rests => exact .same rfl fun _ => early rests rfl
  | bound rests => exact .same rfl fun _ => early rests rfl
  | spawnedOutgoing => exact .same rfl fun after => by cases after
  | subscribed => exact .same rfl fun after => by cases after
  | continued => exact .same rfl fun after => by cases after
  | failed => exact .same rfl fun after => by cases after
  | disconnected => exact .same rfl fun after => by cases after
  | shutDown => exact .same rfl fun after => by cases after
  | signalled => exact .same rfl id
  | webSocket => exact .same rfl id
  | waiting => exact .same rfl id
  | polled => exact .same rfl id
  | taken => exact .same rfl id
  | sent => exact .same rfl id
  | outgoingStopped => exact .same rfl id
  | accepted => exact .same rfl id
  | acceptFailed => exact .same rfl id
  | served => exact .same rfl id
  | handled => exact .same rfl id

/-- A run of the daemon contains a run of the status task. -/
theorem observed_of_reaches {allowed : Daemon -> Action -> Prop}
    (reached : Reaches (step service codec) allowed initial daemon) :
    Exists fun observed : Observed => observed.status = daemon.status ∧
      Reaches (Observed.step service codec) anyStep .initial observed := by
  have both : (daemon.main.early = true -> daemon.status = .empty) ∧
      Exists fun observed : Observed => observed.status = daemon.status ∧
        Reaches (Observed.step service codec) anyStep .initial observed := by
    apply reached.invariant
    · exact ⟨fun _ => rfl, .initial, rfl, .refl⟩
    · rintro before action after _ ⟨unspawned, observed, same, observing⟩ _ taken
      cases (step_spec taken).statusStep with
      | same status early =>
          rw [status]
          exact ⟨fun isEarly => unspawned (early isEarly), observed, same, observing⟩
      | spawned rests entered status =>
          rw [status]
          have empty := unspawned (by rw [rests]; rfl)
          refine ⟨fun isEarly => ?_,
            { observed with status := observed.status.spawned service before.shutdown.subscribe },
            ?_, ?_⟩
          · rw [entered] at isEarly
            cases isEarly
          · rw [same]
          · have waits : observed.status.task = .unspawned := by rw [same, empty]; rfl
            have turn : observed.step service codec (.spawned before.shutdown.subscribe) =
                some { observed with
                  status := observed.status.spawned service before.shutdown.subscribe } := by
              simp only [Observed.step, waits]
            exact observing.tail trivial turn
      | taken action messages main answer =>
          have turn : observed.step service codec (.taken before.shutdown action) =
              some ⟨after.status, observed.completed ++
                (observed.status.completes service codec action).toList⟩ := by
            simp only [Observed.step, same, answer, Option.map_some]
          refine ⟨fun isEarly => ?_, _, rfl, observing.tail trivial turn⟩
          rw [unspawned (main ▸ isEarly), Status.step_empty] at answer
          cases answer
  exact both.2

end Daemon
end Service
end Fpd
