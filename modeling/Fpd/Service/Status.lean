import Fpd.Async.Broadcast
import Fpd.Service.HandleMessage
import Fpd.Service.StatusCheck

namespace Fpd
namespace Service

open Async

/-!
# The status task

The task checks all data sources whenever its interval ticks, and one of them
whenever a retry comes up.  After either it sends the relay a snapshot of what
it knows.  On shutdown it sends a last message in which every data source is
offline, and stops.

The checks of one tick run side by side, so each of them ends in a step of its
own.  The state they write is read by this task only, between two rounds of
checks, and its lock is never contended.
-/

/-- Where a message for the relay comes from. -/
inductive Origin
  | notification
  | offline
  | reply (handler : Nat)
  deriving DecidableEq, Repr

abbrev Outgoing := Origin × ProxyMessage

namespace ProxyService

/-- `STATUS_REQUEST_V2`, whose encoding is an `unwrap`. -/
def statusRequestV2 (codec : Codec) : Outcome Bytes :=
  match codec.requestToVecNamed
    { queryType := codec.statusQueryType
      queryData := ⟨[], codec.statusMimeType⟩
      config := .null
      previousResponse := none } with
  | .error _ => .panicked
  | .ok request => .returned request

/-- What `check_provider_status_v2` makes of the answer to its message. -/
def statusOfPayload (codec : Codec) : ProxyMessagePayload -> Except Error Unit
  | .invokeProxyResponse data =>
      match codec.responseFromSlice data with
      | .error err =>
          .error (.deserialization ("Error deserializing provider response: " ++ err))
      | .ok result => result.map fun _ => ()
  | .error err => .error err
  | message => .error (.invocation ("Unexpected provider response: " ++ codec.debugPayload message))

/-- `check_provider_status_v2`.  A message that is not answered is an `expect`. -/
def checkProviderStatusV2 (service : ProxyService) (codec : Codec) (provider : Provider)
    (dataSourceName : Name) (opId : Base64Uuid) : Outcome (Except Error Unit) :=
  (statusRequestV2 codec).bind fun request =>
    (service.handleMessageInner codec provider
      (.newInvokeProxyRequest request dataSourceName 2 opId)).bind fun
        | .error _ => .panicked
        | .ok response => .returned (statusOfPayload codec response.payload)

def statusCheckVersion : UInt8 := 2

def upsert (name : Name) (dataSource : ProxyDataSource) (status : DataSourceStatus) :
    UpsertProxyDataSource where
  name := name
  description := dataSource.description
  providerType := dataSource.providerType
  protocolVersion := statusCheckVersion
  status := status

def statusOfResponse : Except Error Unit -> DataSourceStatus
  | .ok _ => .connected
  | .error err => .error err

/-- `update_data_source`: the entry it stores and the retry it spawns.  The
lookup of the data source is an `unwrap`. -/
def updateDataSource (service : ProxyService) (codec : Codec) (provider : Provider)
    (task : DataSourceCheckTask) (opId : Base64Uuid) :
    Outcome (UpsertProxyDataSource × Option (Duration × DataSourceCheckTask)) :=
  match service.dataSources.lookup task.name with
  | none => .panicked
  | some dataSource =>
      (service.checkProviderStatusV2 codec provider task.name opId).map fun response =>
        (upsert task.name dataSource (statusOfResponse response),
          match response with
          | .ok _ => none
          | .error _ => task.next)

/-- The checks of `update_all_data_sources`. -/
def checkTasks (service : ProxyService) : List DataSourceCheckTask :=
  service.dataSources.entries.map fun entry =>
    .new entry.1 service.statusCheckInterval 10 (3 / 2)

/-- The last message of the status task. -/
def offlineMessage (service : ProxyService) : ProxyMessage :=
  .newSetDataSourcesNotification (service.dataSources.values.map fun dataSource =>
    upsert dataSource.name dataSource (.error .proxyDisconnected))

end ProxyService

/-- Where the task rests: in its select, or with checks under way, of all data
sources or of a single one.  `receiver` is its subscription to the shutdown. -/
inductive StatusTask
  | unspawned
  | selecting (receiver : Nat)
  | updating (pending : List DataSourceCheckTask) (receiver : Nat)
  | stopped
  | panicked
  deriving DecidableEq

def StatusTask.running : StatusTask -> Bool
  | .selecting _ => true
  | .updating _ _ => true
  | _ => false

/-- The task with the state it keeps, the retries that sleep and those that
wait in its channel. -/
structure Status where
  task : StatusTask
  dataSourcesState : HashMap UpsertProxyDataSource
  sleeping : List (Duration × DataSourceCheckTask)
  queued : List DataSourceCheckTask

namespace Status

def empty : Status :=
  ⟨.unspawned, ∅, [], []⟩

inductive Action
  | ticked
  | retried
  | checked (position : Nat) (opId : Base64Uuid) (provider : Provider)
  | notified
  | stopped
  | woken (position : Nat)

def toDataSourcesProxyMessage (status : Status) : ProxyMessage :=
  .newSetDataSourcesNotification status.dataSourcesState.values

/-- One step of the task or of a sleeping retry, with the messages it sends. -/
def step (service : ProxyService) (codec : Codec) (shutdown : Broadcast) (status : Status) :
    Action -> Option (Status × List Outgoing)
  | .ticked =>
      match status.task with
      | .selecting receiver =>
          some ({ status with task := .updating service.checkTasks receiver }, [])
      | _ => none
  | .retried =>
      match status.task, status.queued with
      | .selecting receiver, task :: queued =>
          some ({ status with task := .updating [task] receiver, queued := queued }, [])
      | _, _ => none
  | .checked position opId provider =>
      match status.task with
      | .updating pending receiver =>
          match pending[position]? with
          | some task =>
              match service.updateDataSource codec provider task opId with
              | .panicked => some ({ status with task := .panicked }, [])
              | .returned (update, retry) =>
                  some ({ status with
                    task := .updating (pending.eraseIdx position) receiver
                    dataSourcesState := status.dataSourcesState.insert update.name update
                    sleeping := status.sleeping ++ retry.toList }, [])
          | none => none
      | _ => none
  | .notified =>
      match status.task with
      | .updating [] receiver =>
          some ({ status with task := .selecting receiver },
            [(.notification, status.toDataSourcesProxyMessage)])
      | _ => none
  | .stopped =>
      match status.task with
      | .selecting receiver =>
          if shutdown.holds receiver then
            some ({ status with task := .stopped }, [(.offline, service.offlineMessage)])
          else none
      | _ => none
  | .woken position =>
      match status.sleeping[position]? with
      | some (_, task) =>
          -- The channel is closed once the status task has dropped its receiver.
          some ({ status with
            sleeping := status.sleeping.eraseIdx position
            queued := if status.task.running then status.queued ++ [task] else status.queued }, [])
      | none => none

variable {service : ProxyService} {codec : Codec} {shutdown : Broadcast} {status after : Status}
  {action : Action} {messages : List Outgoing}

/-- Everything one step of the task or of a sleeping retry can do. -/
inductive Step (service : ProxyService) (codec : Codec) (shutdown : Broadcast) (status : Status) :
    Action -> Status -> List Outgoing -> Prop
  | ticked (receiver : Nat) (rests : status.task = .selecting receiver) :
      Step service codec shutdown status .ticked
        { status with task := .updating service.checkTasks receiver } []
  | retried (receiver : Nat) (task : DataSourceCheckTask) (queued : List DataSourceCheckTask)
      (rests : status.task = .selecting receiver) (head : status.queued = task :: queued) :
      Step service codec shutdown status .retried
        { status with task := .updating [task] receiver, queued := queued } []
  | panicked (position : Nat) (opId : Base64Uuid) (provider : Provider)
      (pending : List DataSourceCheckTask) (receiver : Nat) (task : DataSourceCheckTask)
      (rests : status.task = .updating pending receiver) (checked : pending[position]? = some task)
      (lost : service.updateDataSource codec provider task opId = .panicked) :
      Step service codec shutdown status (.checked position opId provider)
        { status with task := .panicked } []
  | checked (position : Nat) (opId : Base64Uuid) (provider : Provider)
      (pending : List DataSourceCheckTask) (receiver : Nat) (task : DataSourceCheckTask)
      (update : UpsertProxyDataSource) (retry : Option (Duration × DataSourceCheckTask))
      (rests : status.task = .updating pending receiver) (checked : pending[position]? = some task)
      (updated : service.updateDataSource codec provider task opId = .returned (update, retry)) :
      Step service codec shutdown status (.checked position opId provider)
        { status with
          task := .updating (pending.eraseIdx position) receiver
          dataSourcesState := status.dataSourcesState.insert update.name update
          sleeping := status.sleeping ++ retry.toList } []
  | notified (receiver : Nat) (rests : status.task = .updating [] receiver) :
      Step service codec shutdown status .notified { status with task := .selecting receiver }
        [(.notification, status.toDataSourcesProxyMessage)]
  | stopped (receiver : Nat) (rests : status.task = .selecting receiver)
      (holds : shutdown.holds receiver = true) :
      Step service codec shutdown status .stopped { status with task := .stopped }
        [(.offline, service.offlineMessage)]
  | woken (position : Nat) (delay : Duration) (task : DataSourceCheckTask)
      (slept : status.sleeping[position]? = some (delay, task)) :
      Step service codec shutdown status (.woken position)
        { status with
          sleeping := status.sleeping.eraseIdx position
          queued := if status.task.running then status.queued ++ [task] else status.queued } []

theorem step_spec (taken : step service codec shutdown status action = some (after, messages)) :
    Step service codec shutdown status action after messages := by
  cases action with
  | ticked =>
      cases rests : status.task <;> simp only [step, rests, reduceCtorEq, Option.some.injEq,
        Prod.mk.injEq] at taken
      rcases taken with ⟨rfl, rfl⟩
      exact .ticked _ rests
  | retried =>
      cases rests : status.task <;> simp only [step, rests, reduceCtorEq] at taken
      cases head : status.queued with
      | nil => simp only [head, reduceCtorEq] at taken
      | cons task queued =>
          simp only [head, Option.some.injEq, Prod.mk.injEq] at taken
          rcases taken with ⟨rfl, rfl⟩
          exact .retried _ task queued rests head
  | checked position opId provider =>
      cases rests : status.task <;> simp only [step, rests, reduceCtorEq] at taken
      rename_i pending receiver
      cases checked : pending[position]? with
      | none => simp only [checked, reduceCtorEq] at taken
      | some task =>
          simp only [checked] at taken
          cases updated : service.updateDataSource codec provider task opId with
          | panicked =>
              simp only [updated, Option.some.injEq, Prod.mk.injEq] at taken
              rcases taken with ⟨rfl, rfl⟩
              exact .panicked position opId provider pending receiver task rests checked updated
          | returned answer =>
              simp only [updated, Option.some.injEq, Prod.mk.injEq] at taken
              rcases taken with ⟨rfl, rfl⟩
              exact .checked position opId provider pending receiver task answer.1 answer.2 rests
                checked updated
  | notified =>
      cases rests : status.task <;> simp only [step, rests, reduceCtorEq] at taken
      rename_i pending receiver
      cases pending with
      | cons task pending => simp only [reduceCtorEq] at taken
      | nil =>
          simp only [Option.some.injEq, Prod.mk.injEq] at taken
          rcases taken with ⟨rfl, rfl⟩
          exact .notified receiver rests
  | stopped =>
      cases rests : status.task <;> simp only [step, rests, reduceCtorEq] at taken
      rename_i receiver
      by_cases holds : shutdown.holds receiver = true
      · simp only [if_pos holds, Option.some.injEq, Prod.mk.injEq] at taken
        rcases taken with ⟨rfl, rfl⟩
        exact .stopped receiver rests holds
      · rw [if_neg holds] at taken
        cases taken
  | woken position =>
      cases slept : status.sleeping[position]? with
      | none => simp only [step, slept, reduceCtorEq] at taken
      | some sleeper =>
          simp only [step, slept, Option.some.injEq, Prod.mk.injEq] at taken
          rcases taken with ⟨rfl, rfl⟩
          exact .woken position sleeper.1 sleeper.2 slept

end Status
end Service
end Fpd
