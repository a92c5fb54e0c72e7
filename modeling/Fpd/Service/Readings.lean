import Fpd.Service.Metrics
import Fpd.Service.Steps

namespace Fpd
namespace Service

open Async

/-!
# What the metrics read

The counter, the gauge and the histogram of each label against the calls that
have been made.  One step of a call moves the metrics as it moves the counts,
so the two agree in every interleaving.  A call that panics is never taken off
the gauge.  When nothing is under way any more, the gauge therefore tells how
often a runtime has panicked, or a provider has listed its query types in bytes
that do not decode.
-/

variable {service : ProxyService} {codec : Codec} {metrics counted : Metrics} {call next : Call}

/-! ## Counts -/

def Query.count (labels : Labels) (query : Query) : Nat :=
  if query.labels = labels then 1 else 0

namespace Call

/-- The provider has been asked. -/
def started (labels : Labels) : Call -> Nat
  | .querying _ query => query.count labels
  | .ended _ query _ => query.count labels
  | .dead _ query => query.count labels
  | _ => 0

/-- The provider works on it. -/
def underWay (labels : Labels) : Call -> Nat
  | .querying _ query => query.count labels
  | _ => 0

/-- The provider has answered, or its runtime has panicked. -/
def observed (labels : Labels) : Call -> Nat
  | .ended _ query _ => query.count labels
  | .dead _ query => query.count labels
  | _ => 0

/-- The call has panicked over what the provider answered, or in the runtime. -/
def panicked (codec : Codec) (labels : Labels) : Call -> Nat
  | .ended _ query provider =>
      match query.call codec provider with
      | .panicked => query.count labels
      | .returned _ => 0
  | .dead _ query => query.count labels
  | _ => 0

end Call

namespace Metering

/-- A total over all calls, of handlers and of checks. -/
def total (weight : Call -> Nat) (metering : Metering) : Nat :=
  (metering.handlers.map weight).sum + (metering.checks.map weight).sum

/-- The metrics read what has happened.  A call that has panicked stays on the
gauge for good. -/
structure Balanced (codec : Codec) (metering : Metering) (labels : Labels) : Prop where
  queriesTotal : metering.metrics.queriesTotal labels = metering.total (Call.started labels)
  concurrentQueries : metering.metrics.concurrentQueries labels =
    (metering.total (Call.underWay labels) : Int) + metering.total (Call.panicked codec labels)
  queriesDuration : metering.metrics.queriesDuration labels =
    metering.total (Call.observed labels)

end Metering

/-- What a step of a call does to the metrics is what it does to the counts. -/
theorem CallStep.exchange (effect : CallStep service codec metrics call next counted)
    (labels : Labels) :
    counted.queriesTotal labels + call.started labels =
        metrics.queriesTotal labels + next.started labels ∧
      counted.concurrentQueries labels + call.underWay labels + call.panicked codec labels =
        metrics.concurrentQueries labels + next.underWay labels + next.panicked codec labels ∧
      counted.queriesDuration labels + call.observed labels =
        metrics.queriesDuration labels + next.observed labels := by
  cases effect with
  | refused message result => exact ⟨rfl, rfl, rfl⟩
  | lost message => exact ⟨rfl, rfl, rfl⟩
  | started message query =>
      by_cases same : query.labels = labels
      · simp [Metrics.start, Call.started, Call.underWay, Call.panicked, Call.observed,
          Query.count, same]
      · simp [Metrics.start, Call.started, Call.underWay, Call.panicked, Call.observed,
          Query.count, same, Function.update_of_ne (Ne.symm same)]
  | finished message query provider response returned =>
      by_cases same : query.labels = labels
      · simp [Metrics.finish, Metrics.observe, Call.started, Call.underWay, Call.panicked,
          Call.observed, Query.count, same, returned]
      · simp [Metrics.finish, Metrics.observe, Call.started, Call.underWay, Call.panicked,
          Call.observed, Query.count, same, returned, Function.update_of_ne (Ne.symm same)]
  | panicked message query provider panicked =>
      by_cases same : query.labels = labels
      · simp [Metrics.observe, Call.started, Call.underWay, Call.panicked, Call.observed,
          Query.count, same, panicked]
      · simp [Metrics.observe, Call.started, Call.underWay, Call.panicked, Call.observed,
          Query.count, same, panicked, Function.update_of_ne (Ne.symm same)]
  | died message query =>
      by_cases same : query.labels = labels
      · simp [Metrics.observe, Call.started, Call.underWay, Call.panicked, Call.observed,
          Query.count, same]
      · simp [Metrics.observe, Call.started, Call.underWay, Call.panicked, Call.observed,
          Query.count, same, Function.update_of_ne (Ne.symm same)]

namespace Metering

variable {metering after : Metering} {action : Action}

/-- A total changes by what the call that takes a step contributes. -/
theorem total_handlers {index : Nat} {replies : List (Nat × ProxyMessage)} (weight : Call -> Nat)
    (present : metering.handlers[index]? = some call) :
    total weight { metering with
        handlers := metering.handlers.set index next, replies := replies, metrics := counted } +
      weight call = metering.total weight + weight next := by
  have replaced : ((metering.handlers.set index next).map weight).sum + weight call =
      (metering.handlers.map weight).sum + weight next := sum_map_set present
  simp only [total]
  omega

theorem total_checks {index : Nat} (weight : Call -> Nat)
    (present : metering.checks[index]? = some call) :
    total weight { metering with
        checks := metering.checks.set index next, metrics := counted } + weight call =
      metering.total weight + weight next := by
  have replaced : ((metering.checks.set index next).map weight).sum + weight call =
      (metering.checks.map weight).sum + weight next := sum_map_set present
  simp only [total]
  omega

/-- A call that has not begun contributes to no total. -/
theorem total_received {weight : Call -> Nat} {message : ServerMessage}
    (idle : weight (.received message) = 0) :
    total weight { metering with handlers := metering.handlers ++ [.received message] } =
        metering.total weight ∧
      total weight { metering with checks := metering.checks ++ [.received message] } =
        metering.total weight := by
  simp [total, idle]

theorem Balanced.of_received {labels : Labels} {message : ServerMessage}
    (balanced : Balanced codec metering labels) :
    Balanced codec { metering with handlers := metering.handlers ++ [.received message] } labels ∧
      Balanced codec { metering with checks := metering.checks ++ [.received message] } labels := by
  have started := @total_received metering (Call.started labels) message rfl
  have underWay := @total_received metering (Call.underWay labels) message rfl
  have panicked := @total_received metering (Call.panicked codec labels) message rfl
  have observed := @total_received metering (Call.observed labels) message rfl
  constructor
  · exact ⟨started.1 ▸ balanced.1, underWay.1 ▸ panicked.1 ▸ balanced.2, observed.1 ▸ balanced.3⟩
  · exact ⟨started.2 ▸ balanced.1, underWay.2 ▸ panicked.2 ▸ balanced.2, observed.2 ▸ balanced.3⟩

/-- Totals that change as one call does keep the balance. -/
theorem Balanced.of_exchange {labels : Labels} (balanced : Balanced codec metering labels)
    (effect : CallStep service codec metering.metrics call next after.metrics)
    (totals : forall weight : Call -> Nat,
      after.total weight + weight call = metering.total weight + weight next) :
    Balanced codec after labels := by
  rcases effect.exchange labels with ⟨queries, concurrent, durations⟩
  rcases balanced with ⟨queriesBefore, concurrentBefore, durationsBefore⟩
  have started := totals (Call.started labels)
  have underWay := totals (Call.underWay labels)
  have panicked := totals (Call.panicked codec labels)
  have observed := totals (Call.observed labels)
  constructor <;> omega

theorem Step.balanced {labels : Labels} (effect : Step service codec metering action after)
    (balanced : Balanced codec metering labels) : Balanced codec after labels := by
  cases effect with
  | received message => exact balanced.of_received.1
  | checked dataSourceName opId message => exact balanced.of_received.2
  | handler index call next counted present effect =>
      exact balanced.of_exchange effect fun weight => total_handlers weight present
  | check index call next counted present effect =>
      exact balanced.of_exchange effect fun weight => total_checks weight present

theorem balanced_of_reaches (reached : Reaches (step service codec) anyStep empty metering)
    (labels : Labels) : Balanced codec metering labels :=
  reached.invariant ⟨rfl, rfl, rfl⟩ fun _ _ _ _ balanced _ taken =>
    (step_spec taken).balanced balanced

end Metering

/-! ## What a call has come to -/

theorem ProxyService.prepare_querying {message : ServerMessage} {query : Query}
    (prepared : service.prepare message = .querying query) :
    message.opId = some query.opId ∧ message.protocolVersion = 2 ∧
      service.dataSources.lookup message.dataSourceName = some query.dataSource ∧
      service.wasmModules.lookup query.dataSource.providerType = some (.ok query.runtime) ∧
      query.payload = message.payload := by
  unfold ProxyService.prepare at prepared
  cases address : message.opId with
  | none => simp only [address, reduceCtorEq] at prepared
  | some opId =>
      by_cases unsupported : message.protocolVersion ≠ 2
      · simp only [address, if_pos unsupported, reduceCtorEq] at prepared
      · simp only [address, if_neg unsupported] at prepared
        cases found : service.dataSources.lookup message.dataSourceName with
        | none => simp only [found, reduceCtorEq] at prepared
        | some dataSource =>
            simp only [found] at prepared
            rcases loaded : service.wasmModules.lookup dataSource.providerType
              with _ | error | runtime <;>
              simp only [loaded, reduceCtorEq, Prepared.querying.injEq] at prepared
            subst prepared
            exact ⟨rfl, not_not.mp unsupported, rfl, loaded, rfl⟩

/-- A provider call panics over a list of query types that does not decode and
over nothing else. -/
theorem Query.call_panicked_iff {message : ServerMessage} {query : Query} {provider : Provider}
    (prepared : service.prepare message = .querying query) :
    query.call codec provider = .panicked ↔ Undecodable service codec provider message := by
  rcases ProxyService.prepare_querying prepared with ⟨address, version, found, loaded, payload⟩
  rw [undecodable_iff (by rw [address]; rfl) version found loaded, ← payload]
  unfold Query.call
  constructor
  · intro panicked
    rcases ProxyService.callProvider_answers codec provider query.payload query.runtime
      query.dataSource query.opId with ⟨response, returned, _⟩ | ⟨_, asks, undecoded⟩
    · rw [returned] at panicked
      cases panicked
    · exact ⟨asks, undecoded⟩
  · rintro ⟨asks, undecoded⟩
    rw [asks, ProxyService.callProvider, ProxyService.handleSupportedQueryTypes, undecoded]
    rfl

/-- A call is where the first part of `handle_message_inner` has sent it. -/
def Call.Prepared (service : ProxyService) : Call -> Prop
  | .received _ => True
  | .querying message query => service.prepare message = .querying query
  | .refused message result => service.prepare message = .answered result
  | .lost message => service.prepare message = .panicked
  | .ended message query _ => service.prepare message = .querying query
  | .dead message query => service.prepare message = .querying query

theorem CallStep.prepared (effect : CallStep service codec metrics call next counted)
    (before : call.Prepared service) : next.Prepared service := by
  cases effect with
  | refused message result prepared => exact prepared
  | started message query prepared => exact prepared
  | lost message prepared => exact prepared
  | finished => exact before
  | panicked => exact before
  | died => exact before

namespace Metering

variable {metering after : Metering} {action : Action}

def calls (metering : Metering) : List Call :=
  metering.handlers ++ metering.checks

theorem Step.prepared (effect : Step service codec metering action after)
    (before : forall call, call ∈ metering.calls -> call.Prepared service) :
    forall call, call ∈ after.calls -> call.Prepared service := by
  have handlers (call : Call) (member : call ∈ metering.handlers) : call.Prepared service :=
    before call (List.mem_append_left _ member)
  have checks (call : Call) (member : call ∈ metering.checks) : call.Prepared service :=
    before call (List.mem_append_right _ member)
  intro call member
  rcases List.mem_append.mp member with handled | checked
  · cases effect with
    | received message =>
        rcases List.mem_append.mp handled with old | new
        · exact handlers call old
        · rw [List.mem_singleton.mp new]
          trivial
    | handler index taken next counted present effect =>
        rcases List.mem_or_eq_of_mem_set handled with old | rfl
        · exact handlers call old
        · exact effect.prepared (handlers taken (List.mem_of_getElem? present))
    | _ => exact handlers call handled
  · cases effect with
    | checked dataSourceName opId message =>
        rcases List.mem_append.mp checked with old | new
        · exact checks call old
        · rw [List.mem_singleton.mp new]
          trivial
    | check index taken next counted present effect =>
        rcases List.mem_or_eq_of_mem_set checked with old | rfl
        · exact checks call old
        · exact effect.prepared (checks taken (List.mem_of_getElem? present))
    | _ => exact checks call checked

theorem prepared_of_reaches (reached : Reaches (step service codec) anyStep empty metering) :
    forall call, call ∈ metering.calls -> call.Prepared service :=
  reached.invariant (by simp [calls, empty]) fun _ _ _ _ before _ taken =>
    (step_spec taken).prepared before

theorem total_eq_zero_iff (weight : Call -> Nat) :
    metering.total weight = 0 ↔ forall call, call ∈ metering.calls -> weight call = 0 := by
  simp only [total, calls, ← List.sum_append, ← List.map_append, List.sum_eq_zero_iff,
    List.forall_mem_map]

/-! ## The readings -/

/-- Once no provider works on anything, the gauge reads zero everywhere exactly
if no runtime has panicked and no provider has listed its query types in bytes
that do not decode. -/
theorem gauge_settles_iff (service : ProxyService) (codec : Codec) (metering : Metering)
    (reached : Reaches (step service codec) anyStep empty metering)
    (idle : forall message query, Call.querying message query ∉ metering.calls) :
    (forall labels, metering.metrics.concurrentQueries labels = 0) ↔
      (forall message query, Call.dead message query ∉ metering.calls) ∧
        forall message query provider, .ended message query provider ∈ metering.calls ->
          ¬ Undecodable service codec provider message := by
  have resting (labels : Labels) : metering.total (Call.underWay labels) = 0 := by
    rw [total_eq_zero_iff]
    intro call member
    cases call with
    | querying message query => exact absurd member (idle message query)
    | _ => rfl
  have gauge (labels : Labels) : metering.metrics.concurrentQueries labels = 0 ↔
      metering.total (Call.panicked codec labels) = 0 := by
    rw [(balanced_of_reaches reached labels).concurrentQueries, resting]
    omega
  have prepared := prepared_of_reaches reached
  simp only [gauge, total_eq_zero_iff]
  constructor
  · intro settled
    constructor
    · intro message query member
      have zero := settled query.labels _ member
      simp [Call.panicked, Query.count] at zero
    · intro message query provider member undecodable
      have panicked := (Query.call_panicked_iff (prepared _ member)).mpr undecodable
      have zero := settled query.labels _ member
      simp [Call.panicked, panicked, Query.count] at zero
  · rintro ⟨alive, decodable⟩ labels call member
    cases call with
    | dead message query => exact absurd member (alive message query)
    | ended message query provider =>
        cases outcome : query.call codec provider with
        | returned response => simp only [Call.panicked, outcome]
        | panicked =>
            have undecodable := (Query.call_panicked_iff (prepared _ member)).mp outcome
            exact absurd undecodable (decodable message query provider member)
    | _ => rfl

/-- A status check overlaps with three calls of the relay.  One of these ends, one
panics over what its provider answers, and one in the runtime. -/
def overlapping : List Action :=
  [.received ⟨some 7, "metrics", 2, .getSupportedQueryTypes⟩,
    .received ⟨some 8, "metrics", 2, .getConfigSchema⟩, .checked "metrics" 9,
    .received ⟨some 10, "metrics", 2, .createCells ⟨⟨[], "application/json"⟩, "status"⟩⟩,
    .begun 0, .checkBegun 0, .begun 1, .begun 2, .answered 1 Handling.plainProvider, .died 2,
    .checkAnswered 0 Handling.plainProvider, .answered 0 Handling.plainProvider]

def overlapped : Metering :=
  (run (step Daemon.plainService Handling.plainCodec) anyStep empty overlapping).get rfl

theorem overlapped_reached :
    Reaches (step Daemon.plainService Handling.plainCodec) anyStep empty overlapped :=
  reaches_get_run overlapping rfl

/-- Two calls stay on the gauge. -/
theorem gauge_settles_iff_overlapped :
    ¬ forall labels, overlapped.metrics.concurrentQueries labels = 0 := by
  intro settled
  have idle : forall message query, Call.querying message query ∉ overlapped.calls := by
    intro message query member
    rcases List.mem_cons.mp member with same | member
    · cases same
    · rcases List.mem_cons.mp member with same | member
      · cases same
      · rcases List.mem_cons.mp member with same | member
        · cases same
        · cases List.mem_singleton.mp member
  obtain ⟨_, decodable⟩ := (gauge_settles_iff Daemon.plainService Handling.plainCodec
    overlapped overlapped_reached idle).mp settled
  have undecodable : Undecodable Daemon.plainService Handling.plainCodec Handling.plainProvider
      ⟨some 7, "metrics", 2, .getSupportedQueryTypes⟩ :=
    ⟨rfl, rfl, rfl, Handling.plainSource, ⟨[0]⟩, [0], rfl, rfl, rfl, rfl⟩
  exact decodable _ _ _ List.mem_cons_self undecodable

end Metering
end Service
end Fpd
