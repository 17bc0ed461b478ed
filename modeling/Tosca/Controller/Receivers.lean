/-
# Starting the event receivers

`Controller::start_event_receivers` opens one bounded channel and walks the registry in
order. It skips a device that already has an event task and a device without events; for
every other device it connects to the device's broker, subscribes to its topic and spawns
a task running the fan-in loop. The first failed subscription ends the walk with its
error, leaving the tasks already spawned running. When the walk spawned nothing, the call
fails with an `Events` error.

`tokio`'s `mpsc::channel` asserts that its capacity is positive, and the semaphore behind
it that the capacity is at most `Semaphore::MAX_PERMITS`, `usize::MAX >> 3`. A buffer size
of zero, or one above that bound, therefore panics before the walk. The model returns
`none` for that panic.
-/

import Mathlib.Data.List.Forall2
import Tosca.Controller.Device
import Tosca.Controller.Subscriber

namespace Tosca

/-- `rumqttc`'s `MqttOptions` as `EventsRunner::init` fills them. -/
structure MqttOptions where
  clientId : String
  brokerAddress : String
  port : UInt16
  /-- `KEEP_ALIVE_TIME`, in seconds. -/
  keepAlive : Nat
  deriving DecidableEq, Repr

/-- A spawned subscriber task: what `run_global_event_subscriber` is handed besides the
channel, namely the device identifier, the broker connection and the cancellation token. -/
structure SpawnedTask where
  id : Nat
  options : MqttOptions
  topic : String
  cancellationToken : CancellationToken
  deriving DecidableEq, Repr

/-- What a broker answers to a subscription: nothing, or a client error (by its message). -/
abbrev Subscribe := MqttOptions → String → Except String Unit

/-- Modelled from the spec: the conversion of a `rumqttc` client error into the crate's
error (`crate::error` is not among the sources). A failed subscription "during startup"
is one of the spec's "Events errors". -/
def Error.fromClientError (message : String) : Error := ⟨.events, message⟩

/-- The error returned when the walk spawned nothing. -/
def noReceiverError : Error := ⟨.events, "No event receiver tasks has started"⟩

namespace EventsRunner

/-- `EventsRunner::init`, the connection part: the client options for device `id`. -/
def init (id : Nat) (events : Events) : MqttOptions :=
  ⟨toString id, events.description.brokerData.address, events.description.brokerData.port, 5⟩

/-- `EventsRunner::run_global_subscriber`: subscribe to the device's topic, then spawn the
fan-in task for it. -/
def runGlobalSubscriber (subscribe : Subscribe) (events : Events) (id : Nat) :
    Except Error SpawnedTask :=
  match subscribe (init id events) events.description.topic with
  | .error e => .error (Error.fromClientError e)
  | .ok () => .ok ⟨id, init id events, events.description.topic, events.cancellationToken⟩

end EventsRunner

/-- The `for` loop of `start_event_receivers` over the enumerated registry: the tasks
spawned so far, `started_count`, and the error that ended the walk, if one did. -/
def startLoop (subscribe : Subscribe) :
    List (Nat × Device) → List SpawnedTask → Nat → List SpawnedTask × Nat × Option Error
  | [], spawned, startedCount => (spawned, startedCount, none)
  | (id, device) :: rest, spawned, startedCount =>
    if device.eventHandle.isSome then startLoop subscribe rest spawned startedCount
    else
      match device.events with
      | none => startLoop subscribe rest spawned startedCount
      | some events =>
        match EventsRunner.runGlobalSubscriber subscribe events id with
        | .error e => (spawned, startedCount, some e)
        | .ok task => startLoop subscribe rest (spawned ++ [task]) (startedCount + 1)

/-- What `start_event_receivers` leaves behind: the tasks it spawned, in spawn order, and
its result (`Ok` stands for the receiving end of the channel). -/
structure StartOutcome where
  spawned : List SpawnedTask
  result : Except Error Unit

/-- `usize::MAX` on the 64-bit hosts the controller runs on. -/
def usizeMax : Nat := 18446744073709551615

/-- `tokio`'s `Semaphore::MAX_PERMITS`, `usize::MAX >> 3`: the largest number of permits,
and so the largest capacity of a bounded channel. -/
def maxPermits : Nat := usizeMax >>> 3

/-- `mpsc::channel(buffer)` panics: its assertion `buffer > 0` fails, or its semaphore's
assertion `permits <= MAX_PERMITS` does. -/
def channelPanics (bufferSize : Nat) : Prop := bufferSize = 0 ∨ maxPermits < bufferSize

instance : DecidablePred channelPanics := fun _ => inferInstanceAs (Decidable (_ ∨ _))

/-- `Controller::start_event_receivers`; `none` is the panic of `mpsc::channel`. -/
def startEventReceivers (devices : List Device) (bufferSize : Nat) (subscribe : Subscribe) :
    Option StartOutcome :=
  if channelPanics bufferSize then none
  else
    let (spawned, startedCount, failure) := startLoop subscribe devices.enum [] 0
    some
      { spawned
        result :=
          match failure with
          | some e => .error e
          | none => if startedCount = 0 then .error noReceiverError else .ok () }

/-! ## Which devices get a task -/

/-- The devices a walk over `entries` subscribes: those with events and no event task
yet, each with its identifier and events. -/
def eligibleOf (entries : List (Nat × Device)) : List (Nat × Events) :=
  entries.filterMap fun entry =>
    if entry.2.eventHandle.isSome then none else entry.2.events.map (entry.1, ·)

/-- The devices of a registry that `start_event_receivers` subscribes, in registry order. -/
def eligible (devices : List Device) : List (Nat × Events) := eligibleOf devices.enum

@[simp] theorem eligibleOf_nil : eligibleOf [] = [] := rfl

/-- One step of the walk: the entry is skipped, or it is the next eligible device. -/
theorem eligibleOf_cons (id : Nat) (device : Device) (rest : List (Nat × Device)) :
    (device.eventHandle.isSome ∨ device.events = none) ∧
        eligibleOf ((id, device) :: rest) = eligibleOf rest ∨
      ∃ events, device.eventHandle = none ∧ device.events = some events ∧
        eligibleOf ((id, device) :: rest) = (id, events) :: eligibleOf rest := by
  rcases device with ⟨requests, _ | events, _ | handle⟩ <;>
    simp [eligibleOf, List.filterMap_cons]

theorem startLoop_cons_skip (subscribe : Subscribe) {id : Nat} {device : Device}
    (rest : List (Nat × Device)) (spawned : List SpawnedTask) (startedCount : Nat)
    (skipped : device.eventHandle.isSome ∨ device.events = none) :
    startLoop subscribe ((id, device) :: rest) spawned startedCount =
      startLoop subscribe rest spawned startedCount := by
  rcases skipped with handle | none_ <;> simp_all [startLoop]

theorem startLoop_cons_eligible (subscribe : Subscribe) {id : Nat} {device : Device}
    {events : Events} (rest : List (Nat × Device)) (spawned : List SpawnedTask)
    (startedCount : Nat) (handle : device.eventHandle = none) (has : device.events = some events) :
    startLoop subscribe ((id, device) :: rest) spawned startedCount =
      match EventsRunner.runGlobalSubscriber subscribe events id with
      | .error e => (spawned, startedCount, some e)
      | .ok task => startLoop subscribe rest (spawned ++ [task]) (startedCount + 1) := by
  simp [startLoop, handle, has]

theorem runGlobalSubscriber_id {subscribe : Subscribe} {events : Events} {id : Nat}
    {task : SpawnedTask} (spawned : EventsRunner.runGlobalSubscriber subscribe events id = .ok task) :
    task.id = id := by
  unfold EventsRunner.runGlobalSubscriber at spawned
  split at spawned <;> cases spawned
  rfl

/-- The walk spawns at most one task per registry entry: the tasks it adds carry a
sublist of the entries' identifiers. -/
theorem startLoop_spawned (subscribe : Subscribe) :
    ∀ (entries : List (Nat × Device)) (spawned : List SpawnedTask) (startedCount : Nat),
      ∃ extra, (startLoop subscribe entries spawned startedCount).1 = spawned ++ extra ∧
        (extra.map (·.id)).Sublist (entries.map Prod.fst)
  | [], spawned, _ => ⟨[], by simp [startLoop]⟩
  | (id, device) :: rest, spawned, startedCount => by
    rcases eligibleOf_cons id device rest with ⟨skipped, -⟩ | ⟨events, handle, has, -⟩
    · obtain ⟨extra, walk, ids⟩ := startLoop_spawned subscribe rest spawned startedCount
      rw [startLoop_cons_skip subscribe rest spawned startedCount skipped]
      exact ⟨extra, walk, ids.cons _⟩
    · rw [startLoop_cons_eligible subscribe rest spawned startedCount handle has]
      cases first : EventsRunner.runGlobalSubscriber subscribe events id with
      | error e => exact ⟨[], by simp⟩
      | ok task =>
        obtain ⟨extra, walk, ids⟩ :=
          startLoop_spawned subscribe rest (spawned ++ [task]) (startedCount + 1)
        refine ⟨task :: extra, by simp [walk], ?_⟩
        simpa [runGlobalSubscriber_id first] using ids.cons₂ id

/-- A call spawns at most one task per device. -/
theorem startEventReceivers_ids_nodup {devices : List Device} {bufferSize : Nat}
    {subscribe : Subscribe} {outcome : StartOutcome}
    (call : startEventReceivers devices bufferSize subscribe = some outcome) :
    (outcome.spawned.map (·.id)).Nodup := by
  unfold startEventReceivers at call
  split at call
  · cases call
  · obtain ⟨extra, walk, ids⟩ := startLoop_spawned subscribe devices.enum [] 0
    cases call
    simp only [walk, List.nil_append]
    exact (ids.trans (by rw [List.enum_map_fst])).nodup (List.nodup_range _)

/-- A device that publishes events at `address`, with no event task yet. -/
def publishingDevice (topic : String) (token : Nat) : Device :=
  ⟨[], some ⟨⟨⟨"192.168.1.10", 1883⟩, topic⟩, ⟨token⟩⟩, none⟩

end Tosca
