/-
# The event runtime

The controller, the subscriber tasks it spawns and the consumer of their events run
concurrently. The model is their interleaving semantics: a state holding the registry,
every `start_event_receivers` call made so far with its channel and the tasks it spawned,
and the cancelled tokens; and one action for each thing a party can do next. A run is a
list of actions, and any order of them is a possible schedule.

* The controller calls `start_event_receivers` (atomically: the tasks it spawns only touch
  their own channel and token), or takes the next step of `shutdown`.
* A task's race yields a poll result, or takes the cancellation branch once its token is
  cancelled; a task with a decoded batch completes its send, which waits while the channel
  is full and fails once the receiver is gone.
* The consumer takes the next payload, or drops the receiver. A call that returns an
  error drops the receiver itself.

`shutdown` walks the registry in order, cancelling each device's token and then awaiting
the task its `event_handle` names. `start_event_receivers` never stores the handles of the
tasks it spawns, which is what `Tosca.Controller.Runtime` shows in its counterexamples.
-/

import Tosca.Controller.Receivers

namespace Tosca

variable {Ev : Type}

/-- A subscriber task: how it was spawned and where its loop is. -/
structure Task (Ev : Type) where
  spawned : SpawnedTask
  phase : Phase (EventPayload Ev)

/-- One `start_event_receivers` call: its bounded channel, what the consumer has taken out
of it, whether the receiver is gone, and the tasks the call spawned (they hold the senders). -/
structure Call (Ev : Type) where
  capacity : Nat
  buffer : List (EventPayload Ev)
  received : List (EventPayload Ev)
  closed : Bool
  tasks : List (Task Ev)

/-- Where the controller is: serving calls, inside `shutdown` (about to cancel the token of
device `next`, or awaiting its task), returned from `shutdown`, or panicked. -/
inductive Stage
  | running
  | stopping (next : Nat)
  | awaiting (next : Nat)
  | shutDown
  | panicked
  deriving DecidableEq, Repr

/-- The controller and everything it has spawned. -/
structure Runtime (Ev : Type) where
  devices : List Device
  calls : List (Call Ev)
  cancelled : List CancellationToken
  stage : Stage

/-- What a task or the consumer of one call does next. -/
inductive CallAct (Ev : Type)
  /-- Task `task`'s race yields a poll result. -/
  | poll (task : Nat) (event : PollResult Ev)
  /-- Task `task`'s race takes the cancellation branch. -/
  | cancel (task : Nat)
  /-- Task `task`'s pending send completes. -/
  | send (task : Nat)
  /-- The consumer takes the next payload. -/
  | receive
  /-- The consumer drops the receiver. -/
  | dropReceiver

/-- What happens next in the runtime. -/
inductive Act (Ev : Type)
  /-- The controller calls `start_event_receivers(buffer_size)`; the broker answers the
  subscriptions with `subscribe`. -/
  | start (bufferSize : Nat) (subscribe : Subscribe)
  /-- A party of call `call` acts. -/
  | call (call : Nat) (act : CallAct Ev)
  /-- `shutdown` takes its next step. -/
  | shutdown

namespace Call

/-- The channel of a call that spawned `outcome.spawned`, open when the call returned the
receiver and closed when it returned an error. -/
def ofOutcome (bufferSize : Nat) (outcome : StartOutcome) : Call Ev :=
  ⟨bufferSize, [], [], outcome.result matches .error _,
    outcome.spawned.map fun spawned => ⟨spawned, .polling⟩⟩

/-- Replace the phase of task `i`. -/
def setPhase (call : Call Ev) (i : Nat) (spawned : SpawnedTask) (phase : Phase (EventPayload Ev)) :
    Call Ev :=
  { call with tasks := call.tasks.set i ⟨spawned, phase⟩ }

/-- One action of a task or of the consumer, given which tokens are cancelled. -/
def step (cancelled : CancellationToken → Bool) (call : Call Ev) : CallAct Ev → Option (Call Ev)
  | .poll i event =>
    match call.tasks[i]? with
    | some ⟨spawned, .polling⟩ =>
      some (call.setPhase i spawned (selectBranch (EventPayload.mk spawned.id) (.polled event)))
    | _ => none
  | .cancel i =>
    match call.tasks[i]? with
    | some ⟨spawned, .polling⟩ =>
      if cancelled spawned.cancellationToken then
        some (call.setPhase i spawned (selectBranch (EventPayload.mk spawned.id) .cancelled))
      else none
    | _ => none
  | .send i =>
    match call.tasks[i]? with
    | some ⟨spawned, .sending payload⟩ =>
      if call.closed then some (call.setPhase i spawned .stopped)
      else if call.buffer.length < call.capacity then
        some { call.setPhase i spawned .polling with buffer := call.buffer ++ [payload] }
      else none
    | _ => none
  | .receive =>
    if call.closed then none
    else
      match call.buffer with
      | [] => none
      | payload :: rest => some { call with buffer := rest, received := call.received ++ [payload] }
  | .dropReceiver => if call.closed then none else some { call with closed := true, buffer := [] }

end Call

namespace Runtime

/-- A controller over a registry, before any call. -/
def init (devices : List Device) : Runtime Ev := ⟨devices, [], [], .running⟩

/-- The task a join handle names. -/
def taskAt (s : Runtime Ev) (handle : JoinHandle) : Option (Task Ev) :=
  (s.calls[handle.call]?).bind fun call => call.tasks[handle.task]?

/-- The tasks still running: every spawned task that has not stopped. -/
def liveTasks (s : Runtime Ev) : List (Task Ev) :=
  (s.calls.flatMap Call.tasks).filter fun task => !task.phase.isStopped

/-- `shutdown`, one step: cancel device `next`'s token, then await the task its handle
names, then go on with the next device. -/
def shutdownStep (s : Runtime Ev) : Option (Runtime Ev) :=
  match s.stage with
  | .running => some { s with stage := .stopping 0 }
  | .stopping next =>
    match s.devices[next]? with
    | none => some { s with stage := .shutDown }
    | some device =>
      some { s with
        cancelled := (device.events.map (·.cancellationToken)).toList ++ s.cancelled
        stage := .awaiting next }
  | .awaiting next =>
    match (s.devices[next]?).bind Device.eventHandle with
    | none => some { s with stage := .stopping (next + 1) }
    | some handle =>
      if (s.taskAt handle).all (·.phase.isStopped) then some { s with stage := .stopping (next + 1) }
      else none
  | _ => none

/-- One action. `none`: the action cannot happen in this state. -/
def step (s : Runtime Ev) : Act Ev → Option (Runtime Ev)
  | .start bufferSize subscribe =>
    if s.stage = .running then
      match startEventReceivers s.devices bufferSize subscribe with
      | none => some { s with stage := .panicked }
      | some outcome => some { s with calls := s.calls ++ [Call.ofOutcome bufferSize outcome] }
    else none
  | .call c act =>
    match s.calls[c]? with
    | none => none
    | some call =>
      (call.step (s.cancelled.contains ·) act).map fun call => { s with calls := s.calls.set c call }
  | .shutdown => s.shutdownStep

/-- Run a schedule; `none` when some action of it cannot happen. -/
def run (s : Runtime Ev) (acts : List (Act Ev)) : Option (Runtime Ev) := acts.foldlM step s

end Runtime

/-! ## Event tasks are not recorded -/

/-- Two `start_event_receivers` calls over one publishing device, every subscription
succeeding and no shutdown between them: two live tasks serve device 0, and its
`event_handle` records neither. -/
theorem start_twice_two_live_tasks :
    ∃ s, (@Runtime.init Unit [publishingDevice "light" 0]).run
        [.start 1 (fun _ _ => .ok ()), .start 1 (fun _ _ => .ok ())] = some s ∧
      (s.liveTasks.filter (·.spawned.id == 0)).length = 2 ∧
      s.devices.map Device.eventHandle = [none] :=
  ⟨_, rfl, rfl, rfl⟩

/-- A `start_event_receivers` call followed by `shutdown`, with no step of the spawned task
in between: `shutdown` returns while the task is still live, never having awaited it. -/
theorem shutdown_returns_with_live_task :
    ∃ s, (@Runtime.init Unit [publishingDevice "light" 0]).run
        [.start 1 (fun _ _ => .ok ()), .shutdown, .shutdown, .shutdown, .shutdown] = some s ∧
      s.stage = .shutDown ∧ s.liveTasks.length = 1 :=
  ⟨_, rfl, rfl, rfl⟩

end Tosca
