/-
# The subscriber loop

Each event subscription runs one loop. At the top of every pass it races the task's
cancellation token against the broker's next poll result. Cancellation ends the loop;
a poll result is handed to `parse_event`, and only a decoded batch goes on to the sink,
whose send may fail and then also ends the loop. Connection errors, outgoing packets,
packets other than publishes and undecodable payloads are logged and dropped.

The fan-in loop of `start_event_receivers` and the per-device fan-out loop differ only in
what they send: the fan-in loop tags each batch with the device's identifier, the
fan-out loop sends the bare batch. Both are `runSubscriber`, applied to that tagging.
The fan-out loop also sleeps 100 ms after a pass that sent; time is not modelled.

A run is driven by two input sequences, the outcomes of the races and the results of
the sends, and `runSubscriber_spec` says in closed form what any run does with them.
-/

import Mathlib.Data.List.Basic

namespace Tosca

variable {Ev α : Type}

/-! ## Broker events -/

/-- The payload of a publish packet, by what `serde_json::from_slice` makes of its bytes
when asked for an `Option<Events>`: an error, `null`, or a batch of events. -/
inductive Payload (Ev : Type)
  | undecodable (error : String)
  | null
  | events (batch : Ev)

/-- `rumqttc`'s `Packet`: a publish carries a payload; every other packet is ignored. -/
inductive Packet (Ev : Type)
  | publish (payload : Payload Ev)
  | other (name : String)

/-- `rumqttc`'s `Event`: a packet received from the broker, or one sent to it. -/
inductive MqttEvent (Ev : Type)
  | incoming (packet : Packet Ev)
  | outgoing (name : String)

/-- What `EventLoop::poll` returns: an event, or a connection error (by its message). -/
abbrev PollResult (Ev : Type) := Except String (MqttEvent Ev)

/-- `serde_json::from_slice::<Option<Events>>` on a publish payload. -/
def Payload.decode : Payload Ev → Except String (Option Ev)
  | .undecodable error => .error error
  | .null => .ok none
  | .events batch => .ok (some batch)

/-- `parse_event`: the batch a poll result carries, if it carries one. -/
def parseEvent (event : PollResult Ev) : Option Ev :=
  match event with
  | .error _ => none
  | .ok (.outgoing _) => none
  | .ok (.incoming packet) =>
    match packet with
    | .other _ => none
    | .publish payload =>
      match payload.decode with
      | .ok batch => batch
      | .error _ => none

/-- `parse_event` decodes a batch from exactly the publishes whose payload is that batch: a
connection error, an outgoing packet, any other incoming packet, an undecodable payload and
`null` all give nothing. -/
theorem parseEvent_eq_some_iff (event : PollResult Ev) (batch : Ev) :
    parseEvent event = some batch ↔ event = .ok (.incoming (.publish (.events batch))) := by
  rcases event with _ | ⟨⟨⟨_ | _ | _⟩ | _⟩ | _⟩ <;> simp [parseEvent, Payload.decode]

/-- `EventPayload`: a batch tagged with the identifier of the device it came from. -/
structure EventPayload (Ev : Type) where
  deviceId : Nat
  events : Ev
  deriving DecidableEq, Repr

/-! ## One pass of the loop -/

/-- Where a subscriber task is: racing at the top of the loop, waiting for the sink to
take an item, or finished. -/
inductive Phase (α : Type)
  | polling
  | sending (item : α)
  | stopped
  deriving DecidableEq, Repr

/-- The loop has finished. -/
def Phase.isStopped : Phase α → Bool
  | .stopped => true
  | _ => false

/-- The branch `tokio::select!` took at the top of a pass. -/
inductive SelectOutcome (Ev : Type)
  | cancelled
  | polled (event : PollResult Ev)

/-- What a send into the sink returned: the item went in, or the sink has no receiver. -/
inductive SendResult
  | delivered
  | failed
  deriving DecidableEq, Repr

namespace SelectOutcome

/-- The outcome is the cancellation branch. -/
def isCancelled : SelectOutcome Ev → Bool
  | .cancelled => true
  | .polled _ => false

/-- The batch decoded in this pass, if any. -/
def decoded : SelectOutcome Ev → Option Ev
  | .cancelled => none
  | .polled event => parseEvent event

end SelectOutcome

/-- The body of a pass after the race: stop on cancellation, go round again on a result
`parse_event` drops, and otherwise send the tagged batch. -/
def selectBranch (wrap : Ev → α) : SelectOutcome Ev → Phase α
  | .cancelled => .stopped
  | .polled event =>
    match parseEvent event with
    | none => .polling
    | some batch => .sending (wrap batch)

/-- What a run of the loop did: every send it attempted with its result, and where it is. -/
structure LoopRun (α : Type) where
  attempts : List (α × SendResult)
  phase : Phase α

/-- The subscriber loop, run on the race outcomes and send results it meets. It stops
after a cancellation or a failed send, and waits when either input runs out. -/
def runSubscriber (wrap : Ev → α) : List (SelectOutcome Ev) → List SendResult → LoopRun α
  | [], _ => ⟨[], .polling⟩
  | outcome :: outcomes, sends =>
    match selectBranch wrap outcome, sends with
    | .polling, sends => runSubscriber wrap outcomes sends
    | .stopped, _ => ⟨[], .stopped⟩
    | .sending item, [] => ⟨[], .sending item⟩
    | .sending item, .failed :: _ => ⟨[(item, .failed)], .stopped⟩
    | .sending item, .delivered :: sends =>
      let rest := runSubscriber wrap outcomes sends
      ⟨(item, .delivered) :: rest.attempts, rest.phase⟩

/-- `run_global_event_subscriber`: the fan-in loop of device `id`. -/
def runGlobalEventSubscriber (id : Nat) : List (SelectOutcome Ev) → List SendResult →
    LoopRun (EventPayload Ev) :=
  runSubscriber (EventPayload.mk id)

/-- `run_event_subscriber`: the fan-out loop, sending bare batches to a broadcast channel. -/
def runEventSubscriber : List (SelectOutcome Ev) → List SendResult → LoopRun Ev :=
  runSubscriber id

/-! ## What a run does -/

/-- The batches decoded before the first cancellation, in poll order. -/
def decodedBatches (outcomes : List (SelectOutcome Ev)) : List Ev :=
  (outcomes.takeWhile fun o => !o.isCancelled).filterMap SelectOutcome.decoded

/-- The index of the first failed send, or the number of sends when none fails. -/
def firstFailure (sends : List SendResult) : Nat :=
  sends.findIdx (· == .failed)

@[simp] theorem decodedBatches_nil : decodedBatches ([] : List (SelectOutcome Ev)) = [] := rfl

@[simp] theorem decodedBatches_cancelled (outcomes : List (SelectOutcome Ev)) :
    decodedBatches (.cancelled :: outcomes) = [] := rfl

@[simp] theorem decodedBatches_polled (event : PollResult Ev)
    (outcomes : List (SelectOutcome Ev)) :
    decodedBatches (.polled event :: outcomes) =
      (parseEvent event).toList ++ decodedBatches outcomes := by
  cases h : parseEvent event <;>
    simp [decodedBatches, SelectOutcome.isCancelled, SelectOutcome.decoded, h]

@[simp] theorem firstFailure_nil : firstFailure [] = 0 := rfl

@[simp] theorem firstFailure_failed (sends : List SendResult) :
    firstFailure (.failed :: sends) = 0 := by
  simp [firstFailure, List.findIdx_cons]

@[simp] theorem firstFailure_delivered (sends : List SendResult) :
    firstFailure (.delivered :: sends) = firstFailure sends + 1 := by
  simp [firstFailure, List.findIdx_cons]
  rfl

@[simp] theorem isCancelled_cancelled : (SelectOutcome.cancelled : SelectOutcome Ev).isCancelled :=
  rfl

@[simp] theorem isCancelled_polled (event : PollResult Ev) :
    (SelectOutcome.polled event).isCancelled = false := rfl

/-- Any run of the loop attempts one send per decoded batch, in poll order, each with the
next send result, up to and including the first failed send. It stops exactly when a send
failed, or when it reached a cancellation with every earlier send delivered: no other
outcome ends it. -/
theorem runSubscriber_spec (wrap : Ev → α) (outcomes : List (SelectOutcome Ev))
    (sends : List SendResult) :
    (runSubscriber wrap outcomes sends).attempts =
        (((decodedBatches outcomes).map wrap).zip sends).take (firstFailure sends + 1) ∧
      ((runSubscriber wrap outcomes sends).phase = .stopped ↔
        (firstFailure sends < (decodedBatches outcomes).length ∧
            firstFailure sends < sends.length) ∨
          ((∃ o ∈ outcomes, o.isCancelled) ∧
            (decodedBatches outcomes).length ≤ firstFailure sends ∧
            (decodedBatches outcomes).length ≤ sends.length)) := by
  induction outcomes generalizing sends with
  | nil => simp [runSubscriber]
  | cons outcome outcomes ih =>
    cases outcome with
    | cancelled => simp [runSubscriber, selectBranch]
    | polled event =>
      cases decode : parseEvent event with
      | none => simpa [runSubscriber, selectBranch, decode] using ih sends
      | some batch =>
        cases sends with
        | nil => simp [runSubscriber, selectBranch, decode]
        | cons send sends =>
          cases send with
          | failed => simp [runSubscriber, selectBranch, decode]
          | delivered => simp [runSubscriber, selectBranch, decode, ih sends]

/-- `parse_event` decodes a batch `e` from exactly the publishes whose payload decodes to
`e`. For every sequence of race outcomes and send results, the fan-in loop of device `id`
sends one `EventPayload { device_id: id, .. }` per batch `parse_event` decoded before the
first cancellation, in poll order, each send taking the next result, up to and including
the first failed send. It stops exactly after that failed send, or at the cancellation once
every earlier send was delivered; no other outcome ends it. -/
theorem runGlobalEventSubscriber_spec (id : Nat) (outcomes : List (SelectOutcome Ev))
    (sends : List SendResult) :
    (∀ (event : PollResult Ev) batch,
        parseEvent event = some batch ↔ event = .ok (.incoming (.publish (.events batch)))) ∧
      (runGlobalEventSubscriber id outcomes sends).attempts =
        (((decodedBatches outcomes).map (EventPayload.mk id)).zip sends).take
          (firstFailure sends + 1) ∧
      ((runGlobalEventSubscriber id outcomes sends).phase = .stopped ↔
        (firstFailure sends < (decodedBatches outcomes).length ∧
            firstFailure sends < sends.length) ∨
          ((∃ o ∈ outcomes, o.isCancelled) ∧
            (decodedBatches outcomes).length ≤ firstFailure sends ∧
            (decodedBatches outcomes).length ≤ sends.length)) :=
  ⟨parseEvent_eq_some_iff, runSubscriber_spec _ outcomes sends⟩

/-- The fan-out loop stops on a failed broadcast send, with no cancellation at all: one
decoded batch, sent while the channel has no receiver, ends the subscription. -/
theorem runEventSubscriber_stops_without_cancellation :
    let outcomes : List (SelectOutcome Unit) := [.polled (.ok (.incoming (.publish (.events ()))))]
    (∀ o ∈ outcomes, o.isCancelled = false) ∧
      (runEventSubscriber outcomes [.failed]).phase = .stopped := by
  decide

/-- For every sequence of race outcomes and broadcast send results, the fan-out loop sends
each batch decoded before the first cancellation, in poll order, and stops right after the
first cancellation it reaches with every earlier send delivered, or right after the first
broadcast send that fails because the channel has no receiver at that moment. -/
theorem runEventSubscriber_spec (outcomes : List (SelectOutcome Ev))
    (sends : List SendResult) :
    (runEventSubscriber outcomes sends).attempts =
        ((decodedBatches outcomes).zip sends).take (firstFailure sends + 1) ∧
      ((runEventSubscriber outcomes sends).phase = .stopped ↔
        (firstFailure sends < (decodedBatches outcomes).length ∧
            firstFailure sends < sends.length) ∨
          ((∃ o ∈ outcomes, o.isCancelled) ∧
            (decodedBatches outcomes).length ≤ firstFailure sends ∧
            (decodedBatches outcomes).length ≤ sends.length)) := by
  simpa using runSubscriber_spec id outcomes sends

end Tosca
