/-
# What the event channel delivers

Whatever the schedule, the channel of a `start_event_receivers` call holds at most its
capacity, and what its consumer receives from a device is, in order, a prefix of the
batches that device's task decoded: nothing is dropped while the receiver is there,
duplicated or reordered.

`Call.Inv` is the invariant of one call. Its heart is the flow equation: while the
receiver is there, the batches of a device received, still buffered and held by its task
in a pending send are exactly the batches its task decoded. Each action of a task or of
the consumer keeps it (`Call.Inv.step`), a new call starts with it, and so every state a
run reaches satisfies it (`Runtime.inv_run`).
-/

import Mathlib.Data.List.Infix
import Tosca.Controller.Runtime

namespace Tosca

variable {Ev : Type}

/-- The batch a task holds while its send is pending. -/
def Phase.pending : Phase (EventPayload Ev) → List Ev
  | .sending payload => [payload.events]
  | _ => []

/-- The batches a call action decodes for task `i`. -/
def CallAct.decoded (i : Nat) : CallAct Ev → List Ev
  | .poll j event => if j = i then (parseEvent event).toList else []
  | _ => []

/-- The batches an action decodes for task `i` of call `c`. -/
def Act.decoded (c i : Nat) : Act Ev → List Ev
  | .call c' act => if c' = c then act.decoded i else []
  | _ => []

/-- The batches task `i` of call `c` decoded along a run, in poll order. -/
def decodedEvents (c i : Nat) (acts : List (Act Ev)) : List Ev :=
  acts.flatMap (Act.decoded c i)

/-- The buffer size of a `start_event_receivers` call that opened a channel. -/
def Act.openedBuffer : Act Ev → Option Nat
  | .start bufferSize _ => if channelPanics bufferSize then none else some bufferSize
  | _ => none

namespace Call

/-- The batches of device `id` that went into the channel: received, then still buffered. -/
def sentBy (call : Call Ev) (id : Nat) : List Ev :=
  ((call.received ++ call.buffer).filter (·.deviceId == id)).map (·.events)

/-- The batches of device `id` the consumer has received. -/
def receivedFrom (call : Call Ev) (id : Nat) : List Ev :=
  (call.received.filter (·.deviceId == id)).map (·.events)

/-- The invariant of one call, where `decoded i` stands for the batches task `i` decoded. -/
structure Inv (decoded : Nat → List Ev) (call : Call Ev) : Prop where
  /-- The channel never holds more than its capacity. -/
  bounded : call.buffer.length ≤ call.capacity
  /-- The call spawned at most one task per device. -/
  ids_nodup : (call.tasks.map (·.spawned.id)).Nodup
  /-- A pending payload carries its task's device identifier. -/
  tagged : ∀ (i : Nat) (task : Task Ev) (payload : EventPayload Ev), call.tasks[i]? = some task →
    task.phase = .sending payload → payload.deviceId = task.spawned.id
  /-- Every payload in the channel comes from a device the call spawned a task for. -/
  origin : ∀ payload ∈ call.received ++ call.buffer,
    payload.deviceId ∈ call.tasks.map (·.spawned.id)
  /-- While the receiver is there, nothing a task decoded is lost or reordered. -/
  flow : ∀ i task, call.tasks[i]? = some task → call.closed = false →
    call.sentBy task.spawned.id ++ task.phase.pending = decoded i
  /-- What the consumer received from a device is a prefix of what its task decoded. -/
  received : ∀ i task, call.tasks[i]? = some task →
    call.receivedFrom task.spawned.id <+: decoded i
  /-- Tasks the call did not spawn decoded nothing. -/
  fresh : ∀ i, call.tasks.length ≤ i → decoded i = []

@[simp] theorem sentBy_setPhase (call : Call Ev) (i : Nat) (spawned : SpawnedTask)
    (phase : Phase (EventPayload Ev)) (id : Nat) :
    (call.setPhase i spawned phase).sentBy id = call.sentBy id := rfl

@[simp] theorem receivedFrom_setPhase (call : Call Ev) (i : Nat) (spawned : SpawnedTask)
    (phase : Phase (EventPayload Ev)) (id : Nat) :
    (call.setPhase i spawned phase).receivedFrom id = call.receivedFrom id := rfl

theorem tasks_getElem?_setPhase (call : Call Ev) (i j : Nat) (spawned : SpawnedTask)
    (phase : Phase (EventPayload Ev)) :
    (call.setPhase i spawned phase).tasks[j]? =
      if i = j ∧ i < call.tasks.length then some ⟨spawned, phase⟩ else call.tasks[j]? := by
  simp only [setPhase, List.getElem?_set]
  split_ifs <;> simp_all
  omega

/-- A task of a call after one task moved: the moved task, or an unchanged one elsewhere. -/
theorem tasks_setPhase_eq_some {call : Call Ev} {i j : Nat} {spawned : SpawnedTask}
    {phase : Phase (EventPayload Ev)} {task : Task Ev}
    (at_j : (call.setPhase i spawned phase).tasks[j]? = some task) :
    j = i ∧ task = ⟨spawned, phase⟩ ∨ j ≠ i ∧ call.tasks[j]? = some task := by
  rw [tasks_getElem?_setPhase] at at_j
  split_ifs at at_j with same
  · exact .inl ⟨same.1.symm, (Option.some.inj at_j).symm⟩
  · refine .inr ⟨fun eq => same ⟨eq.symm, ?_⟩, at_j⟩
    exact eq ▸ (List.getElem?_eq_some_iff.1 at_j).1

/-- Moving a task to another phase keeps the identifiers of the call's tasks. -/
theorem ids_setPhase {call : Call Ev} {i : Nat} {spawned : SpawnedTask}
    {before : Phase (EventPayload Ev)} (at_i : call.tasks[i]? = some ⟨spawned, before⟩)
    (phase : Phase (EventPayload Ev)) :
    (call.setPhase i spawned phase).tasks.map (·.spawned.id) = call.tasks.map (·.spawned.id) := by
  apply List.ext_getElem?
  intro j
  simp only [List.getElem?_map, tasks_getElem?_setPhase]
  split_ifs with same
  · simp [← same.1, at_i]
  · rfl

theorem sentBy_append_buffer (call : Call Ev) (payload : EventPayload Ev) (id : Nat) :
    { call with buffer := call.buffer ++ [payload] }.sentBy id =
      call.sentBy id ++ if payload.deviceId = id then [payload.events] else [] := by
  by_cases same : payload.deviceId = id <;> simp [sentBy, same]

/-- The phase a poll result leads to holds exactly the batch `parse_event` decoded. -/
theorem pending_selectBranch (id : Nat) (event : PollResult Ev) :
    (selectBranch (EventPayload.mk id) (.polled event)).pending = (parseEvent event).toList := by
  cases h : parseEvent event <;> simp [selectBranch, h, Phase.pending]

theorem deviceId_of_selectBranch {id : Nat} {outcome : SelectOutcome Ev}
    {payload : EventPayload Ev} (sending : selectBranch (EventPayload.mk id) outcome = .sending payload) :
    payload.deviceId = id := by
  unfold selectBranch at sending
  split at sending
  · cases sending
  · split at sending <;> cases sending
    rfl

namespace Inv

variable {decoded : Nat → List Ev} {call : Call Ev}

theorem lt_of_getElem? {l : List (Task Ev)} {i : Nat} {task : Task Ev}
    (at_i : l[i]? = some task) : i < l.length :=
  (List.getElem?_eq_some_iff.1 at_i).1

/-- Two tasks of a call at different positions serve different devices. -/
theorem id_ne (inv : call.Inv decoded) {i j : Nat} {a b : Task Ev}
    (at_i : call.tasks[i]? = some a) (at_j : call.tasks[j]? = some b) (ne : i ≠ j) :
    a.spawned.id ≠ b.spawned.id := by
  intro same
  have ids_i : (call.tasks.map (·.spawned.id))[i]? = some a.spawned.id := by simp [at_i]
  have ids_j : (call.tasks.map (·.spawned.id))[j]? = some b.spawned.id := by simp [at_j]
  have distinct := List.nodup_iff_getElem?_ne_getElem?.1 inv.ids_nodup
  rcases Nat.lt_or_gt_of_ne ne with lt | lt
  · exact distinct i j lt (by simpa using lt_of_getElem? at_j) (by rw [ids_i, ids_j, same])
  · exact distinct j i lt (by simpa using lt_of_getElem? at_i) (by rw [ids_i, ids_j, same])

/-- A task's race yields a poll result. -/
theorem poll (inv : call.Inv decoded) {i : Nat} {spawned : SpawnedTask}
    (at_i : call.tasks[i]? = some ⟨spawned, .polling⟩) (event : PollResult Ev) :
    (call.setPhase i spawned (selectBranch (EventPayload.mk spawned.id) (.polled event))).Inv
      fun j => decoded j ++ (CallAct.poll i event).decoded j := by
  have lt := lt_of_getElem? at_i
  have ids := ids_setPhase at_i (selectBranch (EventPayload.mk spawned.id) (.polled event))
  refine ⟨inv.bounded, ids ▸ inv.ids_nodup, ?_, fun payload mem => ids ▸ inv.origin payload mem,
    ?_, ?_, ?_⟩
  · intro j task payload at_j sending
    obtain ⟨rfl, rfl⟩ | ⟨-, at_j⟩ := tasks_setPhase_eq_some at_j
    · simp only at sending
      exact deviceId_of_selectBranch sending
    · exact inv.tagged j task payload at_j sending
  · intro j task at_j open_
    obtain ⟨rfl, rfl⟩ | ⟨ne, at_j⟩ := tasks_setPhase_eq_some at_j
    · have flow := inv.flow _ _ at_i open_
      simp only [Phase.pending, List.append_nil] at flow
      simp [CallAct.decoded, flow, pending_selectBranch]
    · simpa [CallAct.decoded, ne.symm] using inv.flow j task at_j open_
  · intro j task at_j
    obtain ⟨rfl, rfl⟩ | ⟨-, at_j⟩ := tasks_setPhase_eq_some at_j
    · exact (inv.received _ _ at_i).trans (List.prefix_append _ _)
    · exact (inv.received j task at_j).trans (List.prefix_append _ _)
  · intro j long
    have ne : i ≠ j := by simp [setPhase] at long; omega
    simp [CallAct.decoded, ne, inv.fresh j (by simpa [setPhase] using long)]

/-- A task stops, losing no batch while the receiver is there: it was racing, or the
channel is closed. -/
theorem stop (inv : call.Inv decoded) {i : Nat} {spawned : SpawnedTask}
    {before : Phase (EventPayload Ev)} (at_i : call.tasks[i]? = some ⟨spawned, before⟩)
    (lossless : call.closed = false → before.pending = []) :
    (call.setPhase i spawned .stopped).Inv decoded := by
  have ids := ids_setPhase at_i .stopped
  refine ⟨inv.bounded, ids ▸ inv.ids_nodup, ?_, fun payload mem => ids ▸ inv.origin payload mem,
    ?_, ?_, fun j long => inv.fresh j (by simpa [setPhase] using long)⟩
  · intro j task payload at_j sending
    obtain ⟨rfl, rfl⟩ | ⟨-, at_j⟩ := tasks_setPhase_eq_some at_j
    · cases sending
    · exact inv.tagged j task payload at_j sending
  · intro j task at_j open_
    obtain ⟨rfl, rfl⟩ | ⟨-, at_j⟩ := tasks_setPhase_eq_some at_j
    · have flow := inv.flow _ _ at_i open_
      simp only [lossless open_] at flow
      simpa [Phase.pending] using flow
    · exact inv.flow j task at_j open_
  · intro j task at_j
    obtain ⟨rfl, rfl⟩ | ⟨-, at_j⟩ := tasks_setPhase_eq_some at_j
    · exact inv.received _ ⟨spawned, before⟩ at_i
    · exact inv.received j task at_j

/-- A pending send completes into an open channel with room: the payload joins the buffer. -/
theorem deliver (inv : call.Inv decoded) {i : Nat} {spawned : SpawnedTask}
    {payload : EventPayload Ev} (at_i : call.tasks[i]? = some ⟨spawned, .sending payload⟩)
    (room : call.buffer.length < call.capacity) :
    { call.setPhase i spawned .polling with buffer := call.buffer ++ [payload] }.Inv decoded := by
  have ids := ids_setPhase at_i .polling
  have tag : payload.deviceId = spawned.id := inv.tagged i _ payload at_i rfl
  have sent : ∀ id,
      { call.setPhase i spawned .polling with buffer := call.buffer ++ [payload] }.sentBy id =
        call.sentBy id ++ if payload.deviceId = id then [payload.events] else [] :=
    sentBy_append_buffer call payload
  refine ⟨by simp [setPhase]; omega, ids ▸ inv.ids_nodup, ?_, ?_, ?_, ?_,
    fun j long => inv.fresh j (by simpa [setPhase] using long)⟩
  · intro j task payload' at_j sending
    obtain ⟨rfl, rfl⟩ | ⟨-, at_j⟩ := tasks_setPhase_eq_some at_j
    · cases sending
    · exact inv.tagged j task payload' at_j sending
  · intro payload' mem
    simp only [List.mem_append, List.mem_singleton] at mem
    rw [ids]
    rcases mem with old | old | rfl
    · exact inv.origin payload' (List.mem_append_left _ old)
    · exact inv.origin payload' (List.mem_append_right _ old)
    · rw [tag]
      exact List.mem_map_of_mem _ (List.getElem?_mem at_i)
  · intro j task at_j open_
    obtain ⟨rfl, rfl⟩ | ⟨ne, at_j⟩ := tasks_setPhase_eq_some at_j
    · simpa [Phase.pending, sent, tag] using inv.flow _ _ at_i open_
    · have other : payload.deviceId ≠ task.spawned.id := tag ▸ id_ne inv at_i at_j ne.symm
      simpa [sent, other] using inv.flow j task at_j open_
  · intro j task at_j
    obtain ⟨rfl, rfl⟩ | ⟨-, at_j⟩ := tasks_setPhase_eq_some at_j
    · exact inv.received _ ⟨spawned, .sending payload⟩ at_i
    · exact inv.received j task at_j

/-- The consumer takes the next payload out of an open channel. -/
theorem receive (inv : call.Inv decoded) (open_ : call.closed = false)
    {payload : EventPayload Ev} {rest : List (EventPayload Ev)}
    (buffered : call.buffer = payload :: rest) :
    { call with buffer := rest, received := call.received ++ [payload] }.Inv decoded := by
  have same_flow : ∀ id, { call with buffer := rest, received := call.received ++ [payload] }.sentBy id =
      call.sentBy id := by
    simp [sentBy, buffered]
  refine ⟨?_, inv.ids_nodup, inv.tagged, ?_, ?_, ?_, inv.fresh⟩
  · have := inv.bounded
    simp only [buffered, List.length_cons] at this
    simp only
    omega
  · intro p mem
    exact inv.origin p (by simpa [buffered] using mem)
  · intro i task at_i open'
    rw [same_flow]
    exact inv.flow i task at_i open'
  · intro i task at_i
    have prefix_ : { call with buffer := rest, received := call.received ++ [payload] }.receivedFrom
        task.spawned.id <+: call.sentBy task.spawned.id := by
      simp only [receivedFrom, sentBy, buffered]
      exact ((List.prefix_append _ rest).filter _).map _ |>.trans (by simp)
    rw [← inv.flow i task at_i open_]
    exact prefix_.trans (List.prefix_append _ _)

/-- The consumer drops the receiver: the channel closes and its buffer is discarded. -/
theorem dropReceiver (inv : call.Inv decoded) :
    { call with closed := true, buffer := [] }.Inv decoded :=
  ⟨Nat.zero_le _, inv.ids_nodup, inv.tagged,
    fun p mem => inv.origin p (by simp at mem; simp [mem]),
    fun _ _ _ closed => (by cases closed), inv.received, inv.fresh⟩

/-- Every action of a task or of the consumer keeps the invariant, the decoded batches
growing by what the action decoded. -/
theorem step (inv : call.Inv decoded) {cancelled : CancellationToken → Bool}
    {act : CallAct Ev} {call' : Call Ev} (stepped : call.step cancelled act = some call') :
    call'.Inv fun j => decoded j ++ act.decoded j := by
  cases act with
  | poll i event =>
    simp only [Call.step] at stepped
    split at stepped
    · cases stepped
      exact inv.poll ‹_› event
    · cases stepped
  | cancel i =>
    simp only [Call.step] at stepped
    split at stepped
    · rename_i spawned at_i
      split at stepped
      · cases stepped
        simpa [CallAct.decoded, selectBranch] using inv.stop at_i fun _ => rfl
      · cases stepped
    · cases stepped
  | send i =>
    simp only [Call.step] at stepped
    split at stepped
    · split at stepped
      · cases stepped
        simpa [CallAct.decoded] using inv.stop ‹_› (by simp_all)
      · split at stepped
        · cases stepped
          simpa [CallAct.decoded] using inv.deliver ‹_› ‹_›
        · cases stepped
    · cases stepped
  | receive =>
    simp only [Call.step] at stepped
    split at stepped
    · cases stepped
    · split at stepped
      · cases stepped
      · cases stepped
        simpa [CallAct.decoded] using inv.receive (by simp_all) ‹_›
  | dropReceiver =>
    simp only [Call.step] at stepped
    split at stepped
    · cases stepped
    · cases stepped
      simpa [CallAct.decoded] using inv.dropReceiver

/-- The channel of a new call is empty and its tasks are racing. -/
theorem ofOutcome {devices : List Device} {bufferSize : Nat} {subscribe : Subscribe}
    {outcome : StartOutcome} (started : startEventReceivers devices bufferSize subscribe = some outcome) :
    (Call.ofOutcome bufferSize outcome : Call Ev).Inv fun _ => [] where
  bounded := Nat.zero_le _
  ids_nodup := by simpa [Call.ofOutcome, Function.comp_def] using startEventReceivers_ids_nodup started
  tagged _ _ _ at_i sending := by
    simp only [Call.ofOutcome, List.getElem?_map, Option.map_eq_some'] at at_i
    obtain ⟨_, -, rfl⟩ := at_i
    cases sending
  origin _ mem := by simp [Call.ofOutcome] at mem
  flow _ _ at_i _ := by
    simp only [Call.ofOutcome, List.getElem?_map, Option.map_eq_some'] at at_i
    obtain ⟨_, -, rfl⟩ := at_i
    rfl
  received _ _ _ := List.prefix_refl _
  fresh _ _ := rfl

end Inv

/-- Actions of tasks and of the consumer keep the channel's capacity. -/
theorem step_capacity {cancelled : CancellationToken → Bool} {call call' : Call Ev}
    {act : CallAct Ev} (stepped : call.step cancelled act = some call') :
    call'.capacity = call.capacity := by
  cases act <;> simp only [Call.step] at stepped <;> repeat' split at stepped
  all_goals first | cases stepped; rfl | cases stepped

end Call

/-! ## Every reachable state -/

namespace Runtime

/-- The invariant of the runtime after the actions `acts`: every call keeps `Call.Inv`
with what its tasks decoded along `acts`, was opened by the matching `start` action with
its buffer size, and no batch is decoded for a call not made yet. -/
structure Inv (acts : List (Act Ev)) (s : Runtime Ev) : Prop where
  calls : ∀ (c : Nat) (call : Call Ev), s.calls[c]? = some call →
    call.Inv fun i => decodedEvents c i acts
  capacities : s.calls.map (·.capacity) = acts.filterMap Act.openedBuffer
  fresh : ∀ c i, s.calls.length ≤ c → decodedEvents c i acts = []

theorem shutdownStep_calls {s s' : Runtime Ev} (stepped : s.shutdownStep = some s') :
    s'.calls = s.calls := by
  unfold shutdownStep at stepped
  repeat' split at stepped
  all_goals first | cases stepped; rfl | cases stepped

theorem inv_init (devices : List Device) : (init devices : Runtime Ev).Inv [] :=
  ⟨fun _ _ at_c => by simp [init] at at_c, rfl, fun _ _ _ => rfl⟩

@[simp] theorem decodedEvents_append (c i : Nat) (acts : List (Act Ev)) (a : Act Ev) :
    decodedEvents c i (acts ++ [a]) = decodedEvents c i acts ++ a.decoded c i := by
  simp [decodedEvents]

/-- An action that leaves the calls alone, decodes nothing and opens no channel keeps the
invariant. -/
theorem Inv.of_calls_eq {acts : List (Act Ev)} {s s' : Runtime Ev} {a : Act Ev} (inv : s.Inv acts)
    (same : s'.calls = s.calls) (quiet : ∀ c i, a.decoded c i = [])
    (opensNone : a.openedBuffer = none) : s'.Inv (acts ++ [a]) :=
  ⟨fun c call at_c => by simpa [quiet] using inv.calls c call (same ▸ at_c),
    by simpa [same, opensNone] using inv.capacities,
    fun c i long => by simpa [quiet] using inv.fresh c i (same ▸ long)⟩

/-- A `start_event_receivers` call that returns appends a call that starts with the
invariant, and whose tasks have decoded nothing yet. -/
theorem Inv.start {acts : List (Act Ev)} {s : Runtime Ev} {bufferSize : Nat}
    {subscribe : Subscribe} {outcome : StartOutcome} (inv : s.Inv acts)
    (started : startEventReceivers s.devices bufferSize subscribe = some outcome) :
    Runtime.Inv (acts ++ [Act.start bufferSize subscribe])
      { s with calls := s.calls ++ [Call.ofOutcome bufferSize outcome] } := by
  have opens : ¬ channelPanics bufferSize := fun panics => by
    simp [startEventReceivers, panics] at started
  refine ⟨fun c call at_c => ?_, by simp [Act.openedBuffer, opens, inv.capacities,
    Call.ofOutcome], fun c i long => ?_⟩
  · rw [List.getElem?_append] at at_c
    split_ifs at at_c with old
    · simpa [Act.decoded] using inv.calls c call at_c
    · obtain rfl : c = s.calls.length := by
        cases h : c - s.calls.length with
        | zero => omega
        | succ k => simp [h] at at_c
      simp only [Nat.sub_self, List.getElem?_cons_zero, Option.some.injEq] at at_c
      subst at_c
      have fresh : ∀ i, decodedEvents s.calls.length i acts ++
          Act.decoded s.calls.length i (.start bufferSize subscribe) = [] :=
        fun i => by simp [Act.decoded, inv.fresh _ i le_rfl]
      simp only [decodedEvents_append, fresh]
      exact Call.Inv.ofOutcome started
  · simpa [Act.decoded] using inv.fresh c i (by simp at long; omega)

/-- An action of a task or of the consumer of call `c` keeps the invariant: call `c` keeps
its own, and the other calls neither change nor decode anything. -/
theorem Inv.call {acts : List (Act Ev)} {s : Runtime Ev} {c : Nat} {call call' : Call Ev}
    {act : CallAct Ev} (inv : s.Inv acts) (at_c : s.calls[c]? = some call)
    (stepped : call.step (s.cancelled.contains ·) act = some call') :
    Runtime.Inv (acts ++ [Act.call c act]) { s with calls := s.calls.set c call' } := by
  have lt : c < s.calls.length := (List.getElem?_eq_some_iff.1 at_c).1
  refine ⟨fun c' call'' at_c' => ?_, ?_, fun c' i long => ?_⟩
  · rw [List.getElem?_set] at at_c'
    by_cases same : c = c'
    · subst same
      simp only [if_true, lt, Option.some.injEq] at at_c'
      subst at_c'
      simpa [Act.decoded] using (inv.calls c call at_c).step stepped
    · simp only [same, if_false] at at_c'
      simpa [Act.decoded, same] using inv.calls c' call'' at_c'
  · simp only [List.filterMap_append, Act.openedBuffer, List.filterMap_cons,
      List.filterMap_nil, List.append_nil, ← inv.capacities]
    apply List.ext_getElem?
    intro j
    simp only [List.getElem?_map, List.getElem?_set]
    split_ifs with same
    · subst same
      simp [at_c, Call.step_capacity stepped]
    · rfl
  · have ne : c ≠ c' := by simp at long; omega
    simpa [Act.decoded, ne] using inv.fresh c' i (by simpa using long)

/-- Every action keeps the invariant. -/
theorem Inv.step {acts : List (Act Ev)} {s s' : Runtime Ev} {a : Act Ev} (inv : s.Inv acts)
    (stepped : s.step a = some s') : s'.Inv (acts ++ [a]) := by
  cases a with
  | start bufferSize subscribe =>
    simp only [Runtime.step] at stepped
    split at stepped
    · split at stepped
      · cases stepped
        rename_i panicked
        have panics : channelPanics bufferSize := by
          by_contra opens
          simp [startEventReceivers, opens] at panicked
        exact inv.of_calls_eq rfl (fun _ _ => rfl) (by simp [Act.openedBuffer, panics])
      · cases stepped
        exact inv.start ‹_›
    · cases stepped
  | call c act =>
    simp only [Runtime.step] at stepped
    split at stepped
    · cases stepped
    · obtain ⟨call', stepped', rfl⟩ := Option.map_eq_some'.1 stepped
      exact inv.call ‹_› stepped'
  | shutdown => exact inv.of_calls_eq (shutdownStep_calls stepped) (fun _ _ => rfl) rfl

theorem run_append (s : Runtime Ev) (acts : List (Act Ev)) (a : Act Ev) :
    s.run (acts ++ [a]) = (s.run acts).bind (·.step a) := by
  simp [run, List.foldlM_append]

/-- Every state a run reaches satisfies the invariant. -/
theorem inv_run {devices : List Device} {acts : List (Act Ev)} {s : Runtime Ev}
    (reached : (init devices).run acts = some s) : s.Inv acts := by
  induction acts using List.reverseRecOn generalizing s with
  | nil =>
    cases reached
    exact inv_init devices
  | append_singleton acts a ih =>
    rw [run_append] at reached
    obtain ⟨s₀, reached₀, stepped⟩ := Option.bind_eq_some.1 reached
    exact (ih reached₀).step stepped

end Runtime

/-! ## Delivery -/

/-- Whatever the schedule, the `c`-th call that opened a channel gave it its buffer size as
capacity and the channel never holds more; the consumer only receives payloads of devices
the call spawned a task for; what it received from the device of task `i` is, in order, a
prefix of the batches that task decoded; and while the receiver is there, those batches
are exactly the ones received, still buffered, or held by the task in a pending send. -/
theorem event_channel_delivers_in_order {devices : List Device} {acts : List (Act Ev)}
    {s : Runtime Ev} (reached : (Runtime.init devices).run acts = some s) {c : Nat}
    {call : Call Ev} (at_c : s.calls[c]? = some call) :
    (acts.filterMap Act.openedBuffer)[c]? = some call.capacity ∧
      call.buffer.length ≤ call.capacity ∧
      (∀ payload ∈ call.received, payload.deviceId ∈ call.tasks.map (·.spawned.id)) ∧
      ∀ i task, call.tasks[i]? = some task →
        (call.received.filter (·.deviceId == task.spawned.id)).map (·.events) <+:
            decodedEvents c i acts ∧
          (call.closed = false →
            ((call.received ++ call.buffer).filter (·.deviceId == task.spawned.id)).map (·.events) ++
              task.phase.pending = decodedEvents c i acts) := by
  have inv := Runtime.inv_run reached
  have callInv := inv.calls c call at_c
  refine ⟨by rw [← inv.capacities, List.getElem?_map, at_c]; rfl, callInv.bounded,
    fun payload mem => callInv.origin payload (List.mem_append_left _ mem),
    fun i task at_i => ⟨callInv.received i task at_i, callInv.flow i task at_i⟩⟩

/-- The light publishes one batch; its task decodes and sends it over a channel of size
one, and the consumer receives it. -/
def lightSchedule : List (Act Unit) :=
  [.start 1 (fun _ _ => .ok ()), .call 0 (.poll 0 (.ok (.incoming (.publish (.events ()))))),
    .call 0 (.send 0), .call 0 .receive]

theorem lightSchedule_delivers :
    ∃ s call, (Runtime.init [publishingDevice "light" 0]).run lightSchedule = some s ∧
      s.calls[0]? = some call ∧
      (lightSchedule.filterMap Act.openedBuffer)[0]? = some call.capacity ∧
      call.buffer.length ≤ call.capacity ∧
      (∀ payload ∈ call.received, payload.deviceId ∈ call.tasks.map (·.spawned.id)) ∧
      ∀ i task, call.tasks[i]? = some task →
        (call.received.filter (·.deviceId == task.spawned.id)).map (·.events) <+:
            decodedEvents 0 i lightSchedule ∧
          (call.closed = false →
            ((call.received ++ call.buffer).filter (·.deviceId == task.spawned.id)).map (·.events) ++
              task.phase.pending = decodedEvents 0 i lightSchedule) :=
  ⟨_, _, rfl, rfl,
    @event_channel_delivers_in_order Unit [publishingDevice "light" 0] lightSchedule _ rfl 0 _ rfl⟩

end Tosca
