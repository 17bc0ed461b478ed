/-
# The privacy policy

A `Policy` of the controller blocks requests by the hazards their routes declare:
one set of hazards blocked on every device, and for some devices a set blocked on
that device only. The map from device identifiers to their sets is a `HashMap`, whose
iteration order nothing reads; the model keeps it as an association list with one
entry per key, replaced on insert as `HashMap::insert` replaces.

Both lookups run the same loop: walk the request's hazards in order and collect those
the rule contains. `blockedHazards` is that loop, and `toList_blockedHazards` says once
what it computes.
-/

import Mathlib.Data.List.AList
import Tosca.Hazards

namespace Tosca

/-- `tosca_controller::policy::Policy`. -/
structure Policy where
  /-- `block_on_hazards`: hazards blocked on every device. -/
  blockOnHazards : Hazards
  /-- `block_device_on_hazards`: hazards blocked on one device, by its identifier. -/
  blockDeviceOnHazardsMap : AList fun _ : Nat => Hazards

namespace Policy

/-- `Policy::new`: block the given hazards on every device. -/
def new (blockOnHazards : Hazards) : Policy := ⟨blockOnHazards, ∅⟩

/-- `Policy::init`: the policy that blocks nothing. -/
def init : Policy := ⟨IndexSet.empty, ∅⟩

/-- `Policy::block_device_on_hazards`: block `hazards` on device `id`, replacing what was
blocked on it before. -/
def blockDeviceOnHazards (p : Policy) (id : Nat) (hazards : Hazards) : Policy :=
  { p with blockDeviceOnHazardsMap := p.blockDeviceOnHazardsMap.insert id hazards }

/-- `Policy::only_local_policy`. -/
def onlyLocalPolicy (id : Nat) (hazards : Hazards) : Policy :=
  init.blockDeviceOnHazards id hazards

/-- The loop body shared by both lookups: collect the hazards of `hazards` that `rule`
contains. -/
def blockedHazards (rule hazards : Hazards) : Hazards :=
  hazards.toList.foldl
    (fun blocked hazard => if rule.contains hazard then blocked.add hazard else blocked)
    IndexSet.empty

/-- `Policy::global_blocked_hazards`. -/
def globalBlockedHazards (p : Policy) (hazards : Hazards) : Hazards :=
  blockedHazards p.blockOnHazards hazards

/-- `Policy::local_blocked_hazards`. -/
def localBlockedHazards (p : Policy) (id : Nat) (hazards : Hazards) : Hazards :=
  match p.blockDeviceOnHazardsMap.lookup id with
  | some localHazards => blockedHazards localHazards hazards
  | none => IndexSet.empty

/-- The hazards blocked on device `id` alone, the empty set when it has no entry. -/
def localHazards (p : Policy) (id : Nat) : Hazards :=
  (p.blockDeviceOnHazardsMap.lookup id).getD IndexSet.empty

/-- The loop collects exactly the hazards the rule contains, in the request's order. -/
theorem toList_blockedHazards (rule hazards : Hazards) :
    (blockedHazards rule hazards).toList = hazards.toList.filter rule.contains := by
  unfold blockedHazards
  rw [IndexSet.toList_foldl_add rule.contains _ _ hazards.nodup (by simp)]
  rfl

/-- The loop finds something exactly when the request and the rule share a hazard. -/
theorem blockedHazards_isEmpty_eq_false (rule hazards : Hazards) :
    (blockedHazards rule hazards).isEmpty = false ↔ ∃ h ∈ hazards.toList, h ∈ rule.toList := by
  rw [← Bool.not_eq_true, IndexSet.isEmpty_iff, toList_blockedHazards, List.filter_eq_nil_iff]
  simp

/-- A device without an entry is looked up as if its entry were empty. -/
theorem localBlockedHazards_eq (p : Policy) (id : Nat) (hazards : Hazards) :
    p.localBlockedHazards id hazards = blockedHazards (p.localHazards id) hazards := by
  unfold localBlockedHazards localHazards
  split
  · simp_all
  · apply IndexSet.ext
    simp [toList_blockedHazards, IndexSet.contains, *]

/-- For every global set, every map of device sets, every request's hazards and every
device: the hazards blocked on all devices are the request's hazards that the global set
holds, and those blocked on the device are the request's hazards that its own set holds,
none when it has no entry. Both keep the request's order and hold no hazard twice. -/
theorem blockedHazards_are_intersections (blockOnHazards : Hazards)
    (blockDeviceOnHazardsMap : AList fun _ : Nat => Hazards) (hazards : Hazards) (id : Nat) :
    let p : Policy := ⟨blockOnHazards, blockDeviceOnHazardsMap⟩
    (p.globalBlockedHazards hazards).toList =
        hazards.toList.filter (· ∈ blockOnHazards.toList) ∧
      (p.localBlockedHazards id hazards).toList =
        (match blockDeviceOnHazardsMap.lookup id with
          | some localHazards => hazards.toList.filter (· ∈ localHazards.toList)
          | none => []) ∧
      (p.globalBlockedHazards hazards).toList.Sublist hazards.toList ∧
      (p.localBlockedHazards id hazards).toList.Sublist hazards.toList ∧
      (p.globalBlockedHazards hazards).toList.Nodup ∧
      (p.localBlockedHazards id hazards).toList.Nodup := by
  intro p
  have blocked : ∀ rule : Hazards,
      (blockedHazards rule hazards).toList = hazards.toList.filter (· ∈ rule.toList) := fun rule => by
    rw [toList_blockedHazards]
    exact List.filter_congr fun _ _ => by simp [IndexSet.contains]
  have locally : (p.localBlockedHazards id hazards).toList =
      (match blockDeviceOnHazardsMap.lookup id with
        | some localHazards => hazards.toList.filter (· ∈ localHazards.toList)
        | none => []) := by
    unfold localBlockedHazards
    split <;> simp_all
  refine ⟨blocked _, locally, ?_, ?_, IndexSet.nodup _, IndexSet.nodup _⟩
  · exact (blocked _).symm ▸ List.filter_sublist _
  · rw [locally]
    split
    · exact List.filter_sublist _
    · exact List.nil_sublist _

end Policy

end Tosca
