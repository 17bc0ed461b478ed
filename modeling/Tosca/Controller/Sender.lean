/-
# The request gate

`Controller::device` picks a device by identifier and `DeviceSender::request` picks one
of its requests by route. Picking the request also settles, once and for all, whether
sending it is skipped: a request without hazards always goes out, and any other is
skipped when the policy blocks one of its hazards, globally or on this device.

The main result, `request_skip_iff_blocked`, states that decision as the set condition
the policy stands for, for every registry, policy, identifier and route.
-/

import Tosca.Controller.Device

namespace Tosca

/-- `sender_error`. -/
def senderError (description : String) : Error := ⟨.sender, description⟩

/-- The controller's `Response`: either the request was skipped, or the transport's
reply, whose body the controller hands over unread. -/
inductive Response
  | skipped
  | okBody (body : String)
  | serialBody (body : String)
  | infoBody (body : String)
  | streamBody (body : String)

/-- The transport, outside the core: the calls that reach a device over the network. -/
structure Transport where
  plainSend : Request → Except Error Response
  createResponse : Request → ParametersValues → Except Error Response

/-- Modelled from the spec: `Request::retrieve_response`. "If skip is true, returns
`Skipped` without any network call; otherwise delegates to the external transport." -/
def Request.retrieveResponse (skip : Bool) (call : Unit → Except Error Response) :
    Except Error Response :=
  if skip then .ok .skipped else call ()

/-- `RequestSender`: a request bound to its controller, with its skip decision. -/
structure RequestSender where
  controller : Controller
  request : Request
  skip : Bool

/-- `DeviceSender`: a device bound to its controller and its identifier. -/
structure DeviceSender where
  controller : Controller
  device : Device
  id : Nat

/-- `Controller::device`. -/
def Controller.device (c : Controller) (id : Nat) : Except Error DeviceSender :=
  if c.devices.isEmpty then .error (senderError "No devices found.")
  else
    match c.devices[id]? with
    | none => .error (senderError s!"Error in retrieving the device with identifier {id}.")
    | some device => .ok ⟨c, device, id⟩

namespace DeviceSender

/-- `DeviceSender::evaluate_privacy_policy`: skip when either rule blocks a hazard. -/
def evaluatePrivacyPolicy (ds : DeviceSender) (request : Request) : Bool :=
  let globalBlocked := ds.controller.privacyPolicy.globalBlockedHazards request.hazards
  let localBlocked := ds.controller.privacyPolicy.localBlockedHazards ds.id request.hazards
  let skip := false
  let skip := if !globalBlocked.isEmpty then true else skip
  let skip := if !localBlocked.isEmpty then true else skip
  skip

/-- `DeviceSender::request`. -/
def request (ds : DeviceSender) (route : String) : Except Error RequestSender :=
  match ds.device.request route with
  | none => .error (senderError s!"Error in retrieving the request with route `{route}`.")
  | some request =>
    let skip := if request.hazards.isEmpty then false else ds.evaluatePrivacyPolicy request
    .ok ⟨ds.controller, request, skip⟩

end DeviceSender

namespace RequestSender

/-- `RequestSender::send`. -/
def send (rs : RequestSender) (transport : Transport) : Except Error Response :=
  Request.retrieveResponse rs.skip fun _ => transport.plainSend rs.request

/-- `RequestSender::send_with_parameters`: a request without parameters is sent plain. -/
def sendWithParameters (rs : RequestSender) (transport : Transport)
    (parameters : ParametersValues) : Except Error Response :=
  if rs.request.parametersData.isEmpty then rs.send transport
  else Request.retrieveResponse rs.skip fun _ => transport.createResponse rs.request parameters

end RequestSender

/-! ## The skip decision -/

namespace DeviceSender

/-- The full evaluation skips exactly when a hazard of the request is blocked, globally
or on the sender's device. -/
theorem evaluatePrivacyPolicy_iff (ds : DeviceSender) (request : Request) :
    ds.evaluatePrivacyPolicy request = true ↔
      (∃ h ∈ request.hazards.toList, h ∈ ds.controller.privacyPolicy.blockOnHazards.toList) ∨
      ∃ h ∈ request.hazards.toList, h ∈ (ds.controller.privacyPolicy.localHazards ds.id).toList := by
  have skip : ds.evaluatePrivacyPolicy request =
      (!(ds.controller.privacyPolicy.globalBlockedHazards request.hazards).isEmpty ||
        !(ds.controller.privacyPolicy.localBlockedHazards ds.id request.hazards).isEmpty) := by
    simp only [evaluatePrivacyPolicy]
    split <;> simp_all
  simp only [skip, Bool.or_eq_true, Bool.not_eq_true', Policy.globalBlockedHazards,
    Policy.localBlockedHazards_eq, Policy.blockedHazards_isEmpty_eq_false]

/-- A request without hazards is never skipped by the full evaluation either: the fast
path of `request` agrees with it. -/
theorem evaluatePrivacyPolicy_of_isEmpty (ds : DeviceSender) (request : Request)
    (empty : request.hazards.isEmpty = true) : ds.evaluatePrivacyPolicy request = false := by
  rw [IndexSet.isEmpty_iff] at empty
  simpa [empty] using (evaluatePrivacyPolicy_iff ds request).not

theorem request_skip (ds : DeviceSender) {route : String} {request : Request}
    (declared : ds.device.request route = some request) :
    ds.request route = .ok ⟨ds.controller, request, ds.evaluatePrivacyPolicy request⟩ := by
  by_cases empty : request.hazards.isEmpty = true
  · simp [DeviceSender.request, declared, empty, evaluatePrivacyPolicy_of_isEmpty ds request empty]
  · simp [DeviceSender.request, declared, empty]

end DeviceSender

theorem Controller.device_of_lt (c : Controller) {id : Nat} (hid : id < c.devices.length) :
    c.device id = .ok ⟨c, c.devices[id], id⟩ := by
  have : c.devices.isEmpty = false := by
    cases h : c.devices <;> simp_all
  simp [Controller.device, this, hid]

/-- For every registry, policy, device identifier in range and route the device declares,
`device(id)` succeeds with the device at `id`, and its `request(route)` skips exactly
when one of the route's hazards is in the global block set or in the override keyed by
the same `id` (none when `id` has no override). The fast path for hazard-free requests
agrees with the full evaluation. -/
theorem request_skip_iff_blocked (c : Controller) (id : Nat) (hid : id < c.devices.length)
    (route : String) (request : Request) (declared : c.devices[id].request route = some request) :
    ∃ ds, c.device id = .ok ds ∧ ds.device = c.devices[id] ∧ ds.id = id ∧
      ∃ rs, ds.request route = .ok rs ∧ rs.request = request ∧
        rs.skip = ds.evaluatePrivacyPolicy request ∧
        (rs.skip = true ↔
          (∃ h ∈ request.hazards.toList, h ∈ c.privacyPolicy.blockOnHazards.toList) ∨
          ∃ h ∈ request.hazards.toList, h ∈ (c.privacyPolicy.localHazards id).toList) :=
  ⟨_, c.device_of_lt hid, rfl, rfl, _, DeviceSender.request_skip _ declared, rfl, rfl,
    DeviceSender.evaluatePrivacyPolicy_iff ⟨c, c.devices[id], id⟩ request⟩

/-- The light of the spec's scenario: `/off` declares `LogEnergyConsumption`, `/toggle`
declares `FireHazard`, `/on` declares nothing. -/
def scenarioLight : Device where
  requests :=
    [("/on", ⟨IndexSet.empty, []⟩),
     ("/off", ⟨Hazards.initFromHazards [.logEnergyConsumption], []⟩),
     ("/toggle", ⟨Hazards.initFromHazards [.fireHazard], []⟩)]
  events := none
  eventHandle := none

/-- The spec's scenario: `LogEnergyConsumption` blocked everywhere, `FireHazard` on
device 0. -/
def scenarioController : Controller :=
  (Controller.fromDevices [scenarioLight]).changePolicy
    ((Policy.new (Hazards.initFromHazards [.logEnergyConsumption])).blockDeviceOnHazards 0
      (Hazards.initFromHazards [.fireHazard]))

/-- In the scenario, `/toggle` is skipped by the override of device 0. -/
theorem scenario_toggle_skipped :
    ∃ ds rs, scenarioController.device 0 = .ok ds ∧ ds.request "/toggle" = .ok rs ∧
      rs.skip = true := by
  obtain ⟨ds, device, -, -, rs, request, -, -, skip⟩ :=
    request_skip_iff_blocked scenarioController 0 (by decide) "/toggle"
      ⟨Hazards.initFromHazards [.fireHazard], []⟩ rfl
  exact ⟨ds, rs, device, request, skip.2 (.inr ⟨.fireHazard, by decide, by decide⟩)⟩

end Tosca
