/-
# The controller's device registry

What the controller knows of each device: the requests it can send to it, keyed by
route, and, for a device that publishes events, where its broker is and the token that
cancels its subscriber task. `crate::device`, `crate::request` and `crate::error` of
the controller are not among the sources; their types are modelled from the spec, with
only the fields the controller's code reads.

A device's identifier is its index in the registry, and a join handle names a spawned
task by where the runtime keeps it (see `Tosca.Controller.Runtime`).
-/

import Tosca.Controller.Policy
import Tosca.Parameters

namespace Tosca

/-- Modelled from the spec: `crate::error::ErrorKind`, with the kinds this code raises. -/
inductive ErrorKind
  | sender
  | events
  | jsonResponse
  | streamResponse
  | request
  deriving DecidableEq, Repr

/-- Modelled from the spec: `crate::error::Error`, a kind and a description. -/
structure Error where
  kind : ErrorKind
  description : String
  deriving DecidableEq, Repr

/-- Modelled from the spec: `crate::request::Request`, an operation on a device with its
declared hazards and the names of its declared parameters. -/
structure Request where
  hazards : Hazards
  parametersData : List String

/-- `tosca::events::BrokerData`; the address in the form `IpAddr::to_string` prints. -/
structure BrokerData where
  address : String
  port : UInt16
  deriving DecidableEq, Repr

/-- `tosca::events::EventsDescription`, without the event schema nothing here reads. -/
structure EventsDescription where
  brokerData : BrokerData
  topic : String
  deriving DecidableEq, Repr

/-- A `tokio_util` cancellation token, by identity: clones share one token. -/
structure CancellationToken where
  id : Nat
  deriving DecidableEq, Repr

/-- `crate::events::Events`: where a device publishes, and the token that stops its task. -/
structure Events where
  description : EventsDescription
  cancellationToken : CancellationToken
  deriving DecidableEq, Repr

/-- A `tokio` join handle, naming a spawned task: the `start_event_receivers` call that
spawned it and its position among that call's tasks. -/
structure JoinHandle where
  call : Nat
  task : Nat
  deriving DecidableEq, Repr

/-- Modelled from the spec: `crate::device::Device`. It "holds its request descriptors
(keyed by route string, lookup fails if absent), an optional event-source description,
and at most one running event subscription". -/
structure Device where
  requests : List (String × Request)
  events : Option Events
  eventHandle : Option JoinHandle

/-- Modelled from the spec: `Device::request`, the request registered for a route. -/
def Device.request (device : Device) (route : String) : Option Request :=
  device.requests.lookup route

/-- `Controller`: the device registry and the privacy policy. The discovery service only
refreshes the registry and is left out. -/
structure Controller where
  devices : List Device
  privacyPolicy : Policy

namespace Controller

/-- `Controller::from_devices`: a controller over a registry, with the permissive policy. -/
def fromDevices (devices : List Device) : Controller := ⟨devices, Policy.init⟩

/-- `Controller::new`: no devices yet. -/
def new : Controller := fromDevices []

/-- `Controller::change_policy` (and the builder `Controller::policy`). -/
def changePolicy (c : Controller) (privacyPolicy : Policy) : Controller :=
  { c with privacyPolicy := privacyPolicy }

end Controller

end Tosca
