import Tosca.IndexSet
import Tosca.Hazards
import Tosca.Parameters
import Tosca.Controller.Policy
import Tosca.Controller.Device
import Tosca.Controller.Sender
import Tosca.Controller.Subscriber
import Tosca.Controller.Receivers
import Tosca.Controller.Runtime
import Tosca.Controller.Delivery
import Tosca.Firmware.Route
import Tosca.Firmware.Light
import Tosca.Firmware.Server
import Tosca.Firmware.Dispatch
import Tosca.Bits
import Tosca.Drivers.Dht22
import Tosca.Drivers.Dht22Sensor
import Tosca.Drivers.Bh1750
import Tosca.Os.Mac
