/-
# Hazards

A route of a `tosca` device declares the hazards its execution may cause: safety,
privacy and financial risks. The controller's privacy policy blocks requests by
these tags, so the model needs the tags themselves and `Hazards`, the insertion-ordered
set of them a route carries. Names, descriptions and categories of the hazards are
only displayed and are left out.
-/

import Tosca.IndexSet

namespace Tosca

/-- `tosca::hazards::Hazard`: every hazard a device route may declare. -/
inductive Hazard
  | airPoisoning
  | asphyxia
  | audioVideoDisplay
  | audioVideoRecordAndStore
  | electricEnergyConsumption
  | explosion
  | fireHazard
  | gasConsumption
  | logEnergyConsumption
  | logUsageTime
  | paySubscriptionFee
  | powerOutage
  | powerSurge
  | recordIssuedCommands
  | recordUserPreferences
  | spendMoney
  | spoiledFood
  | takeDeviceScreenshots
  | takePictures
  | unauthorisedPhysicalAccess
  | videoDisplay
  | videoRecordAndStore
  | waterConsumption
  | waterFlooding
  deriving DecidableEq, Repr

/-- `tosca::hazards::Hazards`: the hazards of a route, in declaration order. -/
abbrev Hazards := IndexSet Hazard

namespace Hazards

/-- `Hazards::init_from_hazards`: add the given hazards one by one. -/
def initFromHazards (input : List Hazard) : Hazards :=
  input.foldl IndexSet.add IndexSet.empty

end Hazards

end Tosca
