import VparFleet.Fleet.Totals
import VparFleet.Instant

/-!
# Fleet statistics

What the orchestrator is told about the fleet: its totals, how the fleet presents itself as one
host, and when the totals were taken.
-/

namespace VparFleet

/-- The statistics of the fleet. -/
structure FleetStats where
  /-- The summed capacity. -/
  totals : FleetTotals
  hypervisorType : String
  hypervisorVersion : String
  /-- The host name of the fleet. -/
  hypervisorHostname : String
  /-- The description of the processors. -/
  cpuInfo : String
  /-- When the totals were taken. -/
  refreshedAt : Instant
  deriving DecidableEq, Repr

/-- The statistics of a list of nodes at an instant. -/
def FleetStats.ofNodes (nodes : List Node) (now : Instant) : FleetStats where
  totals := .ofNodes nodes
  hypervisorType := FleetTotals.hypervisorType
  hypervisorVersion := FleetTotals.hypervisorVersion
  hypervisorHostname := FleetTotals.hypervisorHostname
  cpuInfo := FleetTotals.cpuInfo
  refreshedAt := now

end VparFleet
