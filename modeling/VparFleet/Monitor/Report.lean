import VparFleet.Fleet.Stats

/-!
# Refresh reports

What one refresh of the fleet's capacity found and wrote.
-/

namespace VparFleet

/-- The result of a refresh. -/
structure RefreshReport where
  stats : FleetStats
  /-- The nodes as observed, in the order of the inventory. -/
  nodes : List Node
  /-- The number of rows that were added or changed. -/
  writes : Nat
  /-- The number of partitions in the inventory. -/
  partitionsSeen : Nat
  deriving DecidableEq, Repr

end VparFleet
