import VparFleet.Instant

/-!
# Placements

A placement says on which node a workload's partition was placed, and when.
-/

namespace VparFleet

/-- Where a workload was placed. -/
structure Placement where
  workload : String
  partition : String
  /-- The address of the hosting node. -/
  node : String
  /-- When the placement was recorded. -/
  createdAt : Instant
  deriving DecidableEq, Repr

end VparFleet
