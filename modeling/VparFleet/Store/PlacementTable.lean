import VparFleet.Placement
import VparFleet.Store.NodeTable

/-!
# The placement table

One row per workload, in the order in which the workloads first came. Instants are stored as text
and compared as text.

* `latest?`: of the rows of a partition the one with the greatest instant, the first of several.
-/

namespace VparFleet.Store

/-- A row of the placement table. -/
structure PlacementRow where
  /-- The workload, the primary key. -/
  workload : String
  partition : String
  /-- The address of the hosting node. -/
  node : String
  /-- When the placement was recorded, as text. -/
  createdAt : String
  deriving DecidableEq, Repr

namespace PlacementRow

/-- The name of the table. -/
def table : String := "placement_hint"

/-- The row of a placement. -/
def ofPlacement (placement : Placement) : PlacementRow :=
  ⟨placement.workload, placement.partition, placement.node, placement.createdAt.storedText⟩

/-- The placement of a row. -/
def toPlacement (row : PlacementRow) : Outcome Placement :=
  match Instant.readStored? row.createdAt with
  | some createdAt => .ok ⟨row.workload, row.partition, row.node, createdAt⟩
  | none => .error ⟨.database, "invalid created_at"⟩

end PlacementRow

/-- The rows of the placement table, the oldest first. -/
abbrev PlacementTable := List PlacementRow

namespace PlacementTable

/-- Adds a row. -/
def insert (table : PlacementTable) (row : PlacementRow) : Except StoreCause PlacementTable :=
  if table.any (·.workload = row.workload) then .error (notUnique PlacementRow.table "workload_id")
  else .ok (table ++ [row])

/-- Puts a row in the place of the one of its workload, or adds it. -/
def record (table : PlacementTable) (row : PlacementRow) : PlacementTable :=
  if table.any (·.workload = row.workload) then
    table.map fun old => if old.workload = row.workload then row else old
  else table ++ [row]

/-- Takes out the row of a workload. -/
def erase (table : PlacementTable) (workload : String) : PlacementTable :=
  table.filter (·.workload ≠ workload)

/-- Whether there is a row of a workload. -/
def holds (table : PlacementTable) (workload : String) : Bool :=
  table.any (·.workload = workload)

/-- The later one of two rows; of two that are equally late the first. -/
def later (best : Option PlacementRow) (row : PlacementRow) : Option PlacementRow :=
  match best with
  | none => some row
  -- A row that is just as late comes second.
  | some old => if old.createdAt < row.createdAt then some row else some old

/-- The latest row of a partition. -/
def latest? (table : PlacementTable) (partition : String) : Option PlacementRow :=
  (table.filter (·.partition = partition)).foldl later none

end PlacementTable

/-- A row given to the placement table as it is, with a value or null in every column. -/
structure RawPlacementRow where
  workload : Option String
  partition : Option String
  node : Option String
  createdAt : Option String

/-- The row, when nothing is missing. -/
def RawPlacementRow.toRow (raw : RawPlacementRow) : Except StoreCause PlacementRow := do
  let need (column : String) (value : Option String) := notNull PlacementRow.table column value
  let workload ← need "workload_id" raw.workload
  let partition ← need "partition" raw.partition
  let node ← need "node_address" raw.node
  let createdAt ← need "created_at" raw.createdAt
  return ⟨workload, partition, node, createdAt⟩

end VparFleet.Store
