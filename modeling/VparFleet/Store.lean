import VparFleet.Store.PlacementTable

/-!
# The store

The node table and the placement table behind one connection, which may have been closed.

* `Store.Statement`: what can be asked of the store. A statement that fails changes nothing.
-/

namespace VparFleet

/-- Both tables. -/
structure Store where
  nodes : Store.NodeTable
  placements : Store.PlacementTable
  /-- Whether statements are answered. -/
  isOpen : Bool

namespace Store

/-- An open store without rows. -/
def empty : Store := ⟨[], [], true⟩

/-- Closes the connection. -/
def close (store : Store) : Store :=
  { store with isOpen := false }

/-- Opens the connection. -/
def reopen (store : Store) : Store :=
  { store with isOpen := true }

/-- What can be asked of the store. -/
abbrev Statement (α : Type) := ExceptT Fault (StateM Store) α

/-- Refuses a statement when the connection is closed. -/
def whenOpen : Statement Unit := do
  if !(← get).isOpen then throw StoreCause.closed.fault

/-- An outcome known without the store. -/
def ofOutcome {α : Type} (outcome : Outcome α) : Statement α :=
  ExceptT.mk (pure outcome)

/-- A refusal becomes a fault. -/
def ofRefusal {α : Type} : Except StoreCause α → Statement α
  | .ok a => return a
  | .error cause => throw cause.fault

/-- All nodes, in registry order. -/
def listNodes : Statement (List Node) := do
  whenOpen
  ofOutcome ((← get).nodes.mapM (·.toNode))

/-- The node with an address. -/
def findNode (address : String) : Statement (Option Node) := do
  whenOpen
  match (← get).nodes.find? address with
  | some row => return some (← ofOutcome row.toNode)
  | none => return none

/-- Adds a row to the node table. -/
def insertNodeRow (row : NodeRow) : Statement Unit := do
  let store ← get
  set { store with nodes := ← ofRefusal (store.nodes.insert row) }

/-- Adds a node. -/
def addNode (node : Node) : Statement Unit := do
  let row ← ofOutcome (NodeRow.ofNode node)
  whenOpen
  insertNodeRow row

/-- Replaces the row of a node that is there. -/
def updateNode (node : Node) : Statement Unit := do
  let row ← ofOutcome (NodeRow.ofNode node)
  whenOpen
  let store ← get
  match ← ofRefusal (store.nodes.replace? row) with
  | some nodes => set { store with nodes }
  | none => throw ⟨.notFound, s!"node {node.address} not found"⟩

/-- Adds a row to the node table as it is given. -/
def insertRawNode (raw : RawNodeRow) : Statement Unit := do
  whenOpen
  insertNodeRow (← ofRefusal raw.toRow)

/-- The latest placement of a partition. -/
def findPlacement (partition : String) : Statement (Option Placement) := do
  whenOpen
  match (← get).placements.latest? partition with
  | some row => return some (← ofOutcome row.toPlacement)
  | none => return none

/-- Records the placement of a workload, in the place of the one before. -/
def recordPlacement (placement : Placement) : Statement Unit := do
  whenOpen
  modify fun store =>
    { store with placements := store.placements.record (.ofPlacement placement) }

/-- Removes the placement of a workload: whether there was one. -/
def removePlacement (workload : String) : Statement Bool := do
  whenOpen
  let store ← get
  set { store with placements := store.placements.erase workload }
  return store.placements.holds workload

/-- Adds a row to the placement table as it is given. -/
def insertRawPlacement (raw : RawPlacementRow) : Statement Unit := do
  whenOpen
  let row ← ofRefusal raw.toRow
  let store ← get
  set { store with placements := ← ofRefusal (store.placements.insert row) }

end Store

end VparFleet
