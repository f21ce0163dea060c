import VparFleet.Monitor.Refresh
import VparFleet.Proofs.Provisioning.Remote
import VparFleet.Proofs.Store.Nodes
import VparFleet.Proofs.Tasks.Alone

/-!
# Nodes that are kept

A node that is kept gets a row if it has none, and takes the place of its row if an amount differs.
A readable table stays readable.

* `NodeTable.keep`, `NodeTable.keepAll`: what becomes of a table.
* `NodeTable.outcomes`: what became of each node.
* `answer_addNode`, `answer_updateNode`: the statements that write a node that fits.
-/

namespace VparFleet

namespace Store.NodeTable

variable {table : NodeTable} {node : Node} {nodes : List Node}

/-- Keeps a node: what becomes of the table, and of the node. -/
def keep (table : NodeTable) (node : Node) : NodeTable × UpsertOutcome :=
  match table.find? node.address with
  | none => (table ++ [.of node], .created)
  | some old =>
    if old.amounts = (NodeRow.of node).amounts then (table, .unchanged)
    else (table.put node, .updated)

/-- Keeps nodes one after the other. -/
def keepAll (table : NodeTable) (nodes : List Node) : NodeTable :=
  nodes.foldl (fun table node => (table.keep node).1) table

/-- What becomes of the nodes that are kept. -/
def outcomes (table : NodeTable) : List Node → List UpsertOutcome
  | [] => []
  | node :: nodes => (table.keep node).2 :: outcomes (table.keep node).1 nodes

/-- A table stays readable when a readable node is kept. -/
theorem Readable.keep (h : Readable table) (hn : node.InRange) : Readable (table.keep node).1 := by
  unfold NodeTable.keep
  split
  · exact h.append hn
  · split
    · exact h
    · exact h.put hn

end Store.NodeTable

open Store

/-- The state with another node table. -/
def Shared.withNodes (shared : Shared) (nodes : NodeTable) : Shared :=
  { shared with store := { shared.store with nodes } }

variable {shared : Shared} {node : Node}

namespace Shared

/-- A sound node at a new address is added. -/
theorem answer_addNode (ho : shared.store.isOpen = true) (hs : node.Sound)
    (hnew : shared.store.nodes.find? node.address = none) (task : Nat) :
    shared.answer task (.addNode node) =
      .reply (.ok ()) (shared.withNodes (shared.store.nodes ++ [.of node])) := by
  have hinsert : shared.store.nodes.insert (.of node) =
      .ok (shared.store.nodes ++ [.of node]) :=
    NodeTable.insert_eq_ok_iff.mpr
      ⟨NodeRow.brokenCheck?_of hs.vcpusUsed hs.memoryUsed hs.diskUsed,
        NodeTable.find?_eq_none_iff.mp hnew, rfl⟩
  rw [answer, query, run_addNode ho (NodeRow.ofNode_of_sound hs) hinsert]
  rfl

/-- A sound node at a stored address takes the place of the row. -/
theorem answer_updateNode (ho : shared.store.isOpen = true) (hs : node.Sound)
    {old : NodeRow} (hold : shared.store.nodes.find? node.address = some old) (task : Nat) :
    shared.answer task (.updateNode node) =
      .reply (.ok ()) (shared.withNodes (shared.store.nodes.put node)) := by
  have hreplace : shared.store.nodes.replace? (.of node) =
      .ok (some (shared.store.nodes.put node)) :=
    NodeTable.replace?_eq_ok_some_iff.mpr
      ⟨⟨old, NodeTable.find?_eq_some hold⟩,
        NodeRow.brokenCheck?_of hs.vcpusUsed hs.memoryUsed hs.diskUsed, rfl⟩
  rw [answer, query, run_updateNode ho (NodeRow.ofNode_of_sound hs) hreplace]
  rfl

end Shared

/-- The exchanges with hosts. -/
def remotely (past : List Exchange) : List Exchange :=
  past.filter (·.action.isRemote)

end VparFleet
