import Mathlib.Data.List.Nodup
import VparFleet.Proofs.Monitor.Keeping

/-!
# Registries of nodes

The node table holds a registry: nodes with distinct addresses, each of which the columns can hold.
New nodes come last and changed ones stay where they are. A node that cannot be stored is refused by
a column or by a check, and a statement that is refused changes nothing.

* `Node.Storable`: nodes that the columns and the checks of the table let pass.
* `Registry`, `Registry.rows`: the nodes of a table, and their rows.
* `answer_addNode_refused`, `answer_updateNode_missing`, `answer_updateNode_refused`: what is
  refused.
* `answer_findNode_registry`, `answer_listNodes_registry`, `answer_addNode_registry`,
  `answer_updateNode_registry`: what is answered and done otherwise.
-/

namespace VparFleet

open Text.Decimal

/-! ## Nodes that can be stored -/

/-- A node whose six amounts fit their columns, and which never uses more than it has. -/
structure Node.Storable (node : Node) : Prop where
  fit : ∀ gauge ∈ node.gauges, gauge < Store.columnBound
  vcpusUsed : node.vcpusUsed ≤ node.vcpus
  memoryUsed : node.memoryUsed ≤ node.memory
  diskUsed : node.diskUsed ≤ node.disk

/-- A node that can be stored is sound, if its processors are in range. -/
theorem Node.Storable.sound {node : Node} (h : node.Storable) (hc : node.vcpus < word32) :
    node.Sound where
  vcpus := hc
  vcpusUsed := h.vcpusUsed
  memory := h.fit node.memory (by simp [gauges])
  memoryUsed := h.memoryUsed
  disk := h.fit node.disk (by simp [gauges])
  diskUsed := h.diskUsed

/-- A sound node can be stored. -/
theorem Node.Sound.storable {node : Node} (h : node.Sound) : node.Storable where
  fit := by
    have hbound : word32 < Store.columnBound := by decide
    obtain ⟨hc, hcu, hm, hmu, hd, hdu⟩ := h
    simp only [gauges, List.forall_mem_cons]
    exact ⟨by omega, by omega, by omega, by omega, by omega, by omega, nofun⟩
  vcpusUsed := h.vcpusUsed
  memoryUsed := h.memoryUsed
  diskUsed := h.diskUsed

theorem Node.sameUsage_iff {stored node : Node} :
    stored.sameUsage node = true ↔ stored.gauges = node.gauges := by
  rw [sameUsage, beq_iff_eq]

/-- Whether a node can be stored depends on its amounts alone. -/
theorem Node.Storable.of_gauges {stored node : Node} (h : stored.Storable)
    (hsame : stored.gauges = node.gauges) : node.Storable := by
  have hfit := h.fit
  rw [hsame] at hfit
  simp only [gauges, List.cons.injEq] at hsame
  obtain ⟨hc, hcu, hm, hmu, hd, hdu, -⟩ := hsame
  exact ⟨hfit, hc ▸ hcu ▸ h.vcpusUsed, hm ▸ hmu ▸ h.memoryUsed, hd ▸ hdu ▸ h.diskUsed⟩

namespace Store

namespace NodeRow

variable {node : Node} {row : NodeRow} {fault : Fault}

/-- An amount that does not fit is a fault of the database. -/
theorem kind_of_toColumn_eq_error {column : String} {amount : Nat}
    (h : toColumn column amount = .error fault) : fault.kind = .database := by
  unfold toColumn at h
  split at h
  · exact nomatch h
  · exact Except.error.inj h ▸ rfl

/-- So is a node with such an amount. -/
theorem kind_of_ofNode_eq_error (h : ofNode node = .error fault) : fault.kind = .database := by
  -- each of the six amounts is either the one that does not fit its column, or passed over
  iterate 6
    rcases bind_eq_error_iff.mp h with h | ⟨_, -, h⟩
    · exact kind_of_toColumn_eq_error h
  cases h

/-- A row is made only of a node whose amounts fit their columns. -/
theorem fit_of_ofNode_eq_ok (h : ofNode node = .ok row) :
    ∀ gauge ∈ node.gauges, gauge < columnBound := by
  obtain ⟨_, hc, h⟩ := bind_eq_ok_iff.mp h
  obtain ⟨_, hcu, h⟩ := bind_eq_ok_iff.mp h
  obtain ⟨_, hm, h⟩ := bind_eq_ok_iff.mp h
  obtain ⟨_, hmu, h⟩ := bind_eq_ok_iff.mp h
  obtain ⟨_, hd, h⟩ := bind_eq_ok_iff.mp h
  obtain ⟨_, hdu, -⟩ := bind_eq_ok_iff.mp h
  simp only [Node.gauges, List.forall_mem_cons]
  exact ⟨(toColumn_eq_ok_iff.mp hc).1, (toColumn_eq_ok_iff.mp hcu).1,
    (toColumn_eq_ok_iff.mp hm).1, (toColumn_eq_ok_iff.mp hmu).1, (toColumn_eq_ok_iff.mp hd).1,
    (toColumn_eq_ok_iff.mp hdu).1, nofun⟩

/-- Exactly the rows of nodes that use no more than they have break no check. -/
theorem brokenCheck?_of_eq_none_iff :
    (of node).brokenCheck? = none ↔
      node.vcpusUsed ≤ node.vcpus ∧ node.memoryUsed ≤ node.memory ∧
        node.diskUsed ≤ node.disk := by
  refine ⟨fun h => ?_, fun ⟨hcu, hmu, hdu⟩ => brokenCheck?_of hcu hmu hdu⟩
  -- none of the checks is the first that is broken
  have hfind : (of node).checks.find? (!·.1) = none := Option.map_eq_none_iff.mp h
  have hpassed : ∀ check ∈ (of node).checks, check.1 = true := by
    simpa using List.find?_eq_none.mp hfind
  simpa [checks, of] using hpassed

/-- What passes the columns and the checks can be stored. -/
theorem storable_of_brokenCheck?_eq_none (h : ofNode node = .ok row)
    (hc : row.brokenCheck? = none) : node.Storable := by
  obtain rfl := eq_of_ofNode h
  obtain ⟨hcu, hmu, hdu⟩ := brokenCheck?_of_eq_none_iff.mp hc
  exact ⟨fit_of_ofNode_eq_ok h, hcu, hmu, hdu⟩

end NodeRow

/-- Nothing is replaced exactly when the address is not there. -/
theorem NodeTable.replace?_eq_ok_none_iff {table : NodeTable} {row : NodeRow} :
    table.replace? row = .ok none ↔ table.find? row.address = none := by
  rw [find?_eq_none_iff, replace?]
  by_cases hold : table.any (·.address = row.address) = true
  · have hfound : ¬ ∀ old ∈ table, old.address ≠ row.address := by simpa using hold
    rw [if_pos hold]
    cases row.brokenCheck? with
    | some check => exact ⟨nofun, fun h => absurd h hfound⟩
    | none => exact ⟨nofun, fun h => absurd h hfound⟩
  · have hnone : ∀ old ∈ table, old.address ≠ row.address := by simpa using hold
    rw [if_neg hold]
    exact ⟨fun _ => hnone, fun _ => rfl⟩

/-! ## Statements that are refused -/

variable {store : Store} {node : Node}

/-- Adding a node, step by step: the columns, then the checks and the address. -/
theorem run_addNode_eq (ho : store.isOpen = true) :
    (addNode node).run.run store =
      match NodeRow.ofNode node with
      | .error fault => (.error fault, store)
      | .ok row =>
        match store.nodes.insert row with
        | .error cause => (.error cause.fault, store)
        | .ok nodes => (.ok (), { store with nodes }) := by
  obtain ⟨table, placements, isOpen⟩ := store
  obtain rfl : isOpen = true := ho
  unfold addNode insertNodeRow
  rcases NodeRow.ofNode node with fault | row
  · rfl
  · show (StateT.run (ExceptT.run (ofRefusal (table.insert row) >>= fun nodes =>
      set (⟨nodes, placements, true⟩ : Store) : Statement Unit)) _) = _
    dsimp only
    rcases table.insert row with cause | nodes <;> rfl

/-- Updating a node, step by step: the columns, the checks, then the row that is replaced. -/
theorem run_updateNode_eq (ho : store.isOpen = true) :
    (updateNode node).run.run store =
      match NodeRow.ofNode node with
      | .error fault => (.error fault, store)
      | .ok row =>
        match store.nodes.replace? row with
        | .error cause => (.error cause.fault, store)
        | .ok none => (.error ⟨.notFound, s!"node {node.address} not found"⟩, store)
        | .ok (some nodes) => (.ok (), { store with nodes }) := by
  obtain ⟨table, placements, isOpen⟩ := store
  obtain rfl : isOpen = true := ho
  unfold updateNode
  rcases NodeRow.ofNode node with fault | row
  · rfl
  · show (StateT.run (ExceptT.run (ofRefusal (table.replace? row) >>= _ : Statement Unit)) _) = _
    dsimp only
    rcases table.replace? row with cause | _ | nodes <;> rfl

end Store

open Store

namespace Shared

variable {shared : Shared} {node : Node}

/-- A node that cannot be stored, or whose address is taken, is not added. -/
theorem answer_addNode_refused (ho : shared.store.isOpen = true)
    (h : ¬ (node.Storable ∧ shared.store.nodes.find? node.address = none)) (task : Nat) :
    ∃ fault, fault.kind = .database ∧
      shared.answer task (.addNode node) = .reply (.error fault) shared := by
  rw [answer, query, run_addNode_eq ho]
  -- a column refuses the node, or the table its row
  cases hrow : NodeRow.ofNode node with
  | error fault => exact ⟨fault, NodeRow.kind_of_ofNode_eq_error hrow, rfl⟩
  | ok row =>
    dsimp only
    cases hinsert : shared.store.nodes.insert row with
    | error cause => exact ⟨cause.fault, rfl, rfl⟩
    | ok nodes =>
      -- a row that was taken broke no check and was new
      obtain ⟨hcheck, hnew, -⟩ := NodeTable.insert_eq_ok_iff.mp hinsert
      refine absurd ⟨NodeRow.storable_of_brokenCheck?_eq_none hrow hcheck, ?_⟩ h
      obtain rfl := NodeRow.eq_of_ofNode hrow
      exact NodeTable.find?_eq_none_iff.mpr hnew

/-- A node without a row is not updated. -/
theorem answer_updateNode_missing (ho : shared.store.isOpen = true) (hs : node.Sound)
    (hnone : shared.store.nodes.find? node.address = none) (task : Nat) :
    ∃ fault, fault.kind = .notFound ∧
      shared.answer task (.updateNode node) = .reply (.error fault) shared := by
  refine ⟨⟨.notFound, s!"node {node.address} not found"⟩, rfl, ?_⟩
  have hreplace : shared.store.nodes.replace? (.of node) = .ok none :=
    NodeTable.replace?_eq_ok_none_iff.mpr hnone
  rw [answer, query, run_updateNode_eq ho, NodeRow.ofNode_of_sound hs]
  dsimp only
  rw [hreplace]
  rfl

/-- A node that cannot be stored is not updated. -/
theorem answer_updateNode_refused (ho : shared.store.isOpen = true) (hs : ¬ node.Storable)
    (task : Nat) :
    ∃ fault, (shared.store.nodes.find? node.address ≠ none → fault.kind = .database) ∧
      shared.answer task (.updateNode node) = .reply (.error fault) shared := by
  rw [answer, query, run_updateNode_eq ho]
  cases hrow : NodeRow.ofNode node with
  | error fault => exact ⟨fault, fun _ => NodeRow.kind_of_ofNode_eq_error hrow, rfl⟩
  | ok row =>
    dsimp only
    -- the row broke a check, or was not there
    cases hreplace : shared.store.nodes.replace? row with
    | error cause => exact ⟨cause.fault, fun _ => rfl, rfl⟩
    | ok found =>
      cases found with
      | some nodes =>
        obtain ⟨-, hcheck, -⟩ := NodeTable.replace?_eq_ok_some_iff.mp hreplace
        exact absurd (NodeRow.storable_of_brokenCheck?_eq_none hrow hcheck) hs
      | none =>
        obtain rfl := NodeRow.eq_of_ofNode hrow
        have hnone := NodeTable.replace?_eq_ok_none_iff.mp hreplace
        exact ⟨_, fun hold => absurd hnone hold, rfl⟩

end Shared

/-! ## Registries -/

/-- Nodes that the table can hold, one for each address, in the order of the table. -/
structure Registry where
  nodes : List Node
  distinct : (nodes.map (·.address)).Nodup
  storable : ∀ node ∈ nodes, node.Storable
  inRange : ∀ node ∈ nodes, node.InRange

namespace Registry

variable {registry : Registry} {node : Node} {address : String}

def addresses (registry : Registry) : List String :=
  registry.nodes.map (·.address)

def rows (registry : Registry) : NodeTable :=
  registry.nodes.map NodeRow.of

def empty : Registry := ⟨[], List.nodup_nil, nofun, nofun⟩

/-- The nodes with another one in the place of that with its address. -/
def replaced (registry : Registry) (node : Node) : List Node :=
  registry.nodes.map fun old => if old.address = node.address then node else old

/-- A row is found exactly where its node is. -/
theorem find?_rows (registry : Registry) (address : String) :
    registry.rows.find? address = (registry.nodes.find? (·.address = address)).map NodeRow.of :=
  List.find?_map

theorem find?_rows_eq_none_iff :
    registry.rows.find? address = none ↔ address ∉ registry.addresses := by
  rw [find?_rows, Option.map_eq_none_iff]
  simp [addresses]

/-- All rows are read as their nodes. -/
theorem mapM_toNode_rows (registry : Registry) :
    registry.rows.mapM (·.toNode) = .ok registry.nodes := by
  have hrange := registry.inRange
  rw [rows]
  -- the induction is on the nodes, with only their range known of them
  generalize registry.nodes = nodes at hrange
  induction nodes with
  | nil => rfl
  | cons node nodes ih =>
    obtain ⟨hnode, hnodes⟩ := List.forall_mem_cons.mp hrange
    rw [List.map_cons, List.mapM_cons, NodeRow.toNode_of hnode, ih hnodes]
    rfl

/-- The list of the nodes is that of the registry. -/
theorem nodesAnswer_eq {store : Store} (ho : store.isOpen = true)
    (hrows : store.nodes = registry.rows) : store.nodesAnswer = .ok registry.nodes := by
  rw [nodesAnswer, listNodes, run_whenOpen_bind _ ho, run_get_bind, hrows,
    registry.mapM_toNode_rows]
  rfl

/-- The row of a node is put in the place of that with its address. -/
theorem rows_put (registry : Registry) (node : Node) :
    registry.rows.put node = (registry.replaced node).map NodeRow.of := by
  rw [NodeTable.put, rows, replaced, List.map_map, List.map_map]
  refine List.map_congr_left fun old _ => ?_
  by_cases h : old.address = node.address
  · simp [NodeRow.of, h]
  · simp [NodeRow.of, h]

/-- A new node comes last. -/
theorem exists_append (registry : Registry) (hs : node.Storable) (hr : node.InRange)
    (hnew : node.address ∉ registry.addresses) :
    ∃ after : Registry, after.nodes = registry.nodes ++ [node] ∧
      after.rows = registry.rows ++ [.of node] := by
  refine ⟨⟨registry.nodes ++ [node], ?_, ?_, ?_⟩, rfl, List.map_append⟩
  · rw [List.map_append, List.nodup_append]
    refine ⟨registry.distinct, List.nodup_singleton _, ?_⟩
    -- the new address is none of the old ones
    intro address haddress other hother heq
    obtain rfl : other = node.address := List.mem_singleton.mp hother
    exact hnew (heq ▸ haddress)
  · exact List.forall_mem_append.mpr ⟨registry.storable, List.forall_mem_singleton.mpr hs⟩
  · exact List.forall_mem_append.mpr ⟨registry.inRange, List.forall_mem_singleton.mpr hr⟩

/-- Putting a node in the place of another changes no address. -/
theorem addresses_replaced (registry : Registry) (node : Node) :
    (registry.replaced node).map (·.address) = registry.addresses := by
  rw [replaced, addresses, List.map_map]
  refine List.map_congr_left fun old _ => ?_
  by_cases h : old.address = node.address
  · simp [h]
  · simp [h]

/-- What holds of all nodes and of the new one holds after it was put in its place. -/
theorem forall_mem_replaced {p : Node → Prop} (h : ∀ old ∈ registry.nodes, p old) (hn : p node) :
    ∀ stored ∈ registry.replaced node, p stored := by
  intro stored hstored
  obtain ⟨old, hold, rfl⟩ := List.mem_map.mp hstored
  split
  · exact hn
  · exact h old hold

/-- A changed node stays where it was. -/
theorem exists_replace (registry : Registry) (hs : node.Storable) (hr : node.InRange) :
    ∃ after : Registry, after.nodes = registry.replaced node ∧
      after.rows = registry.rows.put node :=
  ⟨⟨registry.replaced node, addresses_replaced registry node ▸ registry.distinct,
    forall_mem_replaced registry.storable hs, forall_mem_replaced registry.inRange hr⟩, rfl,
    (registry.rows_put node).symm⟩

end Registry

/-! ## Answers from a registry -/

namespace Shared

variable {shared : Shared} {registry : Registry} {node : Node}

theorem withNodes_rows (hrows : shared.store.nodes = registry.rows) :
    shared.withNodes registry.rows = shared := by
  rw [← hrows]
  rfl

/-- Whoever asks for a node is answered from the registry. -/
theorem answer_findNode_registry (ho : shared.store.isOpen = true)
    (hrows : shared.store.nodes = registry.rows) (task : Nat) (address : String) :
    shared.answer task (.findNode address) =
      .reply (.ok (registry.nodes.find? (·.address = address))) shared := by
  rw [answer, query, run_findNode address ho, hrows, registry.find?_rows]
  cases hfind : registry.nodes.find? (·.address = address) with
  | none => rfl
  | some stored =>
    have hrange := registry.inRange stored (List.mem_of_find?_eq_some hfind)
    rw [Option.map_some]
    dsimp only
    rw [NodeRow.toNode_of hrange]
    rfl

/-- Whoever asks for all nodes gets those of the registry, in their order. -/
theorem answer_listNodes_registry (ho : shared.store.isOpen = true)
    (hrows : shared.store.nodes = registry.rows) (task : Nat) :
    shared.answer task .listNodes = .reply (.ok registry.nodes) shared := by
  rw [answer, query, run_listNodes, Registry.nodesAnswer_eq ho hrows]
  rfl

/-- A node that can be stored and whose address is new is added, and comes last. -/
theorem answer_addNode_registry (ho : shared.store.isOpen = true)
    (hrows : shared.store.nodes = registry.rows) (hs : node.Storable) (hr : node.InRange)
    (hnew : node.address ∉ registry.addresses) (task : Nat) :
    ∃ after : Registry, after.nodes = registry.nodes ++ [node] ∧
      shared.answer task (.addNode node) = .reply (.ok ()) (shared.withNodes after.rows) := by
  obtain ⟨after, hafter, hnodes⟩ := registry.exists_append hs hr hnew
  have hnone : shared.store.nodes.find? node.address = none := by
    rw [hrows]
    exact Registry.find?_rows_eq_none_iff.mpr hnew
  refine ⟨after, hafter, ?_⟩
  rw [hnodes, ← hrows]
  exact answer_addNode ho (hs.sound hr.vcpus) hnone task

/-- A node that can be stored and whose address is there takes the place of the old one. -/
theorem answer_updateNode_registry (ho : shared.store.isOpen = true)
    (hrows : shared.store.nodes = registry.rows) (hs : node.Storable) (hr : node.InRange)
    (hold : node.address ∈ registry.addresses) (task : Nat) :
    ∃ after : Registry, after.nodes = registry.replaced node ∧
      shared.answer task (.updateNode node) = .reply (.ok ()) (shared.withNodes after.rows) := by
  obtain ⟨after, hafter, hnodes⟩ := registry.exists_replace hs hr
  have hsome : shared.store.nodes.find? node.address ≠ none := by
    rw [hrows, ne_eq, Registry.find?_rows_eq_none_iff]
    exact not_not_intro hold
  obtain ⟨old, hfind⟩ := Option.ne_none_iff_exists'.mp hsome
  refine ⟨after, hafter, ?_⟩
  rw [hnodes, ← hrows]
  exact answer_updateNode ho (hs.sound hr.vcpus) hfind task

end Shared

end VparFleet
