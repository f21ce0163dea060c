import Mathlib.Data.List.Basic
import VparFleet.Proofs.Outcome
import VparFleet.Proofs.Store.Placements

/-!
# Rows of the node table

Whatever is in a table that was written row by row from nodes can be read back, and a node whose
amounts fit the columns and never exceed their totals is refused by no column and no check.

* `NodeRow.of`, `ofNode_of_sound`: the row of a node that fits.
* `NodeRow.toNode_of`: what is written is what is read.
* `NodeTable.Written`, `Written.readable`: tables that were written from nodes.
* `run_findNode`, `run_addNode`, `run_updateNode`: what the statements do to such a table.
-/

namespace VparFleet

open Text.Decimal

/-- A node whose amounts are numbers of the widths that they have in the program. -/
structure Node.InRange (node : Node) : Prop where
  vcpus : node.vcpus < word32
  vcpusUsed : node.vcpusUsed < word32
  memory : node.memory < word64
  memoryUsed : node.memoryUsed < word64
  disk : node.disk < word64
  diskUsed : node.diskUsed < word64

/-- A node whose totals fit their columns, and which never uses more than it has. -/
structure Node.Sound (node : Node) : Prop where
  vcpus : node.vcpus < word32
  vcpusUsed : node.vcpusUsed ≤ node.vcpus
  memory : node.memory < Store.columnBound
  memoryUsed : node.memoryUsed ≤ node.memory
  disk : node.disk < Store.columnBound
  diskUsed : node.diskUsed ≤ node.disk

/-- A sound node is in range, since the columns are no wider than the program's numbers. -/
theorem Node.Sound.inRange {node : Node} (h : node.Sound) : node.InRange := by
  have hbound : Store.columnBound < word64 := by decide
  obtain ⟨hc, hcu, hm, hmu, hd, hdu⟩ := h
  exact ⟨hc, by omega, by omega, by omega, by omega, by omega⟩

namespace Store

/-! ## Rows -/

namespace NodeRow

/-- The row of a node, without regard to the width of the columns. -/
def of (node : Node) : NodeRow where
  address := node.address
  hostname := node.hostname
  model := node.model
  vcpus := node.vcpus
  vcpusUsed := node.vcpusUsed
  memory := node.memory
  memoryUsed := node.memoryUsed
  disk := node.disk
  diskUsed := node.diskUsed

/-- The six amounts of a row. -/
def amounts (row : NodeRow) : List Int :=
  [row.vcpus, row.vcpusUsed, row.memory, row.memoryUsed, row.disk, row.diskUsed]

variable {node node' : Node} {row : NodeRow}

/-- An amount is written exactly when it fits its column. -/
theorem toColumn_eq_ok_iff {column : String} {amount : Nat} {value : Int} :
    toColumn column amount = .ok value ↔ amount < columnBound ∧ value = amount := by
  unfold toColumn
  split
  · next h => simp [h, eq_comm]
  · next h => simp [h]

/-- What is written is the row of the node. -/
theorem eq_of_ofNode (h : ofNode node = .ok row) : row = of node := by
  -- all six amounts have fitted, one after the other
  obtain ⟨_, hc, h⟩ := bind_eq_ok_iff.mp h
  obtain ⟨_, hcu, h⟩ := bind_eq_ok_iff.mp h
  obtain ⟨_, hm, h⟩ := bind_eq_ok_iff.mp h
  obtain ⟨_, hmu, h⟩ := bind_eq_ok_iff.mp h
  obtain ⟨_, hd, h⟩ := bind_eq_ok_iff.mp h
  obtain ⟨_, hdu, h⟩ := bind_eq_ok_iff.mp h
  rw [← Except.ok.inj h, (toColumn_eq_ok_iff.mp hc).2, (toColumn_eq_ok_iff.mp hcu).2,
    (toColumn_eq_ok_iff.mp hm).2, (toColumn_eq_ok_iff.mp hmu).2, (toColumn_eq_ok_iff.mp hd).2,
    (toColumn_eq_ok_iff.mp hdu).2]
  rfl

/-- A sound node fits all columns. -/
theorem ofNode_of_sound (h : node.Sound) : ofNode node = .ok (of node) := by
  have hbound : word32 < columnBound := by decide
  obtain ⟨hc, hcu, hm, hmu, hd, hdu⟩ := h
  have hto (column : String) {amount : Nat} (hlt : amount < columnBound) :
      toColumn column amount = .ok (amount : Int) :=
    toColumn_eq_ok_iff.mpr ⟨hlt, rfl⟩
  rw [ofNode, hto _ (by omega), hto _ (by omega), hto _ hm, hto _ (by omega), hto _ hd,
    hto _ (by omega)]
  rfl

/-- What was written is read as it was. -/
theorem toNode_of (h : node.InRange) : (of node).toNode = .ok node := by
  obtain ⟨hc, hcu, hm, hmu, hd, hdu⟩ := h
  have hfrom {bound amount : Nat} (column : String) (hlt : amount < bound) :
      ofColumn bound column (amount : Int) = .ok amount := by
    have hfits : 0 ≤ (amount : Int) ∧ (amount : Int) < bound := by omega
    rw [ofColumn, if_pos hfits, Int.toNat_natCast]
  rw [toNode, of, hfrom _ hc, hfrom _ hcu, hfrom _ hm, hfrom _ hmu, hfrom _ hd, hfrom _ hdu]
  rfl

/-- What can be read is the row of a node. -/
theorem eq_of_toNode (h : row.toNode = .ok node) : node.InRange ∧ row = of node := by
  have hfrom {bound amount : Nat} {column : String} {value : Int}
      (h : ofColumn bound column value = .ok amount) : amount < bound ∧ value = amount := by
    unfold ofColumn at h
    split at h
    · have := Except.ok.inj h
      omega
    · exact nomatch h
  obtain ⟨address, hostname, model, vcpus, vcpusUsed, memory, memoryUsed, disk, diskUsed⟩ := row
  -- all six columns have been read, one after the other
  obtain ⟨_, hc, h⟩ := bind_eq_ok_iff.mp h
  obtain ⟨_, hcu, h⟩ := bind_eq_ok_iff.mp h
  obtain ⟨_, hm, h⟩ := bind_eq_ok_iff.mp h
  obtain ⟨_, hmu, h⟩ := bind_eq_ok_iff.mp h
  obtain ⟨_, hd, h⟩ := bind_eq_ok_iff.mp h
  obtain ⟨_, hdu, h⟩ := bind_eq_ok_iff.mp h
  obtain rfl := Except.ok.inj h
  obtain ⟨hltc, rfl⟩ := hfrom hc
  obtain ⟨hltcu, rfl⟩ := hfrom hcu
  obtain ⟨hltm, rfl⟩ := hfrom hm
  obtain ⟨hltmu, rfl⟩ := hfrom hmu
  obtain ⟨hltd, rfl⟩ := hfrom hd
  obtain ⟨hltdu, rfl⟩ := hfrom hdu
  exact ⟨⟨hltc, hltcu, hltm, hltmu, hltd, hltdu⟩, rfl⟩

/-- A node that uses no more than it has breaks no check. -/
theorem brokenCheck?_of (hcu : node.vcpusUsed ≤ node.vcpus) (hmu : node.memoryUsed ≤ node.memory)
    (hdu : node.diskUsed ≤ node.disk) : (of node).brokenCheck? = none := by
  have hpassed : ∀ check ∈ (of node).checks, check.1 = true := by
    simp [checks, of, hcu, hmu, hdu]
  rw [brokenCheck?, List.find?_eq_none.mpr fun check hmem => by simp [hpassed check hmem]]
  rfl

/-- Two nodes have the same amounts exactly when their rows have. -/
theorem amounts_of_eq_iff :
    (of node).amounts = (of node').amounts ↔ node.sameUsage node' = true := by
  have hamounts (node : Node) : (of node).amounts = node.gauges.map Int.ofNat := rfl
  have hinjective : Function.Injective Int.ofNat := fun _ _ => Int.ofNat.inj
  rw [hamounts, hamounts, (List.map_injective_iff.mpr hinjective).eq_iff, Node.sameUsage,
    beq_iff_eq]

end NodeRow

/-! ## Tables -/

namespace NodeTable

/-- A table that was written row by row from nodes. -/
inductive Written : NodeTable → Prop where
  | empty : Written []
  | inserted {table table' : NodeTable} {node : Node} {row : NodeRow} (h : Written table)
      (hn : node.InRange) (hr : NodeRow.ofNode node = .ok row)
      (hi : table.insert row = .ok table') : Written table'
  | replaced {table table' : NodeTable} {node : Node} {row : NodeRow} (h : Written table)
      (hn : node.InRange) (hr : NodeRow.ofNode node = .ok row)
      (hi : table.replace? row = .ok (some table')) : Written table'

/-- A table of rows that can all be read. -/
def Readable (table : NodeTable) : Prop :=
  ∀ row ∈ table, ∃ node : Node, node.InRange ∧ row = .of node

variable {table table' : NodeTable} {row : NodeRow} {node : Node}

theorem Readable.append (h : Readable table) (hn : node.InRange) :
    Readable (table ++ [.of node]) :=
  List.forall_mem_append.mpr ⟨h, List.forall_mem_singleton.mpr ⟨node, hn, rfl⟩⟩

/-- Puts the row of a node in the place of the one with its address. -/
def put (table : NodeTable) (node : Node) : NodeTable :=
  table.map fun old => if old.address = node.address then .of node else old

/-- A table can be read after a row has taken the place of another. -/
theorem Readable.put (h : Readable table) (hn : node.InRange) : Readable (table.put node) := by
  intro row hmem
  obtain ⟨old, hold, rfl⟩ := List.mem_map.mp hmem
  split
  · exact ⟨node, hn, rfl⟩
  · exact h old hold

/-- A row is replaced exactly when its address is there and no check is broken. -/
theorem replace?_eq_ok_some_iff :
    table.replace? row = .ok (some table') ↔
      (∃ old ∈ table, old.address = row.address) ∧ row.brokenCheck? = none ∧
        table' = table.map fun old => if old.address = row.address then row else old := by
  unfold replace?
  by_cases hold : table.any (·.address = row.address) = true
  · have hexists : ∃ old ∈ table, old.address = row.address := by simpa using hold
    rw [if_pos hold]
    -- the check comes after the address was found
    cases row.brokenCheck? with
    | some check => simp
    | none =>
      constructor
      · intro h
        exact ⟨hexists, rfl, (Option.some.inj (Except.ok.inj h)).symm⟩
      · rintro ⟨-, -, rfl⟩
        rfl
  · have hnone : ¬ ∃ old ∈ table, old.address = row.address := by simpa using hold
    rw [if_neg hold]
    exact ⟨nofun, fun h => absurd h.1 hnone⟩

/-- What was written row by row can be read. -/
theorem Written.readable (h : Written table) : Readable table := by
  induction h with
  | empty => exact nofun
  -- the new row is that of a node, and the old ones were readable
  | inserted _ hn hr hi ih =>
    obtain rfl := NodeRow.eq_of_ofNode hr
    rw [(insert_eq_ok_iff.mp hi).2.2]
    exact ih.append hn
  | replaced _ hn hr hi ih =>
    obtain rfl := NodeRow.eq_of_ofNode hr
    rw [(replace?_eq_ok_some_iff.mp hi).2.2]
    exact ih.put hn

theorem find?_eq_some {address : String} (h : table.find? address = some row) :
    row ∈ table ∧ row.address = address :=
  ⟨List.mem_of_find?_eq_some h, by simpa using List.find?_some h⟩

theorem find?_eq_none_iff {address : String} :
    table.find? address = none ↔ ∀ row ∈ table, row.address ≠ address := by
  simp [find?]

end NodeTable

/-! ## Statements -/

variable {store : Store} {node : Node} {row : NodeRow}

/-- Whoever asks for a node of a readable table gets it. -/
theorem run_findNode (address : String) (ho : store.isOpen = true) :
    (findNode address).run.run store =
      (match store.nodes.find? address with
        | some row => row.toNode.map some
        | none => .ok none, store) := by
  rw [findNode, run_whenOpen_bind _ ho, run_get_bind]
  -- the row that is found is read, and reading it may fail
  cases store.nodes.find? address with
  | none => rfl
  | some row =>
    dsimp only
    rcases row.toNode with fault | node <;> rfl

/-- A closed store answers no search. -/
theorem run_findNode_closed (address : String) (ho : store.isOpen = false) :
    (findNode address).run.run store = (.error StoreCause.closed.fault, store) := by
  obtain ⟨nodes, placements, isOpen⟩ := store
  obtain rfl : isOpen = false := ho
  rfl

/-- A node whose row the table takes is added. -/
theorem run_addNode {nodes : NodeTable} (ho : store.isOpen = true)
    (hr : NodeRow.ofNode node = .ok row) (hi : store.nodes.insert row = .ok nodes) :
    (addNode node).run.run store = (.ok (), { store with nodes }) := by
  obtain ⟨table, placements, isOpen⟩ := store
  obtain rfl : isOpen = true := ho
  unfold addNode insertNodeRow
  rw [hr]
  show (StateT.run (ExceptT.run (ofRefusal (table.insert row) >>= fun nodes =>
    set (⟨nodes, placements, true⟩ : Store) : Statement Unit)) _) = _
  rw [show table.insert row = .ok nodes from hi]
  rfl

/-- A node whose row takes the place of another is updated. -/
theorem run_updateNode {nodes : NodeTable} (ho : store.isOpen = true)
    (hr : NodeRow.ofNode node = .ok row) (hi : store.nodes.replace? row = .ok (some nodes)) :
    (updateNode node).run.run store = (.ok (), { store with nodes }) := by
  obtain ⟨table, placements, isOpen⟩ := store
  obtain rfl : isOpen = true := ho
  unfold updateNode
  rw [hr]
  show (StateT.run (ExceptT.run (ofRefusal (table.replace? row) >>= _ : Statement Unit)) _) = _
  rw [show table.replace? row = .ok (some nodes) from hi]
  rfl

end Store

end VparFleet
