import Mathlib.Algebra.BigOperators.Ring.Finset
import Mathlib.Algebra.Order.BigOperators.Group.List
import Mathlib.Algebra.Order.Group.Nat
import VparFleet.Proofs.Monitor.KeptRows
import VparFleet.Proofs.Monitor.Upkeep

/-!
# Totals and rows

The totals of an update are summed over what was observed, and the node table has one row for each
address. The row shows what was observed last of its address. So the totals are those of the rows,
and of all that was observed of an address before it was observed once more: a node that the
inventory lists twice is summed twice.

* `Gauge`: the amounts that are summed.
* `latest`, `superseded`: the last of the nodes of each address, and the others.
* `sum_rows_keepAll`: the rows of the nodes that were kept have the amounts of the last ones.
* `update_totals`: the totals of a whole update.
-/

namespace VparFleet

open Store

/-- An amount of nodes, and of what is summed over them. -/
inductive Gauge where
  | vcpus
  | vcpusUsed
  | memory
  | memoryUsed
  | disk
  | diskUsed

namespace Gauge

/-- The amount of a node. -/
def ofNode : Gauge → Node → Nat
  | vcpus => (·.vcpus)
  | vcpusUsed => (·.vcpusUsed)
  | memory => (·.memory)
  | memoryUsed => (·.memoryUsed)
  | disk => (·.disk)
  | diskUsed => (·.diskUsed)

/-- The amount in a row. -/
def ofRow : Gauge → NodeRow → Int
  | vcpus => (·.vcpus)
  | vcpusUsed => (·.vcpusUsed)
  | memory => (·.memory)
  | memoryUsed => (·.memoryUsed)
  | disk => (·.disk)
  | diskUsed => (·.diskUsed)

/-- The amount in totals. -/
def ofTotals : Gauge → FleetTotals → Nat
  | vcpus => (·.vcpus)
  | vcpusUsed => (·.vcpusUsed)
  | memory => (·.memory)
  | memoryUsed => (·.memoryUsed)
  | disk => (·.disk)
  | diskUsed => (·.diskUsed)

variable (gauge : Gauge)

theorem ofTotals_ofNodes (nodes : List Node) :
    gauge.ofTotals (.ofNodes nodes) = (nodes.map gauge.ofNode).sum := by
  rw [FleetTotals.ofNodes_eq]
  cases gauge <;> exact List.foldr_map.symm

/-- The place of an amount among the six. -/
def index : Gauge → Nat
  | vcpus => 0
  | vcpusUsed => 1
  | memory => 2
  | memoryUsed => 3
  | disk => 4
  | diskUsed => 5

/-- What a row shows has all its amounts. -/
theorem ofRow_eq (row : NodeRow) : gauge.ofRow row = row.shown.2.getD gauge.index 0 := by
  cases gauge <;> rfl

theorem ofRow_of (node : Node) : gauge.ofRow (.of node) = gauge.ofNode node := by
  cases gauge <;> rfl

end Gauge

/-! ## The last node of each address -/

/-- The last of the nodes of each address. -/
def latest : List Node → List Node
  | [] => []
  | node :: nodes =>
    if node.address ∈ nodes.map (·.address) then latest nodes else node :: latest nodes

/-- The nodes that a later one with the same address follows. -/
def superseded : List Node → List Node
  | [] => []
  | node :: nodes =>
    if node.address ∈ nodes.map (·.address) then node :: superseded nodes else superseded nodes

variable {nodes : List Node} {node : Node} {address : String}

/-- The latest nodes are those that are the last at their address. -/
theorem mem_latest_iff : node ∈ latest nodes ↔ lastAt? nodes node.address = some node := by
  induction nodes with
  | nil => exact iff_of_false List.not_mem_nil nofun
  | cons first nodes ih =>
    -- a node is dropped if a later one has its address
    rw [latest, lastAt?_cons]
    by_cases hlater : first.address ∈ nodes.map (·.address)
    · rw [if_pos hlater, ih]
      by_cases h : first.address = node.address
      · -- at this address a later node is the last one
        obtain ⟨other, hother, haddress⟩ := List.mem_map.mp hlater
        obtain ⟨last, hlast⟩ := exists_lastAt? hother
        rw [haddress, h] at hlast
        rw [if_pos h, hlast, Option.getD_some]
      · rw [if_neg h]
    · rw [if_neg hlater, List.mem_cons, ih]
      by_cases h : first.address = node.address
      · rw [if_pos h, lastAt?_eq_none_iff.mpr (h ▸ hlater), Option.getD_none, Option.some_inj,
          eq_comm]
        exact or_iff_left nofun
      · rw [if_neg h]
        exact or_iff_right fun heq => h (heq ▸ rfl)

/-- They have one address each. -/
theorem nodup_latest (nodes : List Node) : ((latest nodes).map (·.address)).Nodup := by
  induction nodes with
  | nil => exact List.nodup_nil
  | cons first nodes ih =>
    rw [latest]
    split
    · exact ih
    · next hlast =>
      refine List.nodup_cons.mpr ⟨fun h => hlast ?_, ih⟩
      obtain ⟨node, hnode, haddress⟩ := List.mem_map.mp h
      obtain ⟨hmem, -⟩ := mem_of_lastAt? (mem_latest_iff.mp hnode)
      exact List.mem_map.mpr ⟨node, hmem, haddress⟩

/-- Nothing is superseded exactly if no address is listed twice. -/
theorem superseded_eq_nil_iff : superseded nodes = [] ↔ (nodes.map (·.address)).Nodup := by
  induction nodes with
  | nil => simp [superseded]
  | cons node nodes ih =>
    rw [superseded, List.map_cons, List.nodup_cons]
    split <;> simp_all

/-- Every node is the last one of its address or a later one follows. -/
theorem perm_latest_append (nodes : List Node) :
    nodes.Perm (latest nodes ++ superseded nodes) := by
  induction nodes with
  | nil => exact .nil
  | cons node nodes ih =>
    rw [latest, superseded]
    split
    · exact (ih.cons node).trans List.perm_middle.symm
    · exact ih.cons node

/-! ## Their rows -/

/-- The rows of the addresses that nodes have. -/
def Store.NodeTable.rowsOf (table : NodeTable) (nodes : List Node) : NodeTable :=
  table.filter (·.address ∈ nodes.map (·.address))

variable {table : NodeTable}

/-- Every address that was kept has one row, which shows the last node of it. -/
theorem shown_rowsOf_keepAll (hd : (table.map (·.address)).Nodup) (nodes : List Node) :
    (((table.keepAll nodes).rowsOf nodes).map (·.shown)).Perm
      ((latest nodes).map fun node => (NodeRow.of node).shown) := by
  have hdistinct := NodeTable.nodup_addresses_keepAll hd nodes
  -- rows and last nodes have distinct addresses, so it is enough that they are the same ones
  have hrows : (((table.keepAll nodes).rowsOf nodes).map (·.shown)).Nodup := by
    refine List.Nodup.of_map Prod.fst ?_
    rw [List.map_map]
    exact hdistinct.sublist (List.filter_sublist.map _)
  have hlatest : ((latest nodes).map fun node => (NodeRow.of node).shown).Nodup := by
    refine List.Nodup.of_map Prod.fst ?_
    rw [List.map_map]
    exact nodup_latest nodes
  refine (List.perm_ext_iff_of_nodup hrows hlatest).mpr fun shown => ?_
  constructor
  · intro h
    obtain ⟨row, hrow, rfl⟩ := List.mem_map.mp h
    obtain ⟨hmem, hobserved⟩ := List.mem_filter.mp hrow
    obtain ⟨node, hnode, haddress⟩ := List.mem_map.mp (of_decide_eq_true hobserved)
    obtain ⟨last, hlast⟩ := exists_lastAt? hnode
    obtain ⟨hlastMem, hlastAddress⟩ := mem_of_lastAt? hlast
    have hamounts := NodeTable.amountsAt?_keepAll table nodes node.address
    rw [hlast, haddress, NodeTable.amountsAt?, NodeTable.find?_of_mem hdistinct hmem,
      Option.map_some, Option.some_inj] at hamounts
    refine List.mem_map.mpr ⟨last, mem_latest_iff.mpr (hlastAddress ▸ hlast), ?_⟩
    exact Prod.ext (hlastAddress.trans haddress) hamounts.symm
  · intro h
    obtain ⟨node, hnode, rfl⟩ := List.mem_map.mp h
    have hlast := mem_latest_iff.mp hnode
    have hamounts := NodeTable.amountsAt?_keepAll table nodes node.address
    rw [hlast] at hamounts
    obtain ⟨row, hfind, hrow⟩ := Option.map_eq_some_iff.mp hamounts
    obtain ⟨hmem, haddress⟩ := NodeTable.find?_eq_some hfind
    have hobserved : row.address ∈ nodes.map (·.address) :=
      haddress ▸ List.mem_map_of_mem (mem_of_lastAt? hlast).1
    refine List.mem_map.mpr ⟨row, List.mem_filter.mpr ⟨hmem, decide_eq_true hobserved⟩, ?_⟩
    exact Prod.ext haddress hrow

/-- After all nodes are kept there is one row for each of the latest. -/
theorem length_rowsOf_keepAll (hd : (table.map (·.address)).Nodup) (nodes : List Node) :
    ((table.keepAll nodes).rowsOf nodes).length = (latest nodes).length := by
  have hlength := (shown_rowsOf_keepAll hd nodes).length_eq
  rwa [List.length_map, List.length_map] at hlength

/-- And the rows sum up what the latest nodes have. -/
theorem sum_rowsOf_keepAll (hd : (table.map (·.address)).Nodup) (nodes : List Node)
    (gauge : Gauge) :
    (((table.keepAll nodes).rowsOf nodes).map gauge.ofRow).sum =
      ((latest nodes).map fun node => (gauge.ofNode node : Int)).sum := by
  have hsum := ((shown_rowsOf_keepAll hd nodes).map (·.2.getD gauge.index 0)).sum_eq
  rw [List.map_map, List.map_map] at hsum
  simpa only [Function.comp_def, ← Gauge.ofRow_eq, Gauge.ofRow_of] using hsum

/-- What is summed over nodes is what their rows have, and what those nodes have that later ones
with their addresses follow. -/
theorem ofTotals_eq_rowsOf (hd : (table.map (·.address)).Nodup) (nodes : List Node)
    (gauge : Gauge) :
    (gauge.ofTotals (.ofNodes nodes) : Int) =
      (((table.keepAll nodes).rowsOf nodes).map gauge.ofRow).sum +
        ((superseded nodes).map fun node => (gauge.ofNode node : Int)).sum := by
  rw [gauge.ofTotals_ofNodes, sum_rowsOf_keepAll hd, Nat.cast_list_sum, List.map_map,
    ((perm_latest_append nodes).map _).sum_eq, List.map_append, List.sum_append]
  rfl

/-! ## The totals of an update -/

namespace Monitor

variable {m : Monitor} {clients : List Report.Client} {course : List Exchange}
  {fault? : Option Fault}

/-- No node of a survey uses more than it has. -/
theorem Survey.used_le (h : m.Survey clients course nodes fault?) :
    ∀ node ∈ nodes, node.vcpusUsed ≤ node.vcpus ∧ node.memoryUsed ≤ node.memory ∧
      node.diskUsed ≤ node.disk := by
  induction h with
  | done => exact List.forall_mem_nil _
  | failed => exact List.forall_mem_nil _
  | observed h _ ih => exact List.forall_mem_cons.mpr ⟨h.used_le, ih⟩

/-- So no node of a refresh does. -/
theorem RefreshCourse.used_le (h : m.RefreshCourse course clients nodes fault?) :
    ∀ node ∈ nodes, node.vcpusUsed ≤ node.vcpus ∧ node.memoryUsed ≤ node.memory ∧
      node.diskUsed ≤ node.disk := by
  cases h with
  | failed => exact List.forall_mem_nil _
  | surveyed _ hs => exact hs.used_le

end Monitor

/-- Where no node uses more than it has, all of them together do not. -/
theorem used_le_of_nodes (h : ∀ node ∈ nodes, node.vcpusUsed ≤ node.vcpus ∧
    node.memoryUsed ≤ node.memory ∧ node.diskUsed ≤ node.disk) :
    (FleetTotals.ofNodes nodes).vcpusUsed ≤ (FleetTotals.ofNodes nodes).vcpus ∧
      (FleetTotals.ofNodes nodes).memoryUsed ≤ (FleetTotals.ofNodes nodes).memory ∧
      (FleetTotals.ofNodes nodes).diskUsed ≤ (FleetTotals.ofNodes nodes).disk := by
  have hsum {used total : Gauge} (hle : ∀ node ∈ nodes, used.ofNode node ≤ total.ofNode node) :
      used.ofTotals (.ofNodes nodes) ≤ total.ofTotals (.ofNodes nodes) := by
    rw [used.ofTotals_ofNodes, total.ofTotals_ofNodes]
    exact List.sum_le_sum hle
  exact ⟨@hsum .vcpusUsed .vcpus fun node hmem => (h node hmem).1,
    @hsum .memoryUsed .memory fun node hmem => (h node hmem).2.1,
    @hsum .diskUsed .disk fun node hmem => (h node hmem).2.2⟩

/-- What is counted are the rows, and the nodes that were superseded. -/
theorem nodeCount_ofNodes (hd : (table.map (·.address)).Nodup) (nodes : List Node) :
    (FleetTotals.ofNodes nodes).nodeCount =
      ((table.keepAll nodes).rowsOf nodes).length + (superseded nodes).length := by
  rw [FleetTotals.ofNodes_eq, length_rowsOf_keepAll hd, ← List.length_append]
  exact (perm_latest_append nodes).length_eq

open Monitor in
/-- The totals of an update are those of the rows of its nodes, and of what was observed of an
address before it was observed once more. So they are those of the rows exactly when no address is
listed twice. Nothing more is used than there is in any case. -/
theorem update_totals {m : Monitor} {shared : Shared} {happenings : List Happening}
    {tasks : Tasks (Outcome RefreshReport)} {report : RefreshReport}
    (run : Tasks.Run ⟨shared, [m.update.run]⟩ happenings tasks)
    (hdistinct : (shared.store.nodes.map (·.address)).Nodup) (hfree : shared.refreshers = [])
    (hdone : tasks.programs = [.done (.ok report)]) :
    let totals := report.stats.totals
    let rows := tasks.shared.store.nodes.rowsOf report.nodes
    (∃ clients, m.RefreshCourse (remotely (Tasks.own 0 happenings)) clients report.nodes none) ∧
    (∀ gauge : Gauge, (gauge.ofTotals totals : Int) = (rows.map gauge.ofRow).sum +
      ((superseded report.nodes).map fun node => (gauge.ofNode node : Int)).sum) ∧
    totals.nodeCount = rows.length + (superseded report.nodes).length ∧
    (totals.vcpusUsed ≤ totals.vcpus ∧ totals.memoryUsed ≤ totals.memory ∧
      totals.diskUsed ≤ totals.disk) ∧
    (((∀ gauge : Gauge, (gauge.ofTotals totals : Int) = (rows.map gauge.ofRow).sum) ∧
        totals.nodeCount = rows.length) ↔ (report.nodes.map (·.address)).Nodup) := by
  intro totals rows
  obtain ⟨hasked, hkept, htotals⟩ := run.kept hfree hdone
  -- what the totals count twice are the superseded nodes
  have hsums := ofTotals_eq_rowsOf hdistinct report.nodes
  have hcount := nodeCount_ofNodes hdistinct report.nodes
  rw [← hkept, ← htotals] at hsums hcount
  obtain ⟨clients, hcourse⟩ := hasked
  refine ⟨⟨clients, hcourse⟩, hsums, hcount, ?_, ?_⟩
  · have hused := used_le_of_nodes hcourse.used_le
    rwa [← htotals] at hused
  · -- so the totals are those of the rows exactly if nothing was superseded
    rw [← superseded_eq_nil_iff]
    constructor
    · rintro ⟨-, hlength⟩
      exact List.eq_nil_of_length_eq_zero (Nat.left_eq_add.mp (hlength.symm.trans hcount))
    · intro hnone
      simp only [hnone, List.map_nil, List.sum_nil, add_zero] at hsums
      rw [hnone] at hcount
      exact ⟨hsums, hcount⟩

/-- A node that is listed twice is summed twice, with what was observed of it each time. -/
theorem update_totals_sample :
    Sample.updated.2.programs = [.done (.ok Sample.doubledReport)] ∧
      (∀ gauge : Gauge, (gauge.ofTotals Sample.doubledReport.stats.totals : Int) =
        ((Sample.updated.2.shared.store.nodes.rowsOf Sample.doubledNodes).map gauge.ofRow).sum +
          ((superseded Sample.doubledNodes).map fun node => (gauge.ofNode node : Int)).sum) ∧
      Sample.doubledReport.stats.totals.nodeCount =
        (Sample.updated.2.shared.store.nodes.rowsOf Sample.doubledNodes).length +
          (superseded Sample.doubledNodes).length := by
  have hdistinct : (Sample.updating.shared.store.nodes.map (·.address)).Nodup := by decide
  obtain ⟨-, hsums, hcount, -, -⟩ :=
    update_totals Sample.updated_run hdistinct rfl Sample.updated_done
  exact ⟨Sample.updated_done, hsums, hcount⟩

open Monitor in
/-- The totals are not always those of the rows: a node that is listed twice has one row and is
counted twice. -/
theorem not_every_total_of_rows :
    ¬ ∀ (m : Monitor) (shared : Shared) (happenings : List Happening)
      (tasks : Tasks (Outcome RefreshReport)) (report : RefreshReport),
      Tasks.Run ⟨shared, [m.update.run]⟩ happenings tasks →
      (shared.store.nodes.map (·.address)).Nodup → shared.refreshers = [] →
      tasks.programs = [.done (.ok report)] →
      (∀ gauge : Gauge, (gauge.ofTotals report.stats.totals : Int) =
        ((tasks.shared.store.nodes.rowsOf report.nodes).map gauge.ofRow).sum) ∧
      report.stats.totals.nodeCount = (tasks.shared.store.nodes.rowsOf report.nodes).length := by
  intro h
  have hdistinct : (Sample.updating.shared.store.nodes.map (·.address)).Nodup := by decide
  obtain ⟨-, hcount⟩ := h _ _ _ _ _ Sample.updated_run hdistinct rfl Sample.updated_done
  -- two nodes were observed, and there is one row for them
  rw [(Sample.updated_run.kept rfl Sample.updated_done).2.1] at hcount
  exact absurd hcount (by decide)

end VparFleet
