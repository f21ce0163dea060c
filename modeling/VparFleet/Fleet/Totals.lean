import VparFleet.Node

/-!
# Fleet totals

The capacity of the whole fleet, as one host that the orchestrator sees.

* `ofNodes_eq`: each total is the sum of that amount over the nodes.
-/

namespace VparFleet

/-- The summed capacity of a fleet. -/
structure FleetTotals where
  vcpus : Nat
  /-- Processors given to partitions. -/
  vcpusUsed : Nat
  /-- All memory, in megabytes. -/
  memory : Nat
  /-- Memory given to partitions, in megabytes. -/
  memoryUsed : Nat
  /-- All disk space, in gigabytes. -/
  disk : Nat
  /-- Allocated disk space, in gigabytes. -/
  diskUsed : Nat
  /-- The number of nodes summed. -/
  nodeCount : Nat
  deriving DecidableEq, Repr

namespace FleetTotals

/-- The hypervisor type reported to the orchestrator. -/
def hypervisorType : String := "hpux"

/-- The hypervisor version reported to the orchestrator. -/
def hypervisorVersion : String := "20140918"

/-- The host name reported for the whole fleet. -/
def hypervisorHostname : String := "hpux"

/-- The processor description: an object without members. -/
def cpuInfo : String := "\x7b\x7d"

/-- The totals of no node. -/
def zero : FleetTotals := ⟨0, 0, 0, 0, 0, 0, 0⟩

/-- Adds one node. -/
def add (totals : FleetTotals) (node : Node) : FleetTotals where
  vcpus := totals.vcpus + node.vcpus
  vcpusUsed := totals.vcpusUsed + node.vcpusUsed
  memory := totals.memory + node.memory
  memoryUsed := totals.memoryUsed + node.memoryUsed
  disk := totals.disk + node.disk
  diskUsed := totals.diskUsed + node.diskUsed
  nodeCount := totals.nodeCount + 1

/-- The totals of a list of nodes. -/
def ofNodes (nodes : List Node) : FleetTotals :=
  nodes.foldl add zero

/-- Adding nodes one by one adds their sums. -/
theorem foldl_add (nodes : List Node) (totals : FleetTotals) :
    nodes.foldl add totals =
      ⟨totals.vcpus + nodes.foldr (·.vcpus + ·) 0,
        totals.vcpusUsed + nodes.foldr (·.vcpusUsed + ·) 0,
        totals.memory + nodes.foldr (·.memory + ·) 0,
        totals.memoryUsed + nodes.foldr (·.memoryUsed + ·) 0,
        totals.disk + nodes.foldr (·.disk + ·) 0,
        totals.diskUsed + nodes.foldr (·.diskUsed + ·) 0,
        totals.nodeCount + nodes.length⟩ := by
  induction nodes generalizing totals with
  | nil => simp
  | cons node nodes ih =>
    -- the sums are over all nodes that follow, so the totals so far are left free
    rw [List.foldl_cons, ih]
    simp only [add, List.foldr_cons, List.length_cons, FleetTotals.mk.injEq]
    omega

theorem ofNodes_eq (nodes : List Node) :
    ofNodes nodes =
      ⟨nodes.foldr (·.vcpus + ·) 0, nodes.foldr (·.vcpusUsed + ·) 0, nodes.foldr (·.memory + ·) 0,
        nodes.foldr (·.memoryUsed + ·) 0, nodes.foldr (·.disk + ·) 0,
        nodes.foldr (·.diskUsed + ·) 0, nodes.length⟩ := by
  simp [ofNodes, foldl_add, zero]

end FleetTotals

end VparFleet
