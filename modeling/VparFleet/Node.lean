/-!
# Nodes

A node is a physical partition that hosts virtual ones. It is known by its management address, and
for processors, memory and disk by a total and a used amount.

* `observed_used_le`: a node built from an observation never uses more than it has.
* `observed_free`: its free amounts are the observed ones, or the total where more than the total
  was reported free.
-/

namespace VparFleet

/-- Capacity and usage of one node. -/
structure Node where
  address : String
  /-- The host name in the inventory. -/
  hostname : Option String
  model : String
  vcpus : Nat
  /-- Processors given to partitions. -/
  vcpusUsed : Nat
  /-- All memory, in megabytes. -/
  memory : Nat
  /-- Memory given to partitions, in megabytes. -/
  memoryUsed : Nat
  /-- The size of the volume group, in gigabytes. -/
  disk : Nat
  /-- Allocated volume group space, in gigabytes. -/
  diskUsed : Nat
  deriving DecidableEq, Repr

namespace Node

/-- A node as observed: totals and free amounts. More free than the total counts as nothing
used. -/
def observed (address : String) (hostname : Option String) (model : String)
    (vcpus vcpusFree memory memoryFree disk diskFree : Nat) : Node where
  address := address
  hostname := hostname
  model := model
  vcpus := vcpus
  vcpusUsed := vcpus - vcpusFree
  memory := memory
  memoryUsed := memory - memoryFree
  disk := disk
  diskUsed := disk - diskFree

/-- Processors not given to partitions. -/
def freeVcpus (node : Node) : Nat := node.vcpus - node.vcpusUsed

/-- Memory not given to partitions, in megabytes. -/
def freeMemory (node : Node) : Nat := node.memory - node.memoryUsed

/-- Unallocated disk space, in gigabytes. -/
def freeDisk (node : Node) : Nat := node.disk - node.diskUsed

/-- The six amounts of a node, each total before its used amount. -/
def gauges (node : Node) : List Nat :=
  [node.vcpus, node.vcpusUsed, node.memory, node.memoryUsed, node.disk, node.diskUsed]

/-- Whether two records agree on all six amounts, whatever their names and models are. -/
def sameUsage (a b : Node) : Bool :=
  a.gauges == b.gauges

/-- A node never uses more than it has. -/
theorem observed_used_le (address : String) (hostname : Option String) (model : String)
    (c cf m mf d df : Nat) :
    let node := observed address hostname model c cf m mf d df
    node.vcpusUsed ≤ node.vcpus ∧ node.memoryUsed ≤ node.memory ∧ node.diskUsed ≤ node.disk := by
  simp [observed]

theorem observed_free (address : String) (hostname : Option String) (model : String)
    (c cf m mf d df : Nat) :
    let node := observed address hostname model c cf m mf d df
    node.freeVcpus = min c cf ∧ node.freeMemory = min m mf ∧ node.freeDisk = min d df := by
  simp only [observed, freeVcpus, freeMemory, freeDisk]
  omega

end Node

end VparFleet
