import VparFleet.Monitor.Refresh
import VparFleet.Placement.FirstFit
import VparFleet.Provisioning.Provisioner

/-!
# The fleet controller

What the orchestrator asks of the fleet as a whole. Operations that create or remove a partition
hold the lock on its name, so that two of them on one name never overlap.

* `Controller.spawn`: places, defines, records and boots a partition.
* `Controller.destroy`: removes a partition that runs somewhere, and forgets its placement only if
  the removal was complete.
-/

namespace VparFleet

/-- What the controller has to know of the settings. -/
structure Controller where
  /-- Refreshes. -/
  monitor : Monitor
  /-- Steps on the nodes. -/
  provisioner : Provisioner
  /-- The orchestrator's label of the management network. -/
  networkLabel : String

namespace Controller

/-- The controller of a configuration. -/
def ofSettings (settings : Settings) : Except Settings.Flaw Controller := do
  let provisioner ← Provisioner.ofSettings settings.remote settings.node settings.server
  return {
    monitor := ⟨settings.server.address, settings.node.volumeGroup⟩
    provisioner
    networkLabel := settings.node.networkLabel }

/-- The running partitions of a node. -/
def runningOn (node : Node) : Operation (List String) := do
  let output ← .exec node.address Command.partitionSummary
  return Report.runningNames output.toList

/-- The running partitions of all nodes, in registry order. -/
def list : Operation (List String) := do
  let nodes ← .listNodes
  return (← nodes.mapM runningOn).flatten

/-- The number of running partitions. -/
def count : Operation Nat := do
  return (← list).length

/-- Whether a partition runs somewhere. -/
def exists? (name : String) : Operation Bool := do
  return (← list).contains name

/-- The fault of a name without a placement. -/
def notPlaced (name : String) : Fault :=
  ⟨.notFound, s!"partition {name} has no placement"⟩

/-- The placement of a partition, which must be there. -/
def needPlacement (name : String) : Operation Placement := do
  match ← .findPlacement name with
  | some placement => return placement
  | none => throw (notPlaced name)

/-- What the hosting node says about a partition. -/
def inspect (name : String) : Operation PartitionInfo := do
  let placement ← needPlacement name
  let detail ← Provisioner.detail placement.node name
  if detail.isEmpty then
    throw ⟨.notFound, s!"partition {name} not found on {placement.node}"⟩
  return {
    name
    node := placement.node
    state := detail.powerState
    cpus := detail.cpus.getD 0
    memory := detail.memory.getD 0 }

/-- Holds the lock on a partition name during an operation. -/
def holding {α : Type} (name : String) (operation : Operation α) : Operation α :=
  .between (.perform (.lockName name)) (.perform (.unlockName name)) operation

/-- The fault of a request that no node has room for. -/
def noRoom (request : SpawnRequest) : Fault :=
  let r := request.resources
  ⟨.notFound, s!"no nPar can host {request.name} "
    ++ s!"(mem {r.memory} MB, cpus {r.cpus}, disk {r.disk} GB)"⟩

/-- The node that a request is placed on. -/
def place (request : SpawnRequest) : Operation Node := do
  let nodes ← .listNodes
  match request.resources.choose nodes with
  | some node => return node
  | none => throw (noRoom request)

/-- Refuses a name that has a placement. -/
def refusePlaced (name : String) : Operation Unit := do
  match ← .findPlacement name with
  | some placed =>
    throw (SpawnRequest.Flaw.alreadyPlaced name placed.node placed.workload).fault
  | none => return ()

/-- The management address that a request gives. -/
def needManagementIp (c : Controller) (request : SpawnRequest) : Outcome String :=
  match request.managementIp? c.networkLabel with
  | some ip => .ok ip
  | none => .error (SpawnRequest.Flaw.noManagementIp c.networkLabel request.name).fault

/-- Creates and boots a partition, under the lock on its name. The placement is recorded as soon as
the definition exists. -/
def spawnHeld (c : Controller) (request : SpawnRequest) : Operation Partition := do
  let ip ← .ofOutcome (c.needManagementIp request)
  refusePlaced request.name
  let node ← place request
  let defined ← c.provisioner.definePartition node.address request
  -- Recorded before the first start, so that a partition that fails to come up can be destroyed.
  let now ← .clock
  .recordPlacement ⟨request.resources.workload, request.name, node.address, now⟩
  c.provisioner.bringUp node.address request ip defined

/-- Creates and boots a partition. -/
def spawn (c : Controller) (request : SpawnRequest) : Operation Partition := do
  -- A request that breaks a rule does not wait for the lock.
  .ofOutcome request.validate
  holding request.name (c.spawnHeld request)

/-- Removes a partition that runs somewhere, under the lock on its name. -/
def destroyHeld (c : Controller) (name : String) : Operation DestroyOutcome := do
  if !(← exists? name) then return .notPresent
  let placement ← needPlacement name
  let outcome ← c.provisioner.destroy placement.node name placement.workload
  -- Otherwise something of the partition is left, and the placement says where.
  if outcome = .removed then
    let _ ← .removePlacement placement.workload
  return outcome

/-- Removes a partition. -/
def destroy (c : Controller) (name : String) : Operation DestroyOutcome :=
  holding name (c.destroyHeld name)

/-- The statistics of the fleet. -/
def stats (c : Controller) (fresh : Bool) : Operation FleetStats :=
  c.monitor.stats fresh

end Controller

end VparFleet
