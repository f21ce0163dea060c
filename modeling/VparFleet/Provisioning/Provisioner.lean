import VparFleet.Console.Firmware
import VparFleet.Partition.Lifecycle
import VparFleet.Provisioning.Registration
import VparFleet.Report.Device
import VparFleet.Report.Status
import VparFleet.Request

/-!
# Provisioning

The steps in the life of a partition, each a command on its node or a conversation with its
console. The acknowledgement of a step is looked for in the output.

* `Provisioner.provision`: all steps from the boot volume to the network boot, up to the first that
  fails. Steps that are done stay done.
* `Provisioner.destroy`: powers a partition off, and removes definition and volume only if it is
  then seen down.
-/

namespace VparFleet

/-- What provisioning has to know of the settings. -/
structure Provisioner where
  /-- Names on the nodes. -/
  node : NodeSettings
  /-- The provisioning server. -/
  server : ServerSettings
  prompt : Pattern
  /-- The bound on every console step but the last. -/
  step : Span
  /-- The bound on the last console step. -/
  boot : Span

namespace Provisioner

/-- Takes what is needed from the settings, unless the prompt pattern is no pattern. -/
def ofSettings (remote : RemoteSettings) (node : NodeSettings) (server : ServerSettings) :
    Except Settings.Flaw Provisioner :=
  match Pattern.read? remote.promptPattern.toList with
  | some prompt => .ok ⟨node, server, prompt, remote.stepTimeout, remote.bootTimeout⟩
  | none => .error .badPrompt

/-- A fault of a command whose output is not what it has to be. -/
def commandFault (detail : String) : Fault :=
  ⟨.remoteCommand, detail⟩

/-- Creates the boot volume of a workload. The output must name the raw device, which is the
result. -/
def allocateStorage (p : Provisioner) (host workload : String) (disk : Nat) :
    Operation String := do
  let output ← .exec host (Command.createVolume p.node.volumeGroup workload disk)
  let raw := Command.rawVolumePath p.node.volumeGroup workload
  if Text.occurs raw.toList output.toList then return raw
  else
    let shown := String.ofList (Text.trim output.toList)
    throw (commandFault s!"lvcreate did not report {raw}: {shown}")

/-- Defines a partition. -/
def define (p : Provisioner) (host name : String) (memory cpus : Nat) (rawVolume : String) :
    Operation Unit := do
  let _ ← .exec host (Command.createPartition p.node name memory cpus rawVolume)

/-- Starts a partition to its firmware shell: whether that was acknowledged. -/
def bootToFirmware (host name : String) : Operation Bool := do
  let output ← .exec host (Command.bootPartition name)
  return Text.occurs Command.bootAcknowledgement.toList output.toList

/-- Starts a partition, acknowledged or not. -/
def powerOn (host name : String) : Operation Unit := do
  let _ ← .exec host (Command.bootPartition name)

/-- The hardware address of a partition on the management network. -/
def readManagementMac (p : Provisioner) (host name : String) : Operation (Option String) := do
  let output ← .exec host (Command.partitionDetail name)
  return Report.managementMac? output.toList p.node.managementNetwork

/-- What a node says about a partition. -/
def detail (host name : String) : Operation Report.Detail := do
  let output ← .exec host (Command.partitionDetail name)
  .ofOutcome (Report.orFault (Report.Detail.read output.toList))

/-- Powers a partition off by force, and waits. Whether it is down then is not looked at. -/
def powerOff (p : Provisioner) (host name : String) : Operation Unit := do
  let _ ← .exec host (Command.resetPartition name)
  .pause p.node.grace

/-- Powers a partition off and attaches a virtual host bus adapter. -/
def attachAdapter (p : Provisioner) (host name portName nodeName : String) : Operation Unit := do
  p.powerOff host name
  let _ ← .exec host (Command.attachAdapter name portName nodeName)

/-- Boots a partition from the network. -/
def networkBoot (p : Provisioner) (host : String) (plan : BootPlan) : Operation ConsoleStage :=
  VparFleet.networkBoot host plan p.prompt p.step p.boot

/-- Makes a partition known to the provisioning server. -/
def register (p : Provisioner) (registration : Registration) : Operation Unit :=
  registration.register p.server

/-- Records that a partition has reached a stage. -/
def reach (life : Lifecycle) (stage : Stage) : Operation Lifecycle :=
  .ofOutcome (life.advance stage)

/-- Powers a partition off, and removes definition and volume if it is then down. -/
def destroy (p : Provisioner) (host name workload : String) : Operation DestroyOutcome := do
  let life ← reach ⟨name, .running⟩ .poweringOff
  .atStep "power off" (p.powerOff host name)
  -- The state is read again: a forced power off may not have taken effect within the grace.
  let detail ← .atStep "read run state" (detail host name)
  if !detail.powerState.isDown then return .skippedNotDown
  let life ← reach life .stopped
  let _ ← .atStep "remove definition" (.exec host (Command.removePartition name))
  let _ ← .atStep "remove volume" (.exec host (Command.removeVolume p.node.volumeGroup workload))
  let _ ← reach life .removed
  return .removed

/-- A partition whose volume and definition are there. -/
structure Defined where
  /-- How far it has come. -/
  life : Lifecycle
  /-- The raw device of its volume. -/
  rawVolume : String
  deriving DecidableEq, Repr

/-- Creates the boot volume and defines the partition. -/
def definePartition (p : Provisioner) (host : String) (request : SpawnRequest) :
    Operation Defined := do
  let resources := request.resources
  let raw ← .atStep "allocate storage" (p.allocateStorage host resources.workload resources.disk)
  let life ← reach (.fresh request.name) .storageAllocated
  .atStep "define" (p.define host request.name resources.memory resources.cpus raw)
  return ⟨← reach life .defined, raw⟩

/-- Starts a partition and wants that acknowledged. -/
def startAcknowledged (host name : String) : Operation Unit := do
  if !(← bootToFirmware host name) then
    throw (commandFault s!"vparboot did not acknowledge start of {name}")

/-- The hardware address on the management network, which must be there. -/
def needManagementMac (p : Provisioner) (host name : String) : Operation String := do
  match ← p.readManagementMac host name with
  | some mac => return mac
  | none => throw (commandFault s!"no NIC on {p.node.managementNetwork} found for {name}")

/-- What a partition is registered with. -/
def registration (request : SpawnRequest) (ip mac : String) : Registration where
  entry := ⟨request.name, mac, ip, request.gateway, request.netmask⟩
  image := request.image

/-- How a partition is booted. -/
def bootPlan (p : Provisioner) (request : SpawnRequest) (ip : String) : BootPlan where
  partition := request.name
  server := p.server.address
  client := ip
  gateway := request.gateway
  netmask := request.netmask
  bootFile := p.server.bootFile
  profile := p.server.profile

/-- Starts a defined partition, registers it and boots it from the network. -/
def bringUp (p : Provisioner) (host : String) (request : SpawnRequest) (ip : String)
    (defined : Defined) : Operation Partition := do
  .atStep "boot to firmware" (startAcknowledged host request.name)
  let life ← reach defined.life .bootedToFirmware
  let mac ← .atStep "read management mac" (p.needManagementMac host request.name)
  .atStep "register" (p.register (registration request ip mac))
  let life ← reach life .networkRegistered
  let _ ← .atStep "network boot" (p.networkBoot host (p.bootPlan request ip))
  let _ ← reach life .running
  return {
    name := request.name
    node := host
    memory := request.resources.memory
    cpus := request.resources.cpus
    powerState := .running
    network := ⟨some mac, ip, request.gateway, request.netmask⟩
    volumePath := some defined.rawVolume }

/-- All steps from the boot volume to the network boot. -/
def provision (p : Provisioner) (host : String) (request : SpawnRequest) (ip : String) :
    Operation Partition := do
  let defined ← p.definePartition host request
  p.bringUp host request ip defined

end Provisioner

end VparFleet
