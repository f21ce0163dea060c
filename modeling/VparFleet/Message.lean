import VparFleet.Fleet.Stats
import VparFleet.Json.Schema
import VparFleet.Partition
import VparFleet.Partition.Lifecycle
import VparFleet.Placement
import VparFleet.Request

/-!
# Messages

The JSON forms of what the orchestrator sends and receives. Each type has one schema, which both
reading and writing follow.

* `Message.read`: reads a message.
* `Message.tree`: the message of a value.
-/

namespace VparFleet

open Json (Schema Fields Tree)

/-- A type with a JSON form. -/
class Message (α : Type) where
  /-- The form. -/
  schema : Schema
  /-- The value in a message. -/
  toValue : α → schema.Value
  /-- What a value in a message stands for. -/
  ofValue : schema.Value → α

namespace Message

/-- Reads a message. -/
def read (α : Type) [Message α] (text : List Char) : Except Json.Problem α :=
  match (schema α).decode text with
  | .ok value => .ok (ofValue value)
  | .error problem => .error problem

/-- The JSON value of a message. -/
def tree {α : Type} [Message α] (a : α) : Tree :=
  (schema α).encode (toValue a)

end Message

/-- Members of an object, from a list. -/
def members : List (String × Schema) → Fields
  | [] => .nil
  | (name, schema) :: rest => .cons name schema (members rest)

/-- The form of a number of 32 bits. -/
abbrev count32 : Schema := .number Text.Decimal.word32

/-- The form of a number of 64 bits. -/
abbrev count64 : Schema := .number Text.Decimal.word64

/-- The form of a text that may be missing. -/
abbrev optionalText : Schema := .optional .text

instance : Message String where
  schema := .text
  toValue a := a
  ofValue a := a

instance {α : Type} [Message α] : Message (List α) where
  schema := .list (Message.schema α)
  toValue as := as.map Message.toValue
  ofValue as := List.map Message.ofValue as

/-! ## Power states, stages and outcomes -/

/-- All power states. -/
def PowerState.all : List PowerState := [noState, running, blocked, shutdown, shutoff]

/-- The name of a power state in messages. -/
def PowerState.word : PowerState → String
  | noState => "no_state"
  | running => "running"
  | blocked => "blocked"
  | shutdown => "shutdown"
  | shutoff => "shutoff"

/-- All outcomes of a request to destroy a partition. -/
def DestroyOutcome.all : List DestroyOutcome := [removed, skippedNotDown, notPresent]

/-- The name of an outcome in messages. -/
def DestroyOutcome.word : DestroyOutcome → String
  | removed => "removed"
  | skippedNotDown => "skipped_not_down"
  | notPresent => "not_present"

instance : Message PowerState where
  schema := .choice PowerState PowerState.all PowerState.word
  toValue a := a
  ofValue a := a

instance : Message Stage where
  schema := .choice Stage Stage.all Stage.name
  toValue a := a
  ofValue a := a

instance : Message DestroyOutcome where
  schema := .choice DestroyOutcome DestroyOutcome.all DestroyOutcome.word
  toValue a := a
  ofValue a := a

/-! ## Requests -/

instance : Message FixedIp where
  schema := .record (members [("label", .text), ("address", .text)])
  toValue ip := (ip.label, ip.address, ())
  ofValue | (label, address, ()) => ⟨label, address⟩

instance : Message ResourceRequest where
  schema := .record (members [("workload_id", .text), ("memory_mb", count64), ("cpus", count32),
    ("disk_gb", count64)])
  toValue r := (r.workload, r.memory, r.cpus, r.disk, ())
  ofValue | (workload, memory, cpus, disk, ()) => ⟨workload, memory, cpus, disk⟩

instance : Message SpawnRequest where
  schema := .record (members [("name", .text), ("resources", Message.schema ResourceRequest),
    ("image", .text), ("fixed_ips", .list (Message.schema FixedIp)), ("gateway", .text),
    ("netmask", .text)])
  toValue r := (r.name, Message.toValue r.resources, r.image,
    r.fixedIps.map Message.toValue, r.gateway, r.netmask, ())
  ofValue
    | (name, resources, image, ips, gateway, netmask, ()) =>
      ⟨name, Message.ofValue resources, image, List.map Message.ofValue ips, gateway, netmask⟩

/-! ## Partitions, nodes and placements -/

instance : Message NetworkIdentity where
  schema := .record (members [("mac", optionalText), ("ip", .text), ("gateway", .text),
    ("netmask", .text)])
  toValue n := (n.mac, n.ip, n.gateway, n.netmask, ())
  ofValue | (mac, ip, gateway, netmask, ()) => ⟨mac, ip, gateway, netmask⟩

instance : Message Partition where
  schema := .record (members [("name", .text), ("node_address", .text), ("memory_mb", count64),
    ("cpus", count32), ("power_state", Message.schema PowerState),
    ("network", Message.schema NetworkIdentity), ("volume_path", optionalText)])
  toValue p := (p.name, p.node, p.memory, p.cpus, p.powerState, Message.toValue p.network,
    p.volumePath, ())
  ofValue
    | (name, node, memory, cpus, powerState, network, volumePath, ()) =>
      ⟨name, node, memory, cpus, powerState, Message.ofValue network, volumePath⟩

instance : Message PartitionInfo where
  schema := .record (members [("name", .text), ("node_address", .text),
    ("state", Message.schema PowerState), ("cpus", count32), ("memory_mb", count64)])
  toValue p := (p.name, p.node, p.state, p.cpus, p.memory, ())
  ofValue | (name, node, state, cpus, memory, ()) => ⟨name, node, state, cpus, memory⟩

instance : Message Node where
  schema := .record (members [("address", .text), ("hostname", optionalText), ("model", .text),
    ("vcpus", count32), ("vcpus_used", count32), ("memory_mb", count64),
    ("memory_mb_used", count64), ("disk_gb", count64), ("disk_gb_used", count64)])
  toValue n := (n.address, n.hostname, n.model, n.vcpus, n.vcpusUsed, n.memory, n.memoryUsed,
    n.disk, n.diskUsed, ())
  ofValue
    | (address, hostname, model, vcpus, vcpusUsed, memory, memoryUsed, disk, diskUsed, ()) =>
      ⟨address, hostname, model, vcpus, vcpusUsed, memory, memoryUsed, disk, diskUsed⟩

instance : Message Placement where
  schema := .record (members [("workload_id", .text), ("partition", .text),
    ("node_address", .text), ("created_at", .instant)])
  toValue p := (p.workload, p.partition, p.node, p.createdAt, ())
  ofValue | (workload, partition, node, createdAt, ()) => ⟨workload, partition, node, createdAt⟩

instance : Message FleetStats where
  schema := .record (members [("vcpus", count64), ("vcpus_used", count64), ("memory_mb", count64),
    ("memory_mb_used", count64), ("local_gb", count64), ("local_gb_used", count64),
    ("hypervisor_type", .text), ("hypervisor_version", .text), ("hypervisor_hostname", .text),
    ("cpu_info", .text), ("node_count", count64), ("refreshed_at", .instant)])
  toValue s := (s.totals.vcpus, s.totals.vcpusUsed, s.totals.memory, s.totals.memoryUsed,
    s.totals.disk, s.totals.diskUsed, s.hypervisorType, s.hypervisorVersion,
    s.hypervisorHostname, s.cpuInfo, s.totals.nodeCount, s.refreshedAt, ())
  ofValue
    | (vcpus, vcpusUsed, memory, memoryUsed, disk, diskUsed, type, version, hostname, cpuInfo,
        nodeCount, refreshedAt, ()) =>
      ⟨⟨vcpus, vcpusUsed, memory, memoryUsed, disk, diskUsed, nodeCount⟩, type, version, hostname,
        cpuInfo, refreshedAt⟩

end VparFleet
