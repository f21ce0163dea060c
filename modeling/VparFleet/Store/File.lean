import VparFleet.Message
import VparFleet.Store

/-!
# The file of a store

A store is kept in a file as text: a heading, and the rows of both tables as one JSON value.

* `Store.fileText`: the text of a store.
* `Store.ofFileText?`: the store that a text stands for, if it stands for one.
-/

namespace VparFleet

instance : Message Store.NodeRow where
  schema := .record (members [("address", .text), ("hostname", optionalText), ("model", .text),
    ("vcpus", count64), ("vcpus_used", count64), ("memory", count64), ("memory_used", count64),
    ("disk", count64), ("disk_used", count64)])
  toValue r := (r.address, r.hostname, r.model, r.vcpus.toNat, r.vcpusUsed.toNat, r.memory.toNat,
    r.memoryUsed.toNat, r.disk.toNat, r.diskUsed.toNat, ())
  ofValue
    | (address, hostname, model, vcpus, vcpusUsed, memory, memoryUsed, disk, diskUsed, ()) =>
      ⟨address, hostname, model, Int.ofNat vcpus, Int.ofNat vcpusUsed, Int.ofNat memory,
        Int.ofNat memoryUsed, Int.ofNat disk, Int.ofNat diskUsed⟩

instance : Message Store.PlacementRow where
  schema := .record (members [("workload_id", .text), ("partition", .text),
    ("node_address", .text), ("created_at", .text)])
  toValue r := (r.workload, r.partition, r.node, r.createdAt, ())
  ofValue | (workload, partition, node, createdAt, ()) => ⟨workload, partition, node, createdAt⟩

instance : Message Store where
  schema := .record (members [("nodes", .list (Message.schema Store.NodeRow)),
    ("placements", .list (Message.schema Store.PlacementRow))])
  toValue s := (s.nodes.map Message.toValue, s.placements.map Message.toValue, ())
  ofValue
    | (nodes, placements, ()) =>
      ⟨List.map Message.ofValue nodes, List.map Message.ofValue placements, true⟩

namespace Store

/-- The first line of the file of a store. -/
def heading : String := "vpar-control store\n"

/-- The text of a store. -/
def fileText (store : Store) : String :=
  heading ++ (Message.tree store).pretty ++ "\n"

/-- The store that a text stands for. -/
def ofFileText? (text : List Char) : Option Store :=
  if heading.toList.isPrefixOf text then
    (Message.read Store (text.drop heading.length)).toOption
  else none

end Store

end VparFleet
