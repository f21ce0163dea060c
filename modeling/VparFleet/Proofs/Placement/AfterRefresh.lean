import Mathlib.Data.List.Find
import VparFleet.Placement.FirstFit
import VparFleet.Proofs.Monitor.KeptRows
import VparFleet.Proofs.Monitor.RefreshEffect
import VparFleet.Proofs.Report.Attributes
import VparFleet.Proofs.Store.NodeCalls

/-!
# Placement after a refresh

What a refresh reads is turned into nodes, kept one after the other, and searched by the next
placement. A node has its place in the table from the first client with its address, and its amounts
from the last one. So a request goes to the first address of the inventory for which less is asked
than was last reported, of what there is and of what is free.

* `Registry.exists_keepAll`: what has become of nodes that were kept one after the other.
* `Sighting`, `Monitor.Finds`: what is heard of each client in a refresh.
* `choose_of_last`: the search for room, by what was heard.
* `update_then_choose`: a whole update, and a placement after it.
-/

namespace VparFleet

open Report Store

/-! ## Nodes kept one after the other -/

namespace Registry

/-- Every node that is kept has its place from the first time, and its amounts from the last. -/
theorem exists_keepAll (registry : Registry) {nodes : List Node}
    (hsound : ∀ node ∈ nodes, node.Sound) :
    ∃ after : Registry, after.rows = registry.rows.keepAll nodes ∧
      after.addresses = registry.addresses ++
        ((nodes.map (·.address)).removeAll registry.addresses).eraseDups ∧
      ∀ stored ∈ after.nodes,
        (∃ node, lastAt? nodes stored.address = some node ∧ stored.gauges = node.gauges) ∨
          lastAt? nodes stored.address = none ∧ stored ∈ registry.nodes := by
  induction nodes generalizing registry with
  | nil =>
    refine ⟨registry, rfl, ?_, fun stored hstored => Or.inr ⟨rfl, hstored⟩⟩
    simp [List.removeAll]
  | cons node nodes ih =>
    obtain ⟨hnode, hnodes⟩ := List.forall_mem_cons.mp hsound
    -- the first node is kept, and the others come after it
    obtain ⟨outcome, middle, hmiddle, hstep⟩ := registry.exists_keep hnode.storable hnode.inRange
    obtain ⟨after, hrows, haddresses, hgauges⟩ := ih middle hnodes
    refine ⟨after, ?_, ?_, fun stored hstored => ?_⟩
    · rw [hrows, hmiddle]
      rfl
    · rw [haddresses, hstep.addresses_append]
      rfl
    · rw [lastAt?_cons]
      rcases hgauges stored hstored with ⟨last, hlast, hsame⟩ | ⟨hnone, hold⟩
      · rw [hlast]
        refine Or.inl ⟨last, ?_, hsame⟩
        split <;> rfl
      · rw [hnone]
        rcases hstep.upserted stored hold with ⟨haddress, hsame⟩ | ⟨hother, hold⟩
        · exact Or.inl ⟨node, if_pos haddress.symm, hsame⟩
        · exact Or.inr ⟨if_neg (Ne.symm hother), hold⟩

end Registry

/-! ## Sightings -/

/-- What is heard of one client in a refresh. -/
structure Sighting where
  client : Client
  free : FreeCapacity
  disk : DiskUsage

namespace Sighting

/-- The node as it is observed. -/
def node (s : Sighting) : Node :=
  .observed s.client.address s.client.hostname s.client.model (s.client.cpus.getD 0) s.free.cpus
    (s.client.memory.getD 0) s.free.memory s.disk.total s.disk.free

/-- Less is asked for than a client has, and less than it has free. -/
def hasRoom (request : ResourceRequest) (s : Sighting) : Bool :=
  request.memory < min (s.client.memory.getD 0) s.free.memory &&
    request.cpus < min (s.client.cpus.getD 0) s.free.cpus &&
    request.disk < min s.disk.total s.disk.free

/-- The last sighting of an address. -/
def last? (sightings : List Sighting) (address : String) : Option Sighting :=
  (sightings.filter (·.client.address = address)).getLast?

/-- The last node at an address is that of the last sighting. -/
theorem lastAt?_map_node (sightings : List Sighting) (address : String) :
    lastAt? (sightings.map node) address = (last? sightings address).map node := by
  rw [lastAt?, last?, List.filter_map, List.getLast?_map]
  rfl

/-- A stored node has room when the sighting with its amounts has. -/
theorem fits_eq_hasRoom {stored : Node} {s : Sighting} (h : stored.gauges = s.node.gauges)
    (request : ResourceRequest) : request.fits stored = s.hasRoom request := by
  simp only [Node.gauges, List.cons.injEq] at h
  obtain ⟨hc, hcu, hm, hmu, hd, hdu, -⟩ := h
  -- what a node uses is computed so that the free amounts come back
  obtain ⟨hcpus, hmemory, hdisk⟩ := Node.observed_free s.client.address s.client.hostname
    s.client.model (s.client.cpus.getD 0) s.free.cpus (s.client.memory.getD 0) s.free.memory
    s.disk.total s.disk.free
  have hfreeMemory : stored.freeMemory = min (s.client.memory.getD 0) s.free.memory := by
    rw [Node.freeMemory, hm, hmu]
    exact hmemory
  have hfreeVcpus : stored.freeVcpus = min (s.client.cpus.getD 0) s.free.cpus := by
    rw [Node.freeVcpus, hc, hcu]
    exact hcpus
  have hfreeDisk : stored.freeDisk = min s.disk.total s.disk.free := by
    rw [Node.freeDisk, hd, hdu]
    exact hdisk
  rw [ResourceRequest.fits, hasRoom, hfreeMemory, hfreeVcpus, hfreeDisk]

end Sighting

namespace Monitor

variable {m : Monitor} {clients : List Client} {nodes : List Node} {course : List Exchange}

/-- What each client reports in turn. -/
inductive Sees (m : Monitor) : List Client → List Exchange → List Sighting → Prop where
  | done : Sees m [] [] []
  | seen {client : Client} {clients : List Client} {freeText groupText : String}
      {free : FreeCapacity} {disk : DiskUsage} {course : List Exchange} {sightings : List Sighting}
      (hfree : FreeCapacity.read freeText.toList = .ok free)
      (hdisk : VolumeGroup.read groupText.toList = .ok disk)
      (rest : Sees m clients course sightings) :
      Sees m (client :: clients)
        (⟨.run client.address capacityQuestion, .ok freeText⟩ ::
          ⟨.run client.address (groupQuestion m.volumeGroup), .ok groupText⟩ :: course)
        (⟨client, free, disk⟩ :: sightings)

/-- A survey that went through all clients has seen a node for each. -/
theorem Survey.sees (h : m.Survey clients course nodes none) :
    ∃ sightings, m.Sees clients course sightings ∧ nodes = sightings.map Sighting.node ∧
      clients = sightings.map (·.client) := by
  generalize hnone : (none : Option Fault) = fault? at h
  induction h with
  | done => exact ⟨[], .done, rfl, rfl⟩
  | failed h => exact nomatch hnone
  | @observed client clients asked course node nodes _ h _ ih =>
    obtain ⟨sightings, hsees, rfl, rfl⟩ := ih hnone
    cases h with
    | observed hfree hdisk =>
      obtain ⟨freeText, rfl, hread⟩ := heard_eq_ok_iff.mp hfree
      obtain ⟨groupText, rfl, hread'⟩ := heard_eq_ok_iff.mp hdisk
      -- both questions were answered with texts that could be read
      exact ⟨⟨client, _, _⟩ :: sightings, .seen hread hread' hsees, rfl, rfl⟩

/-- The clients that the inventory lists, and what each node of them reports in turn. -/
inductive Finds (m : Monitor) : List Exchange → List Client → List Sighting → Prop where
  | intro {text : String} {clients : List Client} {course : List Exchange}
      {sightings : List Sighting} (hread : Client.readAll text.toList = .ok clients)
      (hclients : List.Forall₂ (fun e client => client.ReadFrom e)
        (elements "iux:client".toList text.toList) clients)
      (hsees : m.Sees (clients.filter (·.kind = .node)) course sightings) :
      Finds m (⟨.run m.server inventoryQuestion, .ok text⟩ :: course) clients sightings

/-- A refresh without a fault has heard of every node among its clients. -/
theorem RefreshCourse.finds (h : m.RefreshCourse course clients nodes none) :
    ∃ sightings, m.Finds course clients sightings ∧ nodes = sightings.map Sighting.node ∧
      clients.filter (·.kind = .node) = sightings.map (·.client) ∧
      ∀ s ∈ sightings, s.client.Bounded := by
  cases h with
  | surveyed hinventory hsurvey =>
    obtain ⟨text, rfl, hread⟩ := heard_eq_ok_iff.mp hinventory
    obtain ⟨sightings, hsees, hnodes, hclients⟩ := hsurvey.sees
    refine ⟨sightings, .intro hread (Client.readFrom_of_readAll hread) hsees, hnodes, hclients, ?_⟩
    intro s hs
    have hclient : s.client ∈ clients.filter (·.kind = .node) :=
      hclients ▸ List.mem_map_of_mem hs
    exact Client.bounded_of_readAll hread _ (List.mem_of_mem_filter hclient)

end Monitor

/-! ## The nodes that are listed -/

/-- What is seen by a refresh is what is in the table afterwards, if that was empty. -/
theorem exists_registry_of_sightings {sightings : List Sighting}
    (hsound : ∀ node ∈ sightings.map Sighting.node, node.Sound) :
    ∃ registry : Registry, registry.rows = NodeTable.keepAll [] (sightings.map Sighting.node) ∧
      registry.addresses = (sightings.map (·.client.address)).eraseDups ∧
      ∀ stored ∈ registry.nodes, ∃ s, Sighting.last? sightings stored.address = some s ∧
        stored.gauges = s.node.gauges := by
  obtain ⟨registry, hrows, haddresses, hgauges⟩ := Registry.empty.exists_keepAll hsound
  refine ⟨registry, hrows, ?_, fun stored hstored => ?_⟩
  · rw [haddresses, List.map_map]
    simp [Registry.empty, Registry.addresses, List.removeAll, Function.comp_def, Sighting.node,
      Node.observed]
  · -- the registry was empty, so all its nodes come from sightings
    rcases hgauges stored hstored with ⟨node, hnode, hsame⟩ | ⟨-, hnever⟩
    · rw [Sighting.lastAt?_map_node] at hnode
      obtain ⟨s, hs, rfl⟩ := Option.map_eq_some_iff.mp hnode
      exact ⟨s, hs, hsame⟩
    · exact absurd hnever List.not_mem_nil

/-! ## The first node with room -/

/-- Whether a text comes once or more often does not matter for the first one with a property. -/
theorem find?_eraseDups (p : String → Bool) :
    ∀ as : List String, as.eraseDups.find? p = as.find? p
  | [] => rfl
  | a :: as => by
    rw [List.eraseDups_cons, List.find?_cons, List.find?_cons]
    cases hp : p a with
    | true => rfl
    | false =>
      rw [find?_eraseDups p (as.filter fun b => !b == a), List.find?_filter]
      -- a later copy of the first text does not have the property either
      refine List.find?_congr fun b _ => ?_
      by_cases hb : b = a
      · simp [hb, hp]
      · simp [hb]
termination_by as => as.length
decreasing_by exact Nat.lt_succ_of_le (List.length_filter_le _ as)

/-- The node with the first address whose last sighting has room is chosen. -/
theorem choose_of_last {registry : Registry} {sightings : List Sighting}
    (haddresses : registry.addresses = (sightings.map (·.client.address)).eraseDups)
    (hgauges : ∀ stored ∈ registry.nodes, ∃ s, Sighting.last? sightings stored.address = some s ∧
      stored.gauges = s.node.gauges) (request : ResourceRequest) :
    (request.choose registry.nodes).map (·.address) =
      (sightings.map (·.client.address)).find? fun address =>
        (Sighting.last? sightings address).any (·.hasRoom request) := by
  rw [← find?_eraseDups, ← haddresses, Registry.addresses, List.find?_map,
    ResourceRequest.choose]
  congr 1
  -- a stored node has the amounts of the last sighting of its address
  refine List.find?_congr fun stored hstored => ?_
  obtain ⟨s, hlast, hsame⟩ := hgauges stored hstored
  rw [Function.comp_apply, hlast, Option.any_some]
  exact Sighting.fits_eq_hasRoom hsame request

open Monitor in
/-- After an update that started without nodes, a request is placed by first fit on what the
inventory and the nodes have reported last. -/
theorem update_then_choose {m : Monitor} {shared : Shared} {happenings : List Happening}
    {tasks : Tasks (Outcome RefreshReport)} {report : RefreshReport}
    (run : Tasks.Run ⟨shared, [m.update.run]⟩ happenings tasks)
    (ho : shared.store.isOpen = true) (hempty : shared.store.nodes = [])
    (hfree : shared.refreshers = []) (hfits : ∀ x ∈ happenings, m.Fitting x.exchange)
    (hdone : tasks.programs = [.done (.ok report)]) :
    ∃ (clients : List Client) (sightings : List Sighting) (nodes : List Node),
      m.Finds (remotely (Tasks.own 0 happenings)) clients sightings ∧
      tasks.shared.store.nodesAnswer = .ok nodes ∧
      nodes.map (·.address) =
        ((clients.filter (·.kind = .node)).map (·.address)).eraseDups ∧
      ∀ request : ResourceRequest,
        (request.choose nodes).map (·.address) =
          ((clients.filter (·.kind = .node)).map (·.address)).find? fun address =>
            (Sighting.last? sightings address).any (·.hasRoom request) := by
  have hwritten : NodeTable.Written shared.store.nodes := hempty ▸ .empty
  obtain ⟨clients, nodes, fault?, hasked, -, haccepted, hreports, hstate⟩ :=
    run.refreshed ho hwritten hfree hfits hdone
  cases hreports with
  | completed now =>
    obtain ⟨sightings, hfinds, rfl, hclients, hbounded⟩ := hasked.finds
    -- the store has accepted the nodes, so they fit into its rows
    have hsound : ∀ node ∈ sightings.map Sighting.node, node.Sound := by
      intro node hnode
      obtain ⟨hrow, hcheck⟩ := haccepted node hnode
      obtain ⟨s, hs, rfl⟩ := List.mem_map.mp hnode
      exact (NodeRow.storable_of_brokenCheck?_eq_none hrow hcheck).sound (hbounded s hs).cpus
    obtain ⟨registry, hrows, haddresses, hgauges⟩ := exists_registry_of_sightings hsound
    have htable : tasks.shared.store.nodes = registry.rows := by
      rw [hstate, hrows, ← hempty]
      rfl
    have hopen : tasks.shared.store.isOpen = true := by
      rw [hstate]
      exact ho
    have hseen : (clients.filter (·.kind = .node)).map (·.address) =
        sightings.map (·.client.address) := by
      rw [hclients, List.map_map]
      rfl
    refine ⟨clients, sightings, registry.nodes, hfinds, Registry.nodesAnswer_eq hopen htable, ?_⟩
    rw [hseen]
    exact ⟨haddresses, choose_of_last haddresses hgauges⟩

namespace Sample

/-- An inventory that lists two nodes and a partition, and the first node again, with less. -/
def newInventory : String :=
  "<iux:client name=\"n1\"><iux:attr name=\"model\">nPar</iux:attr>
    <iux:attr name=\"ipaddress\">10.0.0.12</iux:attr><iux:attr name=\"cpus\">8</iux:attr>
    <iux:attr name=\"memory\">16777216</iux:attr></iux:client>
  <iux:client name=\"n2\"><iux:attr name=\"model\">nPar</iux:attr>
    <iux:attr name=\"ipaddress\">10.0.0.13</iux:attr><iux:attr name=\"cpus\">16</iux:attr>
    <iux:attr name=\"memory\">67108864</iux:attr></iux:client>
  <iux:client name=\"web\"><iux:attr name=\"model\">Virtual Partition</iux:attr></iux:client>
  <iux:client name=\"n1\"><iux:attr name=\"model\">nPar</iux:attr>
    <iux:attr name=\"ipaddress\">10.0.0.12</iux:attr><iux:attr name=\"cpus\">4</iux:attr>
    <iux:attr name=\"memory\">8388608</iux:attr></iux:client>"

set_option maxRecDepth 6000 in
theorem newInventory_read : Client.readAll newInventory.toList =
    .ok [⟨"n1", "nPar", "10.0.0.12", none, some 16384, some 8⟩,
      ⟨"n2", "nPar", "10.0.0.13", none, some 65536, some 16⟩,
      ⟨"web", "Virtual Partition", "", none, none, none⟩,
      ⟨"n1", "nPar", "10.0.0.12", none, some 8192, some 4⟩] := by
  show Client.readAll (String.ofList _).toList = _
  rw [String.toList_ofList]
  decide +kernel

/-- How hosts and clock answer then. The first node has six processors free, the second five. -/
def newcomers : (action : Action) → Option action.Reply
  | .run host command =>
    if command = Monitor.inventoryQuestion then some (.ok newInventory)
    else if host = "10.0.0.12" ∧ command = Monitor.capacityQuestion then
      some (.ok "[Available CPUs]: 6\n[Available Memory]: 8192 Mbytes\n")
    else some (.ok (surveyOutput command))
  | .clock => some ⟨19782, 0, 0⟩
  | _ => none

theorem newcomers_fitting {x : Happening} {tasks : Tasks (Outcome RefreshReport)}
    (hx : x ∈ (tasks.goOn newcomers 0).1) : controller.monitor.Fitting x.exchange := by
  rintro host text hexchange
  obtain ⟨task, action, reply⟩ := x
  cases hexchange
  have hreply := Tasks.goOn_outside newcomers 0 hx fun _ => rfl
  -- every node describes the same volume group
  have hinventory : Monitor.groupQuestion "/dev/vg00" ≠ Monitor.inventoryQuestion := by
    decide +kernel
  have hcapacity : Monitor.groupQuestion "/dev/vg00" ≠ Monitor.capacityQuestion := by
    decide +kernel
  have hanswer : newcomers (.run host (Monitor.groupQuestion "/dev/vg00")) =
      some (.ok (surveyOutput (Monitor.groupQuestion "/dev/vg00"))) := by
    rw [newcomers, if_neg hinventory, if_neg fun h => hcapacity h.2]
  obtain rfl := Except.ok.inj (Option.some.inj (hanswer.symm.trans hreply))
  exact surveyOutput_fits

/-- What is observed of the first node at last, and of the second. -/
def newNodes : List Node :=
  [⟨"10.0.0.12", none, "nPar", 4, 0, 8192, 0, 500, 125⟩,
    ⟨"10.0.0.13", none, "nPar", 16, 11, 65536, 24576, 500, 125⟩]

/-- The report of such a refresh. The first node was observed twice. -/
def newReport : RefreshReport :=
  let nodes := ⟨"10.0.0.12", none, "nPar", 8, 2, 16384, 8192, 500, 125⟩ :: newNodes.reverse
  ⟨.ofNodes nodes ⟨19782, 0, 0⟩, nodes, 3, 1⟩

end Sample

/-- A workload that asks for two processors goes to the first node. One that asks for four does not,
although that node has shown more at first: it goes to the second node. For one that asks for five,
as many as the second node has free, there is no room. -/
theorem update_then_choose_sample :
    let alone : Tasks (Outcome RefreshReport) :=
      ⟨.ofStore .empty, [Sample.controller.monitor.update.run]⟩
    let asking (cpus : Nat) : ResourceRequest := ⟨"shop", 4096, cpus, 20⟩
    (alone.goOn Sample.newcomers 0).2.programs = [.done (.ok Sample.newReport)] ∧
      ∃ (clients : List Client) (sightings : List Sighting) (nodes : List Node),
        Sample.controller.monitor.Finds
          (remotely (Tasks.own 0 (alone.goOn Sample.newcomers 0).1)) clients sightings ∧
        (alone.goOn Sample.newcomers 0).2.shared.store.nodesAnswer = .ok nodes ∧
        nodes.map (·.address) = ["10.0.0.12", "10.0.0.13"] ∧
        (∀ request : ResourceRequest,
          (request.choose nodes).map (·.address) =
            ((clients.filter (·.kind = .node)).map (·.address)).find? fun address =>
              (Sighting.last? sightings address).any (·.hasRoom request)) ∧
        ((asking 2).choose nodes).map (·.address) = some "10.0.0.12" ∧
        ((asking 4).choose nodes).map (·.address) = some "10.0.0.13" ∧
        (asking 5).choose nodes = none := by
  intro alone asking
  have hrun := Sample.controller.monitor.goOn_update Sample.newcomers .empty rfl
    Sample.newInventory_read
  have hdone : (alone.goOn Sample.newcomers 0).2.programs = [.done (.ok Sample.newReport)] := by
    rw [hrun]
    exact Program.eq_done_of_results (by decide +kernel)
  have hstored : (alone.goOn Sample.newcomers 0).2.shared.store.nodesAnswer =
      .ok Sample.newNodes := by
    rw [hrun]
    decide +kernel
  obtain ⟨clients, sightings, nodes, hfinds, hnodes, -, hchoose⟩ :=
    update_then_choose (Tasks.goOn_run Sample.newcomers 0 alone) rfl rfl rfl
      (fun x hx => Sample.newcomers_fitting hx) hdone
  -- what is chosen is chosen from the registry, which is known by now
  obtain rfl := Except.ok.inj (hnodes.symm.trans hstored)
  exact ⟨hdone, clients, sightings, Sample.newNodes, hfinds, hstored, by decide, hchoose,
    by decide, by decide, by decide⟩

end VparFleet
