import VparFleet.Proofs.Controller.SpawnCourse
import VparFleet.Proofs.Provisioning.ProvisionOutcome

/-!
# The effect of a spawn

What a spawn that runs alone does to the hosts and to the store. A request that is refused has no
effect. Otherwise all work is done on the node that was chosen, the node table stays as it is, and
the placement table changes in the row of the workload, which is written before the first start.

* `Refused`, `Spawned`: the two kinds of ends.
* `SpawnCourse.refused_of`, `SpawnCourse.spawned_of`: what the store says decides between them.
* `admitted_of_spawn`: so does it for every spawn that runs alone.
* `spawn_alone_effect`: the same, with what the store says spelled out.
-/

namespace VparFleet

open Store

variable {c : Controller} {request : SpawnRequest} {store store' : Store}
  {course : List Exchange} {outcome : Outcome Partition} {fault : Fault}

/-! ## Texts -/

namespace Command

variable {name name' group workload rawVolume : String} {gigabytes memory cpus : Nat}
  {node : NodeSettings}

theorem bootPartition_toList (name : String) :
    (bootPartition name).toList = "/opt/hpvm/bin/vparboot -p ".toList ++ name.toList := by
  show ("/opt/hpvm/bin/vparboot -p " ++ name).toList = _
  simp

theorem exists_createVolume_eq (group workload : String) (gigabytes : Nat) :
    ∃ rest, createVolume group workload gigabytes = "lvcreate -L " ++ rest := by
  unfold createVolume
  simp only [String.append_assoc]
  exact ⟨_, rfl⟩

theorem exists_createPartition_eq (node : NodeSettings) (name : String) (memory cpus : Nat)
    (rawVolume : String) :
    ∃ rest, createPartition node name memory cpus rawVolume =
      "/opt/hpvm/bin/vparcreate -p " ++ rest := by
  unfold createPartition
  simp only [String.append_assoc]
  exact ⟨_, rfl⟩

/-- A start is no volume. -/
theorem bootPartition_ne_createVolume :
    bootPartition name ≠ createVolume group workload gigabytes := by
  obtain ⟨rest, hrest⟩ := exists_createVolume_eq group workload gigabytes
  refine mt (congrArg String.toList) ?_
  rw [bootPartition_toList, hrest, String.toList_append]
  simp

/-- And it is no definition. -/
theorem bootPartition_ne_createPartition :
    bootPartition name ≠ createPartition node name' memory cpus rawVolume := by
  obtain ⟨rest, hrest⟩ := exists_createPartition_eq node name' memory cpus rawVolume
  refine mt (congrArg String.toList) ?_
  rw [bootPartition_toList, hrest, String.toList_append]
  simp

end Command

/-! ## The parts of a course -/

namespace Quiet

theorem append {first second : List Exchange} (hf : Quiet first) (hs : Quiet second) :
    Quiet (first ++ second) :=
  List.forall_mem_append.mpr ⟨hf, hs⟩

theorem filter_remote (h : Quiet course) : course.filter (·.action.isRemote) = [] :=
  List.filter_eq_nil_iff.mpr fun exchange hmem => by simp [h exchange hmem]

/-- Nothing of a quiet course is a command. -/
theorem filterMap_command (h : Quiet course) : course.filterMap (·.action.command?) = [] := by
  refine List.filterMap_eq_nil_iff.mpr fun exchange hmem => ?_
  have hquiet := h exchange hmem
  obtain ⟨action, reply⟩ := exchange
  cases action with
  | run host command => exact nomatch hquiet
  | _ => rfl

theorem not_remote (h : Quiet course) {exchange : Exchange}
    (hr : exchange.action.isRemote = true) : exchange ∉ course := by
  intro hmem
  rw [h exchange hmem] at hr
  exact nomatch hr

end Quiet

theorem recorded_quiet (placement : Placement) : Quiet (recorded placement) := by
  simp [Quiet, recorded, Action.isRemote]

section Define

variable {p : Provisioner} {host : String} {define : List Exchange} {fault? : Option Fault}

/-- What is done for a definition is commands to the node. -/
theorem exists_command_of_define (h : Passage (p.definePoints host request) define fault?)
    {exchange : Exchange} (hmem : exchange ∈ define) :
    ∃ command, exchange.action = .run host command ∧
      ∀ name, command ≠ Command.bootPartition name := by
  obtain ⟨point, hpoint, haction⟩ := h.exists_point hmem
  rw [Provisioner.definePoints, List.mem_pair] at hpoint
  rcases hpoint with rfl | rfl
  · exact ⟨_, haction, fun name => Command.bootPartition_ne_createVolume.symm⟩
  · exact ⟨_, haction, fun name => Command.bootPartition_ne_createPartition.symm⟩

/-- A definition is remote work only. -/
theorem define_remote (h : Passage (p.definePoints host request) define fault?) :
    ∀ exchange ∈ define, exchange.action.isRemote = true := by
  intro exchange hmem
  obtain ⟨command, haction, -⟩ := exists_command_of_define h hmem
  rw [haction]
  rfl

end Define

/-! ## Ends of a spawn -/

/-- A spawn ended with a fault of some kind, and nothing was done. -/
structure Refused (own : List Exchange) (outcome : Outcome Partition) (before after : Store)
    (kind : Fault.Kind) (fault : Fault) : Prop where
  outcome : outcome = .error fault
  kind : fault.kind = kind
  /-- Nothing was done on a host. -/
  quiet : Quiet own
  store : after = before

/-- A spawn went to a node. -/
structure Spawned (c : Controller) (request : SpawnRequest) (ip : String) (node : Node)
    (own : List Exchange) (outcome : Outcome Partition) (before after : Store) : Prop where
  /-- The commands are those of a provisioning on the node. -/
  commands : ∃ mac, own.filterMap (·.action.command?) <+:
    c.provisioner.commands node.address request ip mac
  /-- A console is one of the node. -/
  console : ∀ host reply, ⟨.openConsole host, reply⟩ ∈ own → host = node.address
  nodes : after.nodes = before.nodes
  /-- Without a definition nothing is recorded; with one, the placement of the workload on the node
  is, and nothing else, however the start goes. -/
  placements :
    (∃ fault, Checkpoint.FirstFailure (c.provisioner.definePoints node.address request)
        (own.filter (·.action.isRemote)) fault ∧
      outcome = .error fault ∧ after.placements = before.placements) ∨
    ∃ define boot mac, ∃ now : Instant,
      own.filter (·.action.isRemote) = define ++ boot ∧
      List.Forall₂ Checkpoint.Passed (c.provisioner.definePoints node.address request) define ∧
      c.provisioner.BootCourse node.address request ip mac
        (c.provisioner.bringUpPoints node.address request ip mac) boot outcome ∧
      ∀ row, row ∈ after.placements ↔
        row = ⟨request.resources.workload, request.name, node.address, now.storedText⟩ ∨
          row ∈ before.placements ∧ row.workload ≠ request.resources.workload
  /-- The placement is recorded before the first start. -/
  start : ∀ first host name reply second,
    own = first ++ ⟨.run host (Command.bootPartition name), reply⟩ :: second →
      ∃ placement, placement.workload = request.resources.workload ∧
        placement.partition = request.name ∧ placement.node = node.address ∧
        ⟨.recordPlacement placement, .ok ()⟩ ∈ first

namespace SpawnCourse

variable {ip : String} {node : Node} {before after : List Exchange}

/-- What a refused spawn does around its course is quiet, so all of it is. -/
theorem refused_of (h : SpawnCourse c request store course outcome store')
    (hadmission : c.admission request store = .error fault) (hb : Quiet before) (ha : Quiet after) :
    Refused (before ++ course ++ after) outcome store store' fault.kind fault := by
  cases h with
  | refused hq hadmission' =>
    obtain rfl := Except.error.inj (hadmission'.symm.trans hadmission)
    exact ⟨rfl, rfl, (hb.append hq).append ha, rfl⟩
  | undefined hq hadmission' => exact nomatch hadmission'.symm.trans hadmission
  | placed hq hadmission' => exact nomatch hadmission'.symm.trans hadmission

/-- A spawn whose partition was not defined. -/
theorem spawned_of_undefined {define : List Exchange} (hb : Quiet before) (ha : Quiet after)
    (hdefine : Passage (c.provisioner.definePoints node.address request) define (some fault)) :
    Spawned c request ip node (before ++ define ++ after) (.error fault) store store where
  commands := by
    refine ⟨"", ?_⟩
    -- what is around the definition is no command, so the commands are those of the definition
    rw [List.filterMap_append, List.filterMap_append, hb.filterMap_command, ha.filterMap_command,
      List.nil_append, List.append_nil, ← Provisioner.commandPoints_commands,
      Provisioner.commandPoints, List.filterMap_append]
    exact (hdefine.filterMap_isPrefix Action.command?).trans (List.prefix_append _ _)
  console host reply hmem := by
    rcases List.mem_append.mp hmem with hmem | hmem
    · rcases List.mem_append.mp hmem with hmem | hmem
      · exact absurd hmem (hb.not_remote rfl)
      · obtain ⟨command, haction, -⟩ := exists_command_of_define hdefine hmem
        exact nomatch haction
    · exact absurd hmem (ha.not_remote rfl)
  nodes := rfl
  placements := by
    refine Or.inl ⟨fault, ?_, rfl, rfl⟩
    rw [List.filter_append, List.filter_append, hb.filter_remote, ha.filter_remote,
      List.nil_append, List.append_nil, List.filter_eq_self.mpr (define_remote hdefine)]
    exact hdefine.firstFailure rfl
  start first host name reply second hown := by
    have hmem : ⟨.run host (Command.bootPartition name), reply⟩ ∈ before ++ define ++ after :=
      hown ▸ List.mem_append_right _ List.mem_cons_self
    rcases List.mem_append.mp hmem with hmem | hmem
    · rcases List.mem_append.mp hmem with hmem | hmem
      · exact absurd hmem (hb.not_remote rfl)
      · -- no start is tried before the definition is there
        obtain ⟨command, haction, hne⟩ := exists_command_of_define hdefine hmem
        exact absurd (Action.run.inj haction).2.symm (hne name)
    · exact absurd hmem (ha.not_remote rfl)

/-- What stands before another exchange that is not among the first ones. -/
theorem mem_first {head tail first second : List Exchange} {marker exchange : Exchange}
    (h : head ++ marker :: tail = first ++ exchange :: second) (hhead : exchange ∉ head)
    (hne : exchange ≠ marker) : marker ∈ first := by
  -- either the marker or the other exchange comes first
  rcases List.append_eq_append_iff.mp h with ⟨mid, rfl, hmid⟩ | ⟨mid, rfl, hmid⟩
  · cases mid with
    | nil => exact absurd (List.cons.inj hmid).1.symm hne
    | cons x mid =>
      rw [(List.cons.inj hmid).1]
      exact List.mem_append_right _ List.mem_cons_self
  · cases mid with
    | nil => exact absurd (List.cons.inj hmid).1 hne
    | cons x mid =>
      rw [(List.cons.inj hmid).1] at hhead
      exact absurd (List.mem_append_right _ List.mem_cons_self) hhead

/-- A spawn whose partition was defined. -/
theorem spawned_of_placed {define boot : List Exchange} {mac : String} {now : Instant}
    (hb : Quiet before) (ha : Quiet after)
    (hdefine : Passage (c.provisioner.definePoints node.address request) define none)
    (hboot : c.provisioner.BootCourse node.address request ip mac
      (c.provisioner.bringUpPoints node.address request ip mac) boot outcome) :
    let placement : Placement :=
      ⟨request.resources.workload, request.name, node.address, now⟩
    Spawned c request ip node
      (before ++ (define ++ (recorded placement ++ boot)) ++ after) outcome store
      { store with placements := store.placements.record (.ofPlacement placement) } := by
  intro placement
  have hquiet := recorded_quiet placement
  have hcommands := c.provisioner.bringUpPoints_commands node.address request ip mac
  exact {
    commands := by
      refine ⟨mac, ?_⟩
      simp only [List.filterMap_append, hb.filterMap_command, ha.filterMap_command,
        hquiet.filterMap_command, List.nil_append, List.append_nil,
        ← Provisioner.commandPoints_commands, Provisioner.commandPoints]
      rw [hdefine.filterMap_eq Action.command?]
      exact (List.prefix_append_right_inj _).mpr (hboot.commands_prefix List.prefix_rfl)
    console := by
      intro host reply hmem
      simp only [List.mem_append] at hmem
      rcases hmem with (hmem | hmem | hmem | hmem) | hmem
      · exact absurd hmem (hb.not_remote rfl)
      · obtain ⟨command, haction, -⟩ := exists_command_of_define hdefine hmem
        exact nomatch haction
      · exact absurd hmem (hquiet.not_remote rfl)
      · exact hboot.console_host hcommands hmem
      · exact absurd hmem (ha.not_remote rfl)
    nodes := rfl
    placements := by
      -- the reads, the record and the locks drop out of what was done on hosts
      refine Or.inr ⟨define, boot, mac, now, ?_, hdefine.eq_none_iff.mp rfl, hboot, ?_⟩
      · simp only [List.filter_append, hb.filter_remote, ha.filter_remote, hquiet.filter_remote,
          List.filter_eq_self.mpr (define_remote hdefine),
          List.filter_eq_self.mpr (hboot.remote hcommands), List.nil_append, List.append_nil]
      · exact fun row => PlacementTable.mem_record
    start := by
      intro first host name reply second hown
      -- a start is not among what was done before the record, so the record comes before it
      refine ⟨placement, rfl, rfl, rfl, ?_⟩
      have hsplit : before ++ (define ++ (recorded placement ++ boot)) ++ after =
          (before ++ define ++ [⟨.clock, now⟩]) ++
            ⟨.recordPlacement placement, .ok ()⟩ :: (boot ++ after) := by
        simp [recorded, placement]
      rw [hsplit] at hown
      refine mem_first hown ?_ nofun
      simp only [List.mem_append, List.mem_singleton]
      rintro ((hmem | hmem) | heq)
      · exact hb.not_remote rfl hmem
      · obtain ⟨command, haction, hne⟩ := exists_command_of_define hdefine hmem
        exact hne name (Action.run.inj haction).2.symm
      · exact nomatch heq }

/-- Around the course of a spawn that was admitted only the name is taken and given back. -/
theorem spawned_of (h : SpawnCourse c request store course outcome store')
    (hadmission : c.admission request store = .ok (ip, node)) (hb : Quiet before)
    (ha : Quiet after) :
    Spawned c request ip node (before ++ course ++ after) outcome store store' := by
  -- a spawn that was admitted has either failed to define its partition or gone on with it
  cases h with
  | refused hq hadmission' => exact nomatch hadmission'.symm.trans hadmission
  | undefined hq hadmission' hdefine =>
    obtain ⟨rfl, rfl⟩ := Prod.mk.inj (Except.ok.inj (hadmission'.symm.trans hadmission))
    rw [← List.append_assoc]
    exact spawned_of_undefined (hb.append hq) ha hdefine
  | placed hq hadmission' hdefine hboot =>
    obtain ⟨rfl, rfl⟩ := Prod.mk.inj (Except.ok.inj (hadmission'.symm.trans hadmission))
    rw [← List.append_assoc]
    exact spawned_of_placed (hb.append hq) ha hdefine hboot

end SpawnCourse

/-! ## Admission -/

namespace Controller

variable {ip : String}

/-- A request without a management address is not admitted. -/
theorem admission_of_noManagementIp (hip : request.managementIp? c.networkLabel = none) :
    c.admission request store =
      .error (SpawnRequest.Flaw.noManagementIp c.networkLabel request.name).fault := by
  simp only [admission, needManagementIp, hip]
  rfl

/-- Neither is one for a name that has a placement. -/
theorem admission_of_placed {placed : Placement}
    (hip : request.managementIp? c.networkLabel = some ip)
    (hplacement : store.placementAnswer request.name = .ok (some placed)) :
    c.admission request store =
      .error (SpawnRequest.Flaw.alreadyPlaced request.name placed.node placed.workload).fault := by
  simp only [admission, needManagementIp, hip, hplacement, freeOutcome]
  rfl

/-- If nothing can be read about the name, the fault is that of the store. -/
theorem admission_of_placementUnread (hip : request.managementIp? c.networkLabel = some ip)
    (hplacement : store.placementAnswer request.name = .error fault) :
    c.admission request store = .error fault := by
  simp only [admission, needManagementIp, hip, hplacement, freeOutcome]
  rfl

/-- For a free name the node decides. -/
theorem admission_of_free (hip : request.managementIp? c.networkLabel = some ip)
    (hplacement : store.placementAnswer request.name = .ok none) :
    c.admission request store = (placeOutcome request store.nodesAnswer).map (ip, ·) := by
  simp only [admission, needManagementIp, hip, hplacement, freeOutcome]
  rfl

end Controller

/-! ## Room -/

/-- A node has more free than a request asks for, of memory, of processors and of disk. -/
structure Node.HasRoom (node : Node) (request : SpawnRequest) : Prop where
  memory : request.resources.memory < node.memory - node.memoryUsed
  cpus : request.resources.cpus < node.vcpus - node.vcpusUsed
  disk : request.resources.disk < node.disk - node.diskUsed

theorem Node.hasRoom_iff {node : Node} :
    node.HasRoom request ↔ request.resources.fits node = true := by
  simp only [ResourceRequest.fits, Bool.and_eq_true, decide_eq_true_eq, and_assoc]
  exact ⟨fun h => ⟨h.memory, h.cpus, h.disk⟩, fun ⟨hm, hc, hd⟩ => ⟨hm, hc, hd⟩⟩

theorem Node.not_hasRoom_iff {node : Node} :
    ¬node.HasRoom request ↔ request.resources.fits node = false := by
  rw [Node.hasRoom_iff, Bool.not_eq_true]

/-! ## Alone -/

section Alone

open Operation Program

variable {shared : Shared}

/-- A spawn that runs alone takes the lock, goes one of the ways, and gives the lock back, unless
its request has a flaw. -/
theorem spawn_alone (hfree : shared.names.claims = []) :
    (c.spawn request).run.Alone 0 (fun past' shared' outcome =>
      (∃ fault, request.validate = .error fault ∧ past' = [] ∧ outcome = .error fault ∧
        shared'.store = shared.store) ∨
      request.validate = .ok () ∧ ∃ course,
        past' = [⟨.lockName request.name, ()⟩] ++ course ++ [⟨.unlockName request.name, ()⟩] ∧
        SpawnCourse c request shared.store course outcome shared'.store) [] shared := by
  rw [Controller.spawn, run_bind, run_ofOutcome, done_bind]
  cases hv : request.validate with
  | error fault => exact Or.inl ⟨fault, rfl, rfl, rfl, rfl⟩
  | ok _ =>
  obtain ⟨names, lock, hlock, -⟩ := shared.answer_lockName_free 0 request.name hfree
  refine (alone_inside hlock).mpr ?_
  show ((c.spawnHeld request).run >>= fun outcome =>
    Program.perform (.unlockName request.name) >>= fun _ => done outcome).Alone _ _ _ _
  rw [alone_bind]
  -- the name is free, so the spawn goes on at once
  refine spawnHeld_alone.goal_mono ?_
  rintro past' shared' outcome ⟨course, rfl, hcourse⟩
  have hunlock : shared'.answer 0 (.unlockName request.name) =
      .reply () { shared' with names := shared'.names.finish 0 } := rfl
  exact (alone_inside hunlock).mpr (Or.inr ⟨rfl, course, rfl, hcourse⟩)

/-- Every flaw makes a request invalid. -/
theorem kind_of_validate (hv : request.validate = .error fault) : fault.kind = .invalidRequest := by
  unfold SpawnRequest.validate at hv
  split at hv
  · exact nomatch hv
  · rw [← Except.error.inj hv]
    rfl

/-- What the store says about a request without a flaw decides how its spawn ends, if it runs
alone. -/
theorem admitted_of_spawn {happenings : List Happening} {tasks : Tasks (Outcome Partition)}
    (run : Tasks.Run ⟨shared, [(c.spawn request).run]⟩ happenings tasks)
    (hfree : shared.names.claims = []) (hdone : tasks.programs = [.done outcome])
    (hv : request.validate = .ok ()) :
    (∀ fault, c.admission request shared.store = .error fault →
      Refused (Tasks.own 0 happenings) outcome shared.store tasks.shared.store fault.kind fault) ∧
    ∀ ip node, c.admission request shared.store = .ok (ip, node) →
      Spawned c request ip node (Tasks.own 0 happenings) outcome shared.store
        tasks.shared.store := by
  rcases (run.alone (spawn_alone hfree)).goal_of_done hdone with
    ⟨fault, hv', -⟩ | ⟨-, course, hown, hcourse⟩
  · exact nomatch hv.symm.trans hv'
  -- taking the name and giving it back are no remote work
  have hlock : Quiet [⟨.lockName request.name, ()⟩] := by simp [Quiet, Action.isRemote]
  have hunlock : Quiet [⟨.unlockName request.name, ()⟩] := by simp [Quiet, Action.isRemote]
  rw [hown]
  exact ⟨fun fault hadmission => hcourse.refused_of hadmission hlock hunlock,
    fun ip node hadmission => hcourse.spawned_of hadmission hlock hunlock⟩

/-- Every spawn that runs alone comes to an end. It is refused for the first of the reasons that
apply: a flaw of the request, no management address, a placement under the name, no node with room.
Otherwise it goes to the first node with room. -/
theorem spawn_alone_effect {happenings : List Happening} {tasks : Tasks (Outcome Partition)}
    (run : Tasks.Run ⟨shared, [(c.spawn request).run]⟩ happenings tasks)
    (hfree : shared.names.claims = []) :
    (∃ rest last outcome, Tasks.Run tasks rest last ∧ last.programs = [.done outcome]) ∧
    ∀ outcome, tasks.programs = [.done outcome] →
      let own := Tasks.own 0 happenings
      let refused := Refused own outcome shared.store tasks.shared.store
      (∀ fault, request.validate = .error fault → refused .invalidRequest fault) ∧
      (request.validate = .ok () →
        (request.managementIp? c.networkLabel = none → refused .invalidRequest
          (SpawnRequest.Flaw.noManagementIp c.networkLabel request.name).fault) ∧
        ∀ ip, request.managementIp? c.networkLabel = some ip →
          (∀ placed, shared.store.placementAnswer request.name = .ok (some placed) →
            refused .invalidRequest
              (SpawnRequest.Flaw.alreadyPlaced request.name placed.node placed.workload).fault) ∧
          (∀ fault, shared.store.placementAnswer request.name = .error fault →
            refused fault.kind fault) ∧
          (shared.store.placementAnswer request.name = .ok none →
            (∀ fault, shared.store.nodesAnswer = .error fault → refused fault.kind fault) ∧
            ∀ nodes, shared.store.nodesAnswer = .ok nodes →
              ((∀ node ∈ nodes, ¬node.HasRoom request) →
                refused .notFound (Controller.noRoom request)) ∧
              ∀ before node after, nodes = before ++ node :: after → node.HasRoom request →
                (∀ other ∈ before, ¬other.HasRoom request) →
                Spawned c request ip node own outcome shared.store tasks.shared.store)) := by
  have hlonely := run.alone (spawn_alone hfree)
  refine ⟨hlonely.ends, fun outcome hdone => ⟨fun fault hv => ?_, fun hv => ?_⟩⟩
  · rcases hlonely.goal_of_done hdone with ⟨fault', hv', hown, houtcome, hstore⟩ | ⟨hv', -⟩
    · obtain rfl := Except.error.inj (hv.symm.trans hv')
      rw [hown]
      exact ⟨houtcome, kind_of_validate hv, nofun, hstore⟩
    · exact nomatch hv.symm.trans hv'
  obtain ⟨hrefused, hspawned⟩ := admitted_of_spawn run hfree hdone hv
  refine ⟨fun hip => hrefused _ (Controller.admission_of_noManagementIp hip), fun ip hip =>
    ⟨fun placed hplacement => ?_, fun fault hplacement => ?_, fun hplacement => ?_⟩⟩
  · exact hrefused _ (Controller.admission_of_placed hip hplacement)
  · exact hrefused fault (Controller.admission_of_placementUnread hip hplacement)
  -- the name is free, so the nodes decide
  have hadmission := Controller.admission_of_free hip hplacement
  refine ⟨fun fault hnodes => ?_, fun nodes hnodes => ⟨fun hall => ?_,
    fun before node after hsplit hroom hbefore => ?_⟩⟩
  · rw [hnodes] at hadmission
    exact hrefused fault hadmission
  · have hchoose : request.resources.choose nodes = none :=
      List.find?_eq_none.mpr fun node hmem => by simp [Node.not_hasRoom_iff.mp (hall node hmem)]
    simp only [hnodes, placeOutcome, hchoose] at hadmission
    exact hrefused _ hadmission
  · have hchoose : request.resources.choose nodes = some node :=
      ResourceRequest.choose_eq_some_iff.mpr ⟨Node.hasRoom_iff.mp hroom, before, after, hsplit,
        fun other hmem => Node.not_hasRoom_iff.mp (hbefore other hmem)⟩
    simp only [hnodes, placeOutcome, hchoose] at hadmission
    exact hspawned ip node hadmission

/-- The only node of the small fleet. -/
def Sample.node : Node :=
  ⟨"10.0.0.11", none, "rx2800", 8, 0, 65536, 0, 500, 0⟩

/-- The spawn of `web` alone goes to that node, and leaves a placement though the start fails. -/
theorem spawn_alone_effect_sample :
    let alone : Tasks (Outcome Partition) :=
      ⟨.ofStore Sample.store, [(Sample.controller.spawn (Sample.request "web" "shop")).run]⟩
    ∃ outcome, (alone.goOn Sample.hosts 0).2.programs = [.done outcome] ∧
      (alone.goOn Sample.hosts 0).2.shared.store.placements.map (·.partition) = ["web"] ∧
      Spawned Sample.controller (Sample.request "web" "shop") "10.0.1.5" Sample.node
        (Tasks.own 0 (alone.goOn Sample.hosts 0).1) outcome Sample.store
        (alone.goOn Sample.hosts 0).2.shared.store := by
  intro alone
  have hresults : (alone.goOn Sample.hosts 0).2.programs.map
      (fun program => program.result?.isSome) = [true] := by decide +kernel
  obtain ⟨program, hprogram, hresult⟩ := List.map_eq_singleton_iff.mp hresults
  obtain ⟨outcome, houtcome⟩ := Option.isSome_iff_exists.mp hresult
  obtain rfl := Program.result?_eq_some_iff.mp houtcome
  obtain ⟨-, hends⟩ := spawn_alone_effect (Tasks.goOn_run Sample.hosts 0 alone) rfl
  -- the request passes every gate, one after the other
  obtain ⟨-, hvalid⟩ := hends outcome hprogram
  obtain ⟨-, hip⟩ := hvalid (by decide +kernel)
  obtain ⟨-, -, hplaced⟩ := hip "10.0.1.5" (by decide +kernel)
  obtain ⟨-, hnodes⟩ := hplaced (by decide +kernel)
  obtain ⟨-, hspawned⟩ := hnodes [Sample.node] (by decide +kernel)
  exact ⟨outcome, hprogram, by decide +kernel,
    hspawned [] Sample.node [] rfl ⟨by decide, by decide, by decide⟩ nofun⟩

end Alone

end VparFleet
