import VparFleet.Proofs.Controller.RemovalOutcome
import VparFleet.Proofs.Controller.SentText

/-!
# What a provisioning leaves behind

A provisioning writes a few values into many places: into commands for the node, into files on the
provisioning server, into lines for the firmware, and into the record of the partition. Here every
value is named after the place where it stands, so that two of them are equal only if the texts that
were sent say so.

* `Artefacts`, `Artefacts.WrittenIn`: the values, and the texts that they stand in.
* `Artefacts.Agree`: all places name one hardware address, one management address, one boot file,
  one profile and one volume.
* `Provisioner.Frees`: the volume that a removal removes.
* `provision_artefacts_agree`: every successful provisioning, in any company.
-/

namespace VparFleet

/-- The values that a provisioning writes, each named after the place where it stands. -/
structure Artefacts where
  /-- The volume that is created. -/
  volume : String
  /-- The group that the volume is created in. -/
  group : String
  /-- The disk of the definition. -/
  disk : String
  /-- The capability `ha` of the boot table entry. -/
  entryMac : String
  /-- The capability `bf`. -/
  entryBootFile : String
  /-- The capability `gw`. -/
  entryGateway : String
  /-- The capability `ip`. -/
  entryIp : String
  /-- The capability `sm`. -/
  entryNetmask : String
  /-- The directory that is created among those of the clients. -/
  createdDirectory : String
  /-- The directory of the configuration file that is created. -/
  touchedDirectory : String
  /-- The directory of the configuration file that is appended to. -/
  appendedDirectory : String
  /-- The profile that the network of the firmware is written to. -/
  networkProfile : String
  /-- The address of the server in that. -/
  firmwareServer : String
  /-- The address of the client in that. -/
  firmwareIp : String
  firmwareGateway : String
  firmwareNetmask : String
  /-- The profile that the boot file is written to. -/
  fileProfile : String
  firmwareBootFile : String
  /-- The profile that is booted from. -/
  bootProfile : String

namespace Artefacts

variable (a : Artefacts) (p : Provisioner) (host : String) (request : SpawnRequest)

/-- The boot table entry. -/
def entryLines : List String :=
  [s!"{request.name}:\\", "\ttc=ignite-defaults:\\", s!"\tha={a.entryMac}:\\",
    s!"\tbf={a.entryBootFile}:\\", s!"\tgw={a.entryGateway}:\\", s!"\tip={a.entryIp}:\\",
    s!"\tsm={a.entryNetmask}"]

/-- The commands, each with its host. -/
def commands : List (String × String) :=
  let ⟨_, memory, cpus, disk⟩ := request.resources
  let clients := p.server.clientsDir
  [(host, s!"lvcreate -L {min (disk * 1024) (2 ^ 64 - 1)} -n {a.volume} {a.group}"),
    (host, s!"/opt/hpvm/bin/vparcreate -p {request.name} -a mem::{memory} -a cpu::{cpus}"
      ++ s!" -a disk:avio_stor::lv:{a.disk}"
      ++ s!" -a network:avio_lan::vswitch:{p.node.managementNetwork}"
      ++ s!" -a network:avio_lan::vswitch:{p.node.productionNetwork}"),
    (host, s!"/opt/hpvm/bin/vparboot -p {request.name}"),
    (host, s!"/opt/hpvm/bin/vparstatus -p {request.name} -v"),
    (p.server.address, Command.appendLines p.server.bootTable (a.entryLines request)),
    (p.server.address, s!"mkdir {clients}/{a.createdDirectory}"
      ++ s!" && touch {clients}/{a.touchedDirectory}/config"),
    (p.server.address, Command.appendLines s!"{clients}/{a.appendedDirectory}/config"
      [s!"cfg \"{request.image}\"=TRUE", "_hp_cfg_detail_level=\"v\"",
        s!"final system_name=\"{request.name}\"", s!"_hp_keyboard=\"{p.server.keyboard}\"",
        s!"root_password=\"{p.server.passwordHash}\"",
        s!"_hp_root_disk=\"{p.server.rootDisk}\"", "_my_second_disk_path=\"\""])]

/-- The lines for the firmware. -/
def firmwareLines : List String :=
  let server := a.firmwareServer
  let gateway := a.firmwareGateway
  [s!"dbprofile -dn {a.networkProfile} -sip {server} -cip {a.firmwareIp} -gip {gateway}"
      ++ s!" -m {a.firmwareNetmask}",
    s!"dbprofile -dn {a.fileProfile} -b \"{a.firmwareBootFile}\"",
    s!"lanboot select -index 01 -dn {a.bootProfile}"]

/-- The texts that were sent hold the values, and every command did what it says. -/
structure WrittenIn (course : List Exchange) : Prop where
  /-- The commands are these and no others. -/
  commands : course.filterMap (·.action.command?) = a.commands p host request
  /-- None was answered with a fault. -/
  answered : ∀ other command fault, ⟨.run other command, .error fault⟩ ∉ course
  /-- The last that was sent to the console are the lines for the firmware. -/
  firmware : a.firmwareLines.map (fun line => Text.Utf8.encode (line ++ "\r")) <:+
    course.filterMap (·.action.sent?)

/-- All places agree with each other, with the request, and with what is recorded. -/
structure Agree (ip mac : String) (partition : Partition) : Prop where
  entryMac : a.entryMac = mac
  createdDirectory : a.createdDirectory = mac
  touchedDirectory : a.touchedDirectory = mac
  appendedDirectory : a.appendedDirectory = mac
  recordedMac : partition.network.mac = some mac
  ip : a.entryIp = ip ∧ a.firmwareIp = ip ∧ partition.network.ip = ip
  gateway : a.entryGateway = request.gateway ∧ a.firmwareGateway = request.gateway ∧
    partition.network.gateway = request.gateway
  netmask : a.entryNetmask = request.netmask ∧ a.firmwareNetmask = request.netmask ∧
    partition.network.netmask = request.netmask
  /-- The firmware loads its boot file from the server that the partition is registered with. -/
  server : a.firmwareServer = p.server.address
  bootFile : a.firmwareBootFile = a.entryBootFile
  profile : a.fileProfile = a.networkProfile ∧ a.bootProfile = a.networkProfile
  /-- The volume is that of the workload. -/
  volume : a.volume = "lv-" ++ request.resources.workload
  group : a.group = p.node.volumeGroup
  /-- The disk is the raw device of the volume. -/
  disk : a.disk = a.group ++ "/r" ++ a.volume
  recordedDisk : partition.volumePath = some a.disk

end Artefacts

namespace Provisioner

variable {p : Provisioner} {host : String} {request : SpawnRequest} {ip mac : String}

/-! ## The values -/

/-- The values that a provisioning with a hardware address writes. -/
def artefacts (p : Provisioner) (request : SpawnRequest) (ip mac : String) : Artefacts where
  volume := Command.volumeName request.resources.workload
  group := p.node.volumeGroup
  disk := p.rawPath request
  entryMac := mac
  entryBootFile := p.server.bootFile
  entryGateway := request.gateway
  entryIp := ip
  entryNetmask := request.netmask
  createdDirectory := mac
  touchedDirectory := mac
  appendedDirectory := mac
  networkProfile := p.server.profile
  firmwareServer := p.server.address
  firmwareIp := ip
  firmwareGateway := request.gateway
  firmwareNetmask := request.netmask
  fileProfile := p.server.profile
  firmwareBootFile := p.server.bootFile
  bootProfile := p.server.profile

/-- With the values in their places, the commands are those of the provisioning. -/
theorem artefacts_commands :
    (p.artefacts request ip mac).commands p host request = p.commands host request ip mac := by
  obtain ⟨name, ⟨workload, memory, cpus, disk⟩, image, fixedIps, gateway, netmask⟩ := request
  simp only [Provisioner.commands]
  -- only the size of the volume is written otherwise in the command
  rw [← Command.createVolume_eq]
  rfl

/-- The lines for the firmware are the last turns of a console session. -/
theorem networkPoints_firmware (console : ConsoleId) (readOnly : Bool) :
    ((p.artefacts request ip mac).firmwareLines.map fun line => Text.Utf8.encode (line ++ "\r")) <:+
      (p.networkPoints host request ip console readOnly).filterMap (·.action.sent?) := by
  have hsent : (p.networkPoints host request ip console readOnly).filterMap (·.action.sent?)
      = (p.bootPlan request ip).lines readOnly := by
    rw [← FirmwareConsole.turns_sent ⟨console, p.prompt, p.step, p.boot⟩, networkPoints, bootPoints,
      List.filterMap_map]
    rfl
  -- the three lines stand at the end, whether write access was asked for or not
  rw [hsent]
  exact List.suffix_append _ _

end Provisioner

/-- No command that was answered with a fault passes a checkpoint. -/
def Checkpoint.Heeds (point : Checkpoint) : Prop :=
  ∀ host command fault, ¬point.Passed ⟨.run host command, .error fault⟩

namespace Provisioner

variable {p : Provisioner} {host : String} {request : SpawnRequest} {ip mac : String}

/-- A command that is answered with a fault is not passed, whatever is wanted of its output. -/
theorem command_heeds (host command : String) (wants : String → Option Fault) :
    (Checkpoint.command host command wants).Heeds := by
  rintro other sent fault ⟨reply, hexchange, hflaw, -⟩
  obtain ⟨-, -, rfl⟩ := run_exchange_inj.mp hexchange
  exact nomatch hflaw

theorem macPoint_heeds : (p.macPoint host request mac).Heeds := by
  rintro other sent fault ⟨reply, hexchange, hflaw, -⟩
  obtain ⟨-, -, rfl⟩ := run_exchange_inj.mp hexchange
  exact nomatch hflaw

/-- Every command of a provisioning is heeded. -/
theorem commandPoints_heed : ∀ point ∈ p.commandPoints host request ip mac, point.Heeds := by
  simp only [commandPoints, definePoints, bringUpPoints, registerPoints, List.map_cons,
    List.map_nil, List.forall_mem_append, List.forall_mem_cons]
  -- a step that a command is a part of does not change what passes it
  have hnil : ∀ point ∈ ([] : List Checkpoint), point.Heeds := List.forall_mem_nil _
  exact ⟨⟨command_heeds _ _ _, command_heeds _ _ _, hnil⟩, ⟨command_heeds _ _ _, hnil⟩,
    ⟨macPoint_heeds, hnil⟩, command_heeds _ _ _, command_heeds _ _ _, command_heeds _ _ _, hnil⟩

/-- Network points are no commands. -/
theorem networkPoints_heed {console : ConsoleId} {readOnly : Bool} :
    ∀ point ∈ p.networkPoints host request ip console readOnly, point.Heeds := by
  rintro point hpoint other command fault ⟨reply, hexchange, -⟩
  have haction : point.action.command? = some (other, command) := by
    rw [← (Exchange.mk.inj hexchange).1]
    rfl
  -- no turn of the session is a command
  have hnone := List.filterMap_eq_nil_iff.mp
    (p.networkPoints_commands host request ip console readOnly) point hpoint
  exact nomatch hnone.symm.trans haction

/-! ## The texts of a successful provisioning -/

namespace BootCourse

variable {course : List Exchange} {partition : Partition}

/-- A provisioning that goes well has written its values, each into its place. -/
theorem writes
    (h : p.BootCourse host request ip mac (p.commandPoints host request ip mac) course
      (.ok partition)) :
    (p.artefacts request ip mac).WrittenIn p host request course := by
  obtain ⟨console, readOnly, talk, htalk, hclosed, -⟩ := h
  -- the end of the session neither is a command nor sends anything
  have hcommands : course.filterMap (·.action.command?) = talk.filterMap (·.action.command?) := by
    cases hclosed with
    | unopened => rfl
    | opened => simp [Action.command?]
  have hsent : course.filterMap (·.action.sent?) = talk.filterMap (·.action.sent?) := by
    cases hclosed with
    | unopened => rfl
    | opened => simp [Action.sent?]
  refine ⟨?_, fun other command fault hmem => ?_, ?_⟩
  · -- all checkpoints were passed, so all commands were sent
    rw [hcommands, htalk.filterMap_eq, List.filterMap_append, networkPoints_commands,
      List.append_nil, commandPoints_commands, artefacts_commands]
  · have htalked : ⟨.run other command, .error fault⟩ ∈ talk := by
      cases hclosed with
      | unopened => exact hmem
      | opened =>
        rcases List.mem_append.mp hmem with hmem | hmem
        · exact hmem
        · cases (Exchange.mk.inj (List.mem_singleton.mp hmem)).1
    -- a command with a fault would have passed a checkpoint
    obtain ⟨point, hpoint, hpasses⟩ := htalk.exists_passed htalked
    rcases List.mem_append.mp hpoint with hpoint | hpoint
    · exact commandPoints_heed point hpoint other command fault hpasses
    · exact networkPoints_heed point hpoint other command fault hpasses
  · rw [hsent, htalk.filterMap_eq, List.filterMap_append]
    exact (networkPoints_firmware console readOnly).trans (List.suffix_append _ _)

/-- The hardware address is the one in the report on the partition. -/
theorem reported
    (h : p.BootCourse host request ip mac (p.commandPoints host request ip mac) course
      (.ok partition)) :
    ∃ report, ⟨.run host (Command.partitionDetail request.name), .ok report⟩ ∈ course ∧
      p.mac? report = some mac := by
  obtain ⟨console, readOnly, talk, htalk, hclosed, -⟩ := h
  -- the report is one of the checkpoints, and all were passed
  have hpoint : (p.macPoint host request mac).within "read management mac" ∈
      p.commandPoints host request ip mac := by
    simp [commandPoints, bringUpPoints]
  obtain ⟨exchange, htalked, reply, rfl, -, report, rfl, hmac⟩ :=
    htalk.exists_passing (List.mem_append_left _ hpoint)
  refine ⟨report, ?_, hmac⟩
  cases hclosed with
  | unopened => exact htalked
  | opened => exact List.mem_append_left _ htalked

end BootCourse

/-- The values that a provisioning writes agree, place by place. -/
theorem artefacts_agree :
    (p.artefacts request ip mac).Agree p request ip mac (p.partition host request ip mac) where
  entryMac := rfl
  createdDirectory := rfl
  touchedDirectory := rfl
  appendedDirectory := rfl
  recordedMac := rfl
  ip := ⟨rfl, rfl, rfl⟩
  gateway := ⟨rfl, rfl, rfl⟩
  netmask := ⟨rfl, rfl, rfl⟩
  server := rfl
  bootFile := rfl
  profile := ⟨rfl, rfl⟩
  volume := rfl
  group := rfl
  disk := (Command.rawVolumePath_eq _ _).symm
  recordedDisk := rfl

/-! ## Removals -/

/-- Whatever a removal of a workload does, in any company, the only volume that it removes is this
one; and it has removed it when it ends with that. -/
def Frees (p : Provisioner) (workload volume : String) : Prop :=
  ∀ {start tasks : Tasks (Outcome DestroyOutcome)} {happenings : List Happening} {i : Nat}
    {host name : String}, Tasks.Run start happenings tasks →
    start.programs[i]? = some (p.destroy host name workload).run →
    (∀ other command reply, ⟨.run other command, reply⟩ ∈ Tasks.own i happenings →
      "lvremove".toList <+: command.toList → other = host ∧ command = "lvremove -f " ++ volume) ∧
    (tasks.programs[i]? = some (.done (.ok .removed)) →
      ∃ output, ⟨.run host ("lvremove -f " ++ volume), .ok output⟩ ∈ Tasks.own i happenings)

/-- One command of a removal is about a volume. -/
theorem eq_removeVolume {name workload command : String}
    (hmem : command ∈ p.removalCommands name workload)
    (hvolume : "lvremove".toList <+: command.toList) :
    command = Command.removeVolume p.node.volumeGroup workload := by
  obtain ⟨rest, hrest⟩ := hvolume
  simp only [removalCommands, List.mem_cons, List.not_mem_nil, or_false] at hmem
  -- the other three begin with another word
  rcases hmem with rfl | rfl | rfl | rfl
  · rw [Command.resetPartition_toList] at hrest
    simp at hrest
  · rw [Command.partitionDetail_toList] at hrest
    simp at hrest
  · rw [Command.removePartition_toList] at hrest
    simp at hrest
  · rfl

/-- A removal of a workload removes its volume and no other. -/
theorem destroy_frees (p : Provisioner) (workload : String) :
    p.Frees workload (Command.volumePath p.node.volumeGroup workload) := by
  intro start tasks happenings i host name run hp
  obtain ⟨rest, outcome, hcourse, hended⟩ := run.leads hp (engine_leads p)
  refine ⟨fun other command reply hmem hvolume => ?_, fun hdone => ?_⟩
  · -- what was done so far is a part of a course, and a course sends the commands of a removal
    rcases hcourse.actions _ (List.mem_append_left rest hmem) with ⟨sent, hsent, hrun⟩ | ⟨_, hpause⟩
    · obtain ⟨rfl, rfl⟩ := Action.run.inj hrun
      exact ⟨rfl, eq_removeVolume hsent hvolume⟩
    · exact nomatch hpause
  · -- a removal that is done has sent all of them
    obtain ⟨rfl, rfl⟩ := hended _ hdone
    rw [List.append_nil] at hcourse
    refine hcourse.commands_of_removed rfl (Command.removeVolume p.node.volumeGroup workload) ?_
    simp [removalCommands]

/-! ## The whole -/

/-- Raw devices tell workloads apart. -/
theorem rawPath_inj {request' : SpawnRequest} (h : p.rawPath request = p.rawPath request') :
    request.resources.workload = request'.resources.workload := by
  have htexts := congrArg String.toList h
  simp only [rawPath, String.toList_append, List.append_cancel_left_eq] at htexts
  exact String.toList_inj.mp htexts

/-- What a task has done that is a successful provisioning. -/
theorem course_of_provisioned {start tasks : Tasks (Outcome Partition)}
    {happenings : List Happening} {i : Nat} {partition : Partition}
    (run : Tasks.Run start happenings tasks)
    (hp : start.programs[i]? = some (p.provision host request ip).run)
    (hdone : tasks.programs[i]? = some (.done (.ok partition))) :
    ∃ mac, p.BootCourse host request ip mac (p.commandPoints host request ip mac)
      (Tasks.own i happenings) (.ok partition) ∧ partition = p.partition host request ip mac := by
  obtain ⟨rest, outcome, ⟨mac, hcourse⟩, hended⟩ := run.leads hp (p.provision_leads host request ip)
  obtain ⟨rfl, rfl⟩ := hended _ hdone
  rw [List.append_nil] at hcourse
  obtain ⟨-, -, -, -, -, hpartition⟩ := id hcourse
  exact ⟨mac, hcourse, hpartition _ rfl⟩

end Provisioner

variable {p : Provisioner} {host : String} {request : SpawnRequest} {ip : String}
  {start tasks : Tasks (Outcome Partition)} {happenings : List Happening} {i : Nat}
  {partition : Partition}

/-- Every successful provisioning, in any company and with any answers, has written one hardware
address everywhere: the one in the report of the node, in its normal form. All that it has written
agrees with the request, with the management address and with the record of the partition. The disk
is the raw device of the volume that was created, which is the one that a removal of the same
workload removes; and it is no disk of another workload. -/
theorem provision_artefacts_agree (run : Tasks.Run start happenings tasks)
    (hp : start.programs[i]? = some (p.provision host request ip).run)
    (hdone : tasks.programs[i]? = some (.done (.ok partition))) :
    (∃ (a : Artefacts) (mac report : String),
      a.WrittenIn p host request (Tasks.own i happenings) ∧
      ⟨.run host s!"/opt/hpvm/bin/vparstatus -p {request.name} -v", .ok report⟩ ∈
        Tasks.own i happenings ∧
      Report.managementMac? report.toList p.node.managementNetwork = some mac ∧
      Slot.mac.Admits mac ∧
      a.Agree p request ip mac partition ∧
      p.Frees request.resources.workload (a.group ++ "/" ++ a.volume)) ∧
    ∀ {start' tasks' : Tasks (Outcome Partition)} {happenings' : List Happening} {j : Nat}
      {host' ip' : String} {request' : SpawnRequest} {partition' : Partition},
      Tasks.Run start' happenings' tasks' →
      start'.programs[j]? = some (p.provision host' request' ip').run →
      tasks'.programs[j]? = some (.done (.ok partition')) →
      request.resources.workload ≠ request'.resources.workload →
      partition.volumePath ≠ partition'.volumePath := by
  obtain ⟨mac, hcourse, rfl⟩ := Provisioner.course_of_provisioned run hp hdone
  constructor
  · obtain ⟨report, hreport, hmac⟩ := hcourse.reported
    exact ⟨p.artefacts request ip mac, mac, report, hcourse.writes, hreport, hmac,
      Report.admits_of_managementMac? hmac, Provisioner.artefacts_agree, p.destroy_frees _⟩
  · -- volumes are named after their workloads
    intro start' tasks' happenings' j host' ip' request' partition' run' hp' hdone' hworkload hpath
    obtain ⟨mac', -, rfl⟩ := Provisioner.course_of_provisioned run' hp' hdone'
    exact hworkload (Provisioner.rawPath_inj (Option.some.inj hpath))

/-- A provisioning of `web` for a workload, by itself. -/
def Sample.provisioning (workload : String) : Tasks (Outcome Partition) where
  shared := .ofStore store
  programs :=
    [(controller.provisioner.provision "10.0.0.11" (Sample.request "web" workload) "10.0.1.5").run]

/-- The partition that comes of it. -/
def Sample.provisioned (workload : String) : Partition :=
  controller.provisioner.partition "10.0.0.11" (Sample.request "web" workload) "10.0.1.5"
    "0x7E6B5A43E9E4"

/-- The hosts that provide for `shop` also provide for `sho`, and each has its own disk. -/
theorem provision_artefacts_agree_sample :
    ((Sample.provisioning "shop").goOn Sample.willing 0).2.programs
      = [.done (.ok (Sample.provisioned "shop"))] ∧
    ((Sample.provisioning "sho").goOn Sample.willing 0).2.programs
      = [.done (.ok (Sample.provisioned "sho"))] ∧
    (∃ (a : Artefacts) (mac : String), a.Agree Sample.controller.provisioner
      (Sample.request "web" "shop") "10.0.1.5" mac (Sample.provisioned "shop")) ∧
    (Sample.provisioned "shop").volumePath ≠ (Sample.provisioned "sho").volumePath := by
  have hshop : ((Sample.provisioning "shop").goOn Sample.willing 0).2.programs
      = [.done (.ok (Sample.provisioned "shop"))] := by
    refine Program.eq_done_of_results ?_
    decide +kernel
  have hsho : ((Sample.provisioning "sho").goOn Sample.willing 0).2.programs
      = [.done (.ok (Sample.provisioned "sho"))] := by
    refine Program.eq_done_of_results ?_
    decide +kernel
  -- the theorem at the run for `shop`, with that for `sho` as the other one
  obtain ⟨⟨a, mac, -, -, -, -, -, hagree, -⟩, hdiffer⟩ := provision_artefacts_agree
    (Tasks.goOn_run Sample.willing 0 (Sample.provisioning "shop")) (i := 0) rfl (by rw [hshop]; rfl)
  refine ⟨hshop, hsho, ⟨a, mac, hagree⟩, ?_⟩
  exact hdiffer (Tasks.goOn_run Sample.willing 0 (Sample.provisioning "sho")) (j := 0) rfl
    (by rw [hsho]; rfl) (by decide)

end VparFleet
