import Mathlib.Algebra.Group.Nat.Defs
import VparFleet.Proofs.Provisioning.ConsoleSession
import VparFleet.Proofs.Provisioning.Remote

/-!
# The course of a provisioning

Provisioning takes fixed checkpoints: two commands on the node that define the partition, two that
start it and read its hardware address, three on the provisioning server, and a session on a
console of the node. It stops at the first that fails, with the fault of that one under the names of
its steps. No move in the life of the partition is ever refused.

* `Provisioner.definePoints`, `Provisioner.bringUpPoints`: the commands, with what each wants to
  see in its output.
* `Provisioner.BootCourse`: ways through checkpoints and a network boot.
* `definePartition_takes`, `bringUp_leads`: the two halves of a provisioning.
* `provision_leads`: all of it.
-/

namespace VparFleet

/-! ## Texts -/

namespace Command

theorem rawVolumePath_eq (group workload : String) :
    rawVolumePath group workload = group ++ "/rlv-" ++ workload := by
  show group ++ "/r" ++ ("lv-" ++ workload) = group ++ ("/r" ++ "lv-") ++ workload
  simp only [String.append_assoc]

/-- The creation of a volume, as one text. -/
theorem createVolume_eq (group workload : String) (gigabytes : Nat) :
    createVolume group workload gigabytes =
      s!"lvcreate -L {min (gigabytes * 1024) (2 ^ 64 - 1)} -n lv-{workload} {group}" := by
  -- the parts of the two texts are cut at different places
  show "lvcreate -L " ++ toString (megabytes gigabytes) ++ " -n " ++ ("lv-" ++ workload) ++ " " ++
    group = "lvcreate -L " ++ toString (megabytes gigabytes) ++ (" -n " ++ "lv-") ++ workload ++
      " " ++ group
  simp only [String.append_assoc]

theorem createClientConfig_eq (server : ServerSettings) (mac : String) :
    createClientConfig server mac =
      s!"mkdir {server.clientsDir}/{mac}" ++ s!" && touch {server.clientsDir}/{mac}/config" := by
  simp [createClientConfig, clientDir, clientFile, toString, String.append_assoc]

end Command

namespace Provisioner

variable (p : Provisioner) (host : String) (request : SpawnRequest) (ip mac : String)

/-! ## Checkpoints -/

/-- The raw device of the boot volume. -/
def rawPath : String :=
  p.node.volumeGroup ++ "/rlv-" ++ request.resources.workload

/-- The boot volume. The raw device has to be in the output. -/
def volumePoint : Checkpoint :=
  let raw := p.rawPath request
  .command host (Command.createVolume p.node.volumeGroup request.resources.workload
    request.resources.disk) fun output =>
      if Text.occurs raw.toList output.toList then none
      else
        let shown := String.ofList (Text.trim output.toList)
        some (commandFault s!"lvcreate did not report {raw}: {shown}")

/-- The definition. -/
def definitionPoint : Checkpoint :=
  .command host (Command.createPartition p.node request.name request.resources.memory
    request.resources.cpus (p.rawPath request)) fun _ => none

/-- The volume and the definition. -/
def definePoints : List Checkpoint :=
  [(p.volumePoint host request).within "allocate storage",
    (p.definitionPoint host request).within "define"]

/-- The start, which has to be acknowledged. -/
def startPoint : Checkpoint :=
  .command host (Command.bootPartition request.name) fun output =>
    if Text.occurs "Successful start initiation".toList output.toList then none
    else some (commandFault s!"vparboot did not acknowledge start of {request.name}")

/-- The hardware address in a report on the partition. -/
def mac? (report : String) : Option String :=
  Report.managementMac? report.toList p.node.managementNetwork

/-- The fault of a report without that. -/
def noMac : Fault :=
  commandFault s!"no NIC on {p.node.managementNetwork} found for {request.name}"

/-- The report with the hardware address. -/
def macPoint : Checkpoint where
  action := .run host (Command.partitionDetail request.name)
  names := []
  flaw? reply :=
    match reply with
    | .ok report => if (p.mac? report).isSome then none else some (p.noMac request)
    | .error fault => some fault
  tells reply := ∃ report, reply = .ok report ∧ p.mac? report = some mac

/-- The writes on the provisioning server. -/
def registerPoints : List Checkpoint :=
  let entry : Command.BootEntry := ⟨request.name, mac, ip, request.gateway, request.netmask⟩
  let write (step command : String) : Checkpoint :=
    (Checkpoint.command p.server.address command fun _ => none).within step
  [write "boot table entry" (Command.appendBootEntry p.server entry),
    write "client directory" (Command.createClientConfig p.server mac),
    write "client config" (Command.writeClientConfig p.server mac request.name request.image)]

/-- What comes between the definition and the network boot. -/
def bringUpPoints : List Checkpoint :=
  [(startPoint host request).within "boot to firmware"] ++
    ([(p.macPoint host request mac).within "read management mac"] ++
      (p.registerPoints request ip mac).map (·.within "register"))

/-- All that comes before the network boot. -/
def commandPoints : List Checkpoint :=
  p.definePoints host request ++ p.bringUpPoints host request ip mac

/-- The network boot. -/
def networkPoints (console : ConsoleId) (readOnly : Bool) : List Checkpoint :=
  (VparFleet.bootPoints host (p.bootPlan request ip) p.prompt p.step p.boot console readOnly).map
    (·.within "network boot")

/-- The partition that is there at the end. -/
def partition : Partition where
  name := request.name
  node := host
  memory := request.resources.memory
  cpus := request.resources.cpus
  powerState := .running
  network := ⟨some mac, ip, request.gateway, request.netmask⟩
  volumePath := some (p.rawPath request)

/-- Ways through checkpoints and then a network boot. -/
def BootCourse (points : List Checkpoint) (course : List Exchange) (outcome : Outcome Partition) :
    Prop :=
  ∃ console readOnly talk,
    Passage (points ++ p.networkPoints host request ip console readOnly) talk
      (Outcome.fault? outcome) ∧
    Closed host console talk course ∧
    ∀ partition, outcome = .ok partition → partition = p.partition host request ip mac

/-! ## The definition -/

/-- The volume is created, and its raw device seen in the output. -/
theorem allocateStorage_takes :
    (p.allocateStorage host request.resources.workload request.resources.disk).Takes
      [p.volumePoint host request] (· = p.rawPath request) := by
  rw [allocateStorage, Command.rawVolumePath_eq]
  refine Operation.takes_command fun output => ?_
  by_cases hraw : Text.occurs (p.rawPath request).toList output.toList = true
  · simp only [hraw, if_true]
    exact ⟨_, congrArg ExceptT.run (if_pos hraw), rfl⟩
  · simp only [hraw]
    exact congrArg ExceptT.run (if_neg hraw)

/-- A legal move in the life of a partition does nothing else. -/
theorem reach_eq_pure {life : Lifecycle} {stage : Stage} (h : life.stage.canMoveTo stage = true) :
    reach life stage = pure { life with stage } := by
  rw [reach, Lifecycle.advance_ok_iff.mpr ⟨h, rfl⟩]
  rfl

theorem exec_takes (command : String) :
    (do let _ ← Operation.exec host command : Operation Unit).Takes
      [.command host command fun _ => none] (fun _ => True) :=
  Operation.takes_command fun _ => ⟨(), rfl, trivial⟩

/-- A partition is defined by its two checkpoints. -/
theorem definePartition_takes :
    (p.definePartition host request).Takes (p.definePoints host request)
      (· = ⟨⟨request.name, .defined⟩, p.rawPath request⟩) := by
  refine ((p.allocateStorage_takes host request).atStep "allocate storage").bind ?_
  rintro _ rfl
  -- a partition that is requested may be defined
  rw [reach_eq_pure rfl, pure_bind]
  refine ((exec_takes host _).atStep "define").bind fun _ _ => ?_
  rw [reach_eq_pure rfl, pure_bind]
  exact Operation.takes_ok rfl rfl

/-! ## The start -/

/-- The start is acknowledged in the output of its command. -/
theorem startAcknowledged_takes :
    (startAcknowledged host request.name).Takes [startPoint host request] (fun _ => True) := by
  -- the acknowledgement is looked at right after the command
  have hsplit : startAcknowledged host request.name =
      Operation.exec host (Command.bootPartition request.name) >>= fun output =>
        if !Text.occurs "Successful start initiation".toList output.toList then
          throw (commandFault s!"vparboot did not acknowledge start of {request.name}")
        else pure () := by
    simp only [startAcknowledged, bootToFirmware, bind_assoc, pure_bind]
    rfl
  rw [hsplit]
  refine Operation.takes_command fun output => ?_
  by_cases hstart : Text.occurs "Successful start initiation".toList output.toList = true
  · simp only [hstart, if_true]
    exact ⟨(), rfl, trivial⟩
  · simp only [hstart]
    rfl

/-- The hardware address is read from one report. -/
theorem readManagementMac_leads :
    (p.readManagementMac host request.name).run.Leads fun course outcome =>
      ∃ reply : Outcome String,
        course = [⟨.run host (Command.partitionDetail request.name), reply⟩] ∧
        outcome = reply.map p.mac? := by
  intro reply
  rcases reply with fault | report
  · exact ⟨.error fault, rfl, rfl⟩
  · exact ⟨.ok report, rfl, rfl⟩

/-- The report is looked at through the address in it. -/
theorem macPoint_flaw? {report : String} {found : Option String} (h : p.mac? report = found) :
    (p.macPoint host request mac).flaw? (.ok report)
      = if found.isSome then none else some (p.noMac request) := by
  simp only [macPoint, h]

/-- An address has to be found in the report. -/
theorem needManagementMac_leads :
    (p.needManagementMac host request.name).run.Leads fun course outcome => ∃ mac,
      Passage [p.macPoint host request mac] course (Outcome.fault? outcome) ∧
        ∀ found, outcome = .ok found → found = mac := by
  rw [needManagementMac, Operation.run_bind, Program.leads_bind]
  refine (p.readManagementMac_leads host request).mono ?_
  rintro course outcome ⟨reply, rfl, rfl⟩
  -- where no address was read, it does not matter which one the checkpoint wants
  rcases reply with fault | report
  · have hunread : Passage [p.macPoint host request ""]
        [⟨.run host (Command.partitionDetail request.name), .error fault⟩] (some fault) :=
      .failed rfl
    exact ⟨"", hunread, nofun⟩
  show (Operation.after _ (.ok (p.mac? report))).Leads _
  cases hmac : p.mac? report with
  | none =>
    have hmissing : Passage [p.macPoint host request ""]
        [⟨.run host (Command.partitionDetail request.name), .ok report⟩]
        (some (p.noMac request)) :=
      .failed (p.macPoint_flaw? host request "" hmac)
    exact ⟨"", hmissing, nofun⟩
  | some mac =>
    have hread : Passage [p.macPoint host request mac]
        [⟨.run host (Command.partitionDetail request.name), .ok report⟩] none :=
      .passed (p.macPoint_flaw? host request mac hmac) ⟨report, rfl, hmac⟩ .nil
    exact ⟨mac, hread, fun found hfound => (Except.ok.inj hfound).symm⟩

/-- A registration writes its three entries in turn. -/
theorem register_takes :
    (p.register (registration request ip mac)).Takes (p.registerPoints request ip mac)
      (fun _ => True) := by
  -- one write, under the name of its entry
  have hwrite (write : String × String) :
      (do let _ ← Operation.atStep write.1 (.exec p.server.address write.2) : Operation Unit).Takes
        [(Checkpoint.command p.server.address write.2 fun _ => none).within write.1]
        (fun _ => True) := by
    intro reply
    rcases reply with fault | output
    · exact ⟨.failed rfl, nofun⟩
    · exact ⟨.passed rfl trivial .nil, fun _ _ => trivial⟩
  exact Operation.takes_forM hwrite ((registration request ip mac).steps p.server)

/-! ## The whole -/

namespace BootCourse

variable {p host request ip mac} {before points : List Checkpoint}
  {course course' : List Exchange} {outcome : Outcome Partition} {fault : Fault}

/-- Commands open no console. -/
theorem not_opened (h : Passage before course fault?) (hb : ∀ point ∈ before, point.IsCommand) :
    ∀ exchange ∈ course, exchange.action ≠ .openConsole host := by
  intro exchange hmem hopen
  obtain ⟨point, hpoint, haction⟩ := h.exists_point hmem
  obtain ⟨host, command, hcommand⟩ := hb point hpoint
  exact nomatch hopen.symm.trans (haction.trans hcommand)

/-- Commands that failed are followed by nothing. -/
theorem stopped (h : Passage before course (some fault))
    (hb : ∀ point ∈ before, point.IsCommand) (points : List Checkpoint) :
    p.BootCourse host request ip mac (before ++ points) course (.error fault) := by
  refine ⟨0, false, course, ?_, .unopened fun console hmem => ?_, nofun⟩
  · rw [List.append_assoc]
    exact h.append_failed _
  · exact not_opened h hb _ hmem rfl

/-- Commands that were passed are followed by what comes next. -/
theorem prepend (h : Passage before course none) (hb : ∀ point ∈ before, point.IsCommand)
    (h' : p.BootCourse host request ip mac points course' outcome) :
    p.BootCourse host request ip mac (before ++ points) (course ++ course') outcome := by
  obtain ⟨console, readOnly, talk, htalk, hclosed, hpartition⟩ := h'
  refine ⟨console, readOnly, course ++ talk, ?_, hclosed.prepend (not_opened h hb), hpartition⟩
  -- the checkpoints that were passed come before those of the network boot
  rw [List.append_assoc]
  exact h.append htalk

/-- A network boot is all that is left. -/
theorem of_console {session : List Exchange} {stage : Outcome ConsoleStage}
    (h : ConsoleCourse host (p.bootPlan request ip) p.prompt p.step p.boot session stage)
    (hfault : Outcome.fault? outcome = (Outcome.fault? stage).map (·.atStep "network boot"))
    (hpartition : ∀ partition, outcome = .ok partition →
      partition = p.partition host request ip mac) :
    p.BootCourse host request ip mac [] session outcome := by
  obtain ⟨console, readOnly, talk, htalk, hclosed, -⟩ := h
  refine ⟨console, readOnly, talk, ?_, hclosed, hpartition⟩
  rw [hfault]
  exact htalk.within "network boot"

/-- Commands come first, and what follows when they are passed is looked at by itself. What that
looks for may depend on the answers. -/
theorem leads_after {α : Type} {op : Operation α} {post : α → Prop} {k : α → Operation Partition}
    {points : String → List Checkpoint} (h : op.Takes before post)
    (hb : ∀ point ∈ before, point.IsCommand)
    (hk : ∀ a, post a → (k a).run.Leads fun course outcome => ∃ mac,
      p.BootCourse host request ip mac (points mac) course outcome) :
    (op >>= k).run.Leads fun course outcome => ∃ mac,
      p.BootCourse host request ip mac (before ++ points mac) course outcome := by
  refine Operation.leads_andThen h ?_ ?_
  · rintro course a ⟨hpassage, hpost⟩
    refine (hk a (hpost a rfl)).mono ?_
    rintro course' outcome ⟨mac, h'⟩
    exact ⟨mac, prepend hpassage hb h'⟩
  · rintro course fault ⟨hpassage, -⟩
    exact ⟨"", stopped hpassage hb _⟩

end BootCourse

theorem definePoints_commands : ∀ point ∈ p.definePoints host request, point.IsCommand := by
  simp [definePoints, volumePoint, definitionPoint, Checkpoint.IsCommand, Checkpoint.within,
    Checkpoint.command]

/-- What comes between the definition and the network boot is commands. -/
theorem bringUpPoints_commands :
    ∀ point ∈ p.bringUpPoints host request ip mac, point.IsCommand := by
  have hnil : ∀ point ∈ ([] : List Checkpoint), point.IsCommand := List.forall_mem_nil _
  simp only [bringUpPoints, registerPoints, List.map_cons, List.map_nil, List.forall_mem_append,
    List.forall_mem_cons]
  exact ⟨⟨⟨_, _, rfl⟩, hnil⟩, ⟨⟨_, _, rfl⟩, hnil⟩, ⟨_, _, rfl⟩, ⟨_, _, rfl⟩, ⟨_, _, rfl⟩, hnil⟩

/-- A registered partition is booted from the network. -/
theorem networkBooted_leads {life : Lifecycle} (hlife : life.stage = .networkRegistered) :
    (do
      let _ ← .atStep "network boot" (p.networkBoot host (p.bootPlan request ip))
      let _ ← reach life .running
      return p.partition host request ip mac : Operation Partition).run.Leads
        (p.BootCourse host request ip mac []) := by
  -- the session as a step; its fault is renamed, and nothing else
  have hnetwork : (Operation.atStep "network boot"
      (p.networkBoot host (p.bootPlan request ip))).run.Leads fun course outcome => ∃ stage,
        ConsoleCourse host (p.bootPlan request ip) p.prompt p.step p.boot course stage ∧
          outcome = stage.atStep "network boot" := by
    rw [Operation.run_atStep, Program.leads_bind]
    refine (networkBoot_leads _ _ _ _ _).mono fun course stage h => ?_
    rw [Program.leads_done, List.append_nil]
    exact ⟨stage, h, rfl⟩
  refine Operation.leads_andThen hnetwork ?_ ?_
  · -- the last move is legal too, so a session that went well is all there is
    rintro course stage ⟨outcome, hcourse, hstage⟩
    obtain ⟨name, now⟩ := life
    obtain rfl : now = .networkRegistered := hlife
    show p.BootCourse host request ip mac [] (course ++ []) (.ok _)
    rw [List.append_nil]
    refine .of_console hcourse ?_ ?_
    · cases outcome with
      | ok => rfl
      | error fault => exact nomatch hstage
    · exact fun partition hp => (Except.ok.inj hp).symm
  · rintro course fault ⟨outcome, hcourse, hfault⟩
    refine .of_console hcourse ?_ nofun
    cases outcome with
    | ok => exact nomatch hfault
    | error cause => exact congrArg Outcome.fault? hfault

/-- A partition whose hardware address is known is registered and booted from the network. -/
theorem registered_leads :
    (do
      .atStep "register" (p.register (registration request ip mac))
      let life ← reach ⟨request.name, .bootedToFirmware⟩ .networkRegistered
      let _ ← .atStep "network boot" (p.networkBoot host (p.bootPlan request ip))
      let _ ← reach life .running
      return p.partition host request ip mac : Operation Partition).run.Leads
        (p.BootCourse host request ip mac
          ((p.registerPoints request ip mac).map (·.within "register"))) := by
  have hcommands : ∀ point ∈ (p.registerPoints request ip mac).map (·.within "register"),
      point.IsCommand := by
    have hall := p.bringUpPoints_commands host request ip mac
    simp only [bringUpPoints, List.forall_mem_append] at hall
    exact hall.2.2
  rw [← List.append_nil ((p.registerPoints request ip mac).map _)]
  refine Operation.leads_andThen ((p.register_takes request ip mac).atStep "register") ?_ ?_
  · rintro course _ ⟨hpassage, -⟩
    -- the move to the next stage is legal, so it does nothing
    rw [reach_eq_pure rfl, pure_bind]
    refine (p.networkBooted_leads host request ip mac rfl).mono fun course' outcome h => ?_
    exact .prepend hpassage hcommands h
  · rintro course fault ⟨hpassage, -⟩
    exact .stopped hpassage hcommands []

theorem needManagementMac_atStep_leads :
    (Operation.atStep "read management mac" (p.needManagementMac host request.name)).run.Leads
      fun course outcome => ∃ mac,
        Passage [(p.macPoint host request mac).within "read management mac"] course
          (Outcome.fault? outcome) ∧ ∀ found, outcome = .ok found → found = mac := by
  rw [Operation.run_atStep, Program.leads_bind]
  refine (p.needManagementMac_leads host request).mono ?_
  rintro course outcome ⟨mac, hpassage, hmac⟩
  rw [Program.leads_done, List.append_nil]
  cases outcome with
  | error fault => exact ⟨mac, hpassage.within "read management mac", nofun⟩
  | ok found => exact ⟨mac, hpassage.within "read management mac", hmac⟩

/-- A defined partition is started by its checkpoints. -/
theorem bringUp_leads :
    (p.bringUp host request ip ⟨⟨request.name, .defined⟩, p.rawPath request⟩).run.Leads
      fun course outcome => ∃ mac,
        p.BootCourse host request ip mac (p.bringUpPoints host request ip mac) course outcome := by
  have hcommands (mac : String) := p.bringUpPoints_commands host request ip mac
  simp only [bringUpPoints, List.forall_mem_append] at hcommands
  refine BootCourse.leads_after ((startAcknowledged_takes host request).atStep _)
    (hcommands "").1 fun _ _ => ?_
  rw [reach_eq_pure rfl, pure_bind]
  -- all that follows depends on the hardware address that was read
  refine Operation.leads_andThen (p.needManagementMac_atStep_leads host request) ?_ ?_
  · rintro course found ⟨mac, hpassage, hmac⟩
    obtain rfl := hmac found rfl
    refine (p.registered_leads host request ip found).mono fun course' outcome h => ⟨found, ?_⟩
    exact .prepend hpassage (hcommands found).2.1 h
  · -- without an address nothing is registered
    rintro course fault ⟨mac, hpassage, -⟩
    exact ⟨mac, .stopped hpassage (hcommands mac).2.1 _⟩

/-- Every provisioning takes its checkpoints, for one hardware address. -/
theorem provision_leads :
    (p.provision host request ip).run.Leads fun course outcome => ∃ mac,
      p.BootCourse host request ip mac (p.commandPoints host request ip mac) course outcome := by
  refine BootCourse.leads_after (p.definePartition_takes host request)
    (p.definePoints_commands host request) ?_
  rintro defined rfl
  exact p.bringUp_leads host request ip

end Provisioner

end VparFleet
