import VparFleet.Proofs.Controller.Serving
import VparFleet.Proofs.Provisioning.ProvisionCourse

/-!
# The outcome of a provisioning

A provisioning sends its commands and takes its turns on the console in a fixed order, up to the
first that fails, and its outcome tells which one that was.

* `Provisioner.commands`: the commands, each with its host.
* `BootCourse.commands_prefix`, `BootCourse.console_host`: what has been done at any time.
* `provision_stops_at_first_failure`: every provisioning, in any company.
-/

namespace VparFleet

namespace Provisioner

variable (p : Provisioner) (host : String) (request : SpawnRequest) (ip mac : String)

/-- The commands of a provisioning, each with its host. Those that append to a file do so line by
line. -/
def commands : List (String × String) :=
  let ⟨workload, memory, cpus, disk⟩ := request.resources
  let group := p.node.volumeGroup
  let raw := group ++ "/rlv-" ++ workload
  let clients := p.server.clientsDir
  [(host, s!"lvcreate -L {min (disk * 1024) (2 ^ 64 - 1)} -n lv-{workload} {group}"),
    (host, s!"/opt/hpvm/bin/vparcreate -p {request.name} -a mem::{memory} -a cpu::{cpus}"
      ++ s!" -a disk:avio_stor::lv:{raw}"
      ++ s!" -a network:avio_lan::vswitch:{p.node.managementNetwork}"
      ++ s!" -a network:avio_lan::vswitch:{p.node.productionNetwork}"),
    (host, s!"/opt/hpvm/bin/vparboot -p {request.name}"),
    (host, s!"/opt/hpvm/bin/vparstatus -p {request.name} -v"),
    (p.server.address, Command.appendLines p.server.bootTable
      [s!"{request.name}:\\", "\ttc=ignite-defaults:\\", s!"\tha={mac}:\\",
        s!"\tbf={p.server.bootFile}:\\", s!"\tgw={request.gateway}:\\", s!"\tip={ip}:\\",
        s!"\tsm={request.netmask}"]),
    (p.server.address, s!"mkdir {clients}/{mac}" ++ s!" && touch {clients}/{mac}/config"),
    (p.server.address, Command.appendLines s!"{clients}/{mac}/config"
      [s!"cfg \"{request.image}\"=TRUE", "_hp_cfg_detail_level=\"v\"",
        s!"final system_name=\"{request.name}\"", s!"_hp_keyboard=\"{p.server.keyboard}\"",
        s!"root_password=\"{p.server.passwordHash}\"", s!"_hp_root_disk=\"{p.server.rootDisk}\"",
        "_my_second_disk_path=\"\""])]

/-- The commands among the checkpoints are those of the list. -/
theorem commandPoints_commands :
    (p.commandPoints host request ip mac).filterMap (·.action.command?)
      = p.commands host request ip mac := by
  let resources := request.resources
  let entry : Command.BootEntry := ⟨request.name, mac, ip, request.gateway, request.netmask⟩
  -- the checkpoints are made with the builders of the commands
  have hsent : (p.commandPoints host request ip mac).filterMap (·.action.command?) =
      [(host, Command.createVolume p.node.volumeGroup resources.workload resources.disk),
        (host, Command.createPartition p.node request.name resources.memory resources.cpus
          (p.rawPath request)),
        (host, Command.bootPartition request.name),
        (host, Command.partitionDetail request.name),
        (p.server.address, Command.appendBootEntry p.server entry),
        (p.server.address, Command.createClientConfig p.server mac),
        (p.server.address, Command.writeClientConfig p.server mac request.name request.image)] :=
    rfl
  -- two of which put their texts together from parts
  rw [hsent, Command.createVolume_eq, Command.createClientConfig_eq]
  rfl

theorem networkPoints_commands (console : ConsoleId) (readOnly : Bool) :
    (p.networkPoints host request ip console readOnly).filterMap (·.action.command?) = [] := by
  cases readOnly <;> rfl

/-- A network boot opens a console on the node and on no other host. -/
theorem networkPoints_console {console : ConsoleId} {readOnly : Bool} {other : String}
    {point : Checkpoint} (h : point ∈ p.networkPoints host request ip console readOnly)
    (hopen : point.action = .openConsole other) : other = host := by
  obtain ⟨inner, hinner, rfl⟩ := List.mem_map.mp h
  rcases List.mem_cons.mp hinner with rfl | hinner
  · -- the opening is the first of its checkpoints, and the only one that opens
    exact (Action.openConsole.inj hopen).symm
  · rcases FirmwareConsole.turns_talk _ _ _ inner hinner with ⟨bytes, hsend⟩ | ⟨limit, hwait⟩
    · exact nomatch hopen.symm.trans hsend
    · exact nomatch hopen.symm.trans hwait

/-- A network boot is done on hosts. -/
theorem networkPoints_remote {console : ConsoleId} {readOnly : Bool} {point : Checkpoint}
    (h : point ∈ p.networkPoints host request ip console readOnly) :
    point.action.isRemote = true := by
  obtain ⟨inner, hinner, rfl⟩ := List.mem_map.mp h
  rcases List.mem_cons.mp hinner with rfl | hinner
  · rfl
  · show inner.action.isRemote = true
    rcases FirmwareConsole.turns_talk _ _ _ inner hinner with ⟨bytes, hsend⟩ | ⟨limit, hwait⟩
    · rw [hsend]
      rfl
    · rw [hwait]
      rfl

variable {p host request ip mac} {points : List Checkpoint} {course past : List Exchange}
  {outcome : Outcome Partition}

namespace BootCourse

/-- Whatever has been sent, it was sent in the order of the commands. -/
theorem commands_prefix (h : p.BootCourse host request ip mac points course outcome)
    (hpast : past <+: course) :
    past.filterMap (·.action.command?) <+: points.filterMap (·.action.command?) := by
  obtain ⟨console, readOnly, talk, htalk, hclosed, -⟩ := h
  have hprefix := htalk.filterMap_isPrefix Action.command?
  rw [List.filterMap_append, p.networkPoints_commands host request ip console readOnly,
    List.append_nil] at hprefix
  -- the end of the session is no command
  have hcourse : course.filterMap (·.action.command?) = talk.filterMap (·.action.command?) := by
    cases hclosed with
    | unopened => rfl
    | opened => simp [Action.command?]
  exact (hpast.filterMap _).trans (hcourse ▸ hprefix)

/-- Every console that is opened is one of the node. -/
theorem console_host (h : p.BootCourse host request ip mac points course outcome)
    (hp : ∀ point ∈ points, point.IsCommand) {other : String} {reply : Outcome ConsoleId}
    (hmem : ⟨.openConsole other, reply⟩ ∈ course) : other = host := by
  obtain ⟨console, readOnly, talk, htalk, hclosed, -⟩ := h
  -- closing a console opens none
  have htalked : ⟨.openConsole other, reply⟩ ∈ talk := by
    cases hclosed with
    | unopened => exact hmem
    | opened =>
      rcases List.mem_append.mp hmem with hmem | hmem
      · exact hmem
      · exact nomatch (Exchange.mk.inj (List.mem_singleton.mp hmem)).1
  obtain ⟨point, hpoint, haction⟩ := htalk.exists_point htalked
  rcases List.mem_append.mp hpoint with hpoint | hpoint
  · obtain ⟨host', command, hcommand⟩ := hp point hpoint
    exact nomatch haction.trans hcommand
  · exact p.networkPoints_console host request ip hpoint haction.symm

/-- All of it is done on hosts. -/
theorem remote (h : p.BootCourse host request ip mac points course outcome)
    (hp : ∀ point ∈ points, point.IsCommand) :
    ∀ exchange ∈ course, exchange.action.isRemote = true := by
  obtain ⟨console, readOnly, talk, htalk, hclosed, -⟩ := h
  have htalked : ∀ exchange ∈ talk, exchange.action.isRemote = true := by
    intro exchange hmem
    obtain ⟨point, hpoint, haction⟩ := htalk.exists_point hmem
    rw [haction]
    -- a checkpoint is a command or a part of the network boot
    rcases List.mem_append.mp hpoint with hpoint | hpoint
    · obtain ⟨host', command, hcommand⟩ := hp point hpoint
      rw [hcommand]
      rfl
    · exact p.networkPoints_remote host request ip hpoint
  cases hclosed with
  | unopened => exact htalked
  | opened => exact List.forall_mem_append.mpr ⟨htalked, List.forall_mem_singleton.mpr rfl⟩

end BootCourse

end Provisioner

variable {p : Provisioner} {host : String} {request : SpawnRequest} {ip : String}
  {start tasks : Tasks (Outcome Partition)} {happenings : List Happening} {i : Nat}

/-- Every provisioning, in any company and with any answers, can come to its end. It takes the
checkpoints of its commands and then those of a network boot, in their order and up to the first
that fails, and closes the console if it has opened one. It succeeds exactly when every checkpoint
is passed, and otherwise its fault is that of the first that fails, under the names of that. -/
theorem provision_stops_at_first_failure (run : Tasks.Run start happenings tasks)
    (hp : start.programs[i]? = some (p.provision host request ip).run) :
    (∃ rest last outcome, Tasks.Run tasks rest last ∧
      last.programs[i]? = some (.done outcome)) ∧
    ∃ mac console readOnly talk more outcome,
      let points := p.commandPoints host request ip mac ++
        p.networkPoints host request ip console readOnly
      Closed host console talk (Tasks.own i happenings ++ more) ∧
      talk.map (·.action) <+: points.map (·.action) ∧
      (Tasks.own i happenings).filterMap (·.action.command?) <+: p.commands host request ip mac ∧
      ((∃ partition, outcome = .ok partition) ↔ List.Forall₂ Checkpoint.Passed points talk) ∧
      (∀ partition, outcome = .ok partition → partition = p.partition host request ip mac) ∧
      (∀ fault, outcome = .error fault → Checkpoint.FirstFailure points talk fault) ∧
      ∀ ended, tasks.programs[i]? = some (.done ended) → more = [] ∧ ended = outcome := by
  -- what is left of it only acts on hosts, so it never has to wait
  obtain ⟨q, hq, hremote⟩ := run.uses hp (p.provision_uses host request ip)
  refine ⟨Tasks.exists_end hq hremote fun action ha shared => shared.answer_remote ha i, ?_⟩
  obtain ⟨more, outcome, ⟨mac, hcourse⟩, hended⟩ :=
    run.leads hp (p.provision_leads host request ip)
  have hcommands := hcourse.commands_prefix (List.prefix_append _ _)
  rw [p.commandPoints_commands] at hcommands
  obtain ⟨console, readOnly, talk, hpassage, hclosed, hpartition⟩ := hcourse
  refine ⟨mac, console, readOnly, talk, more, outcome, hclosed, hpassage.isPrefix, hcommands, ?_,
    hpartition, ?_, hended⟩
  · -- there is no fault exactly when all checkpoints are passed
    rw [← hpassage.eq_none_iff]
    cases outcome with
    | ok partition => exact iff_of_true ⟨partition, rfl⟩ rfl
    | error fault => exact iff_of_false nofun nofun
  · rintro fault rfl
    exact hpassage.firstFailure rfl

/-- How hosts answer that let a provisioning of `web` for the workload `shop` succeed. -/
def Sample.willing : (action : Action) → Option action.Reply
  | .run _ command =>
    some <| .ok <|
      if command = "/opt/hpvm/bin/vparboot -p web" then "Successful start initiation"
      else if command = "/opt/hpvm/bin/vparstatus -p web -v" then
        "network:avio_lan:0,1,0x7e6b5a43e9e4:vswitch:mgmt:portid:3\n"
      else "character device /dev/vg00/rlv-shop"
  | .openConsole _ => some (.ok 7)
  | .send _ _ => some (.ok ())
  | .waitForPrompt _ _ _ => some (.ok [])
  | .closeConsole _ => some (.ok ())
  | _ => none

/-- With such hosts every checkpoint is passed. -/
theorem provision_stops_at_first_failure_sample :
    let p := Sample.controller.provisioner
    let request := Sample.request "web" "shop"
    let alone : Tasks (Outcome Partition) :=
      ⟨.ofStore Sample.store, [(p.provision "10.0.0.11" request "10.0.1.5").run]⟩
    ∃ mac console readOnly talk partition,
      (alone.goOn Sample.willing 0).2.programs = [.done (.ok partition)] ∧
      List.Forall₂ Checkpoint.Passed
        (p.commandPoints "10.0.0.11" request "10.0.1.5" mac ++
          p.networkPoints "10.0.0.11" request "10.0.1.5" console readOnly) talk := by
  intro p request alone
  have hstart : alone.programs[0]? = some (p.provision "10.0.0.11" request "10.0.1.5").run := rfl
  have hresults : (alone.goOn Sample.willing 0).2.programs.map
      (fun program => program.result?.map (·.isOk)) = [some true] := by decide +kernel
  -- the run is seen to end well, so every checkpoint was passed
  obtain ⟨program, hprogram, hresult⟩ := List.map_eq_singleton_iff.mp hresults
  obtain ⟨outcome, houtcome, hok⟩ := Option.map_eq_some_iff.mp hresult
  obtain rfl := Program.result?_eq_some_iff.mp houtcome
  rcases outcome with fault | partition
  · exact nomatch hok
  obtain ⟨-, mac, console, readOnly, talk, more, outcome, -, -, -, hpassed, -, -, hended⟩ :=
    provision_stops_at_first_failure (Tasks.goOn_run Sample.willing 0 alone) hstart
  obtain ⟨-, rfl⟩ := hended (.ok partition) (by rw [hprogram]; rfl)
  exact ⟨mac, console, readOnly, talk, partition, hprogram, hpassed.mp ⟨partition, rfl⟩⟩

end VparFleet
