import VparFleet.Proofs.Controller.Provenance
import VparFleet.Proofs.Provisioning.NetworkBoot
import VparFleet.Proofs.Shell.LineTemplates

/-!
# What is sent to hosts

Every command line and every line for a console is a line of a template of the settings. What a
spawn sends comes from a request without flaws, and from a report through the normal form of
hardware addresses. What other calls send comes from placements, and these go back to spawns.

* `Controller.commandTemplates`, `Controller.consoleTemplates`: the templates.
* `Controller.Careful`: an action sends nothing but lines of them.
* `spawn_careful`: a spawn is careful; `Call.program_careful`: so are all calls, if names and
  workloads of the placements that they find are safe.
* `sent_text_templated`: every run that starts without placements.
-/

namespace VparFleet

open Program

/-! ## Hardware addresses -/

namespace Report

/-- A hexadecimal digit in upper case is one that a slot admits. -/
theorem isUpperHexDigit_toUpper {c : Char} (h : isHexDigit c = true) :
    isUpperHexDigit c.toUpper = true := by
  have hlow : c.toNat < 128 := by
    simp only [isHexDigit, Char.isDigit, Bool.or_eq_true, Bool.and_eq_true, decide_eq_true_eq,
      Char.le_def, UInt32.le_iff_toNat_le, ge_iff_le] at h
    have h9 : '9'.val.toNat = 57 := rfl
    have hf : 'f'.val.toNat = 102 := rfl
    have hF : 'F'.val.toNat = 70 := rfl
    show c.val.toNat < 128
    omega
  -- all of them are ASCII, and there every case is looked at
  have hall : ∀ n : Fin 128, isHexDigit (Char.ofNat n) = true →
      isUpperHexDigit (Char.ofNat n).toUpper = true := by decide +kernel
  rw [← Char.ofNat_toNat c] at h ⊢
  exact hall ⟨c.toNat, hlow⟩ h

/-- The normal form of a hardware address is one that a slot admits. -/
theorem admits_of_normalMac? {token : List Char} {mac : String} (h : normalMac? token = some mac) :
    Slot.mac.Admits mac := by
  unfold normalMac? at h
  split at h
  · next x digits =>
    split at h
    · next hdigits =>
      obtain rfl := Option.some.inj h
      simp only [Bool.and_eq_true, Bool.not_eq_true'] at hdigits
      refine ⟨digits.map Char.toUpper, ?_, ?_, rfl⟩
      · simpa using hdigits.1.2
      · rw [List.all_map, List.all_eq_true]
        exact fun c hc => isUpperHexDigit_toUpper (List.all_eq_true.mp hdigits.2 c hc)
    · exact nomatch h
  · exact nomatch h

/-- An address that is read from a report is in its normal form. -/
theorem admits_of_managementMac? {text : List Char} {network mac : String}
    (h : managementMac? text network = some mac) : Slot.mac.Admits mac := by
  obtain ⟨token, -, htoken⟩ := List.exists_of_findSome?_eq_some h
  obtain ⟨address, -, haddress⟩ := Option.bind_eq_some_iff.mp htoken
  obtain ⟨field, -, hfield⟩ := Option.bind_eq_some_iff.mp haddress
  exact admits_of_normalMac? hfield

end Report

namespace Controller

/-! ## Templates of a controller -/

section Templates

open Template

variable (c : Controller)

/-- The templates of all command lines. -/
def commandTemplates : List Template :=
  let node := c.provisioner.node
  let server := c.provisioner.server
  [[.text "/opt/hpvm/bin/vparstatus -A"], [.text ("vgdisplay " ++ c.monitor.volumeGroup)],
    [.text "/opt/ignite/bin/ignite client list -m xml -l details"],
    [.text "/opt/hpvm/bin/vparstatus"], partitionDetail,
    createVolume node.volumeGroup, removeVolume node.volumeGroup, createPartition node,
    bootPartition, resetPartition, removePartition, appendBootEntry server,
    createClientConfig server, writeClientConfig server]

/-- The templates of all that is sent to a console. -/
def consoleTemplates : List Template :=
  let server := c.provisioner.server
  [attachLine ++ [.text "\n"], [.text "CO\r"], [.text "\x05cf"], [.text "\r"],
    networkLine server.profile server.address ++ [.text "\r"],
    bootFileLine server.profile server.bootFile ++ [.text "\r"],
    bootLine server.profile ++ [.text "\r"]]

/-- No template writes an image outside of a quoted word. -/
theorem templates_quoteImages :
    (∀ t ∈ c.commandTemplates, t.QuotesImages) ∧ ∀ t ∈ c.consoleTemplates, t.QuotesImages := by
  -- there is one template with images
  have hcommands : ∀ t ∈ c.commandTemplates,
      t = writeClientConfig c.provisioner.server ∨ .slot .image ∉ t := by
    simp [commandTemplates, partitionDetail, createVolume, removeVolume, createPartition,
      bootPartition, resetPartition, removePartition, appendBootEntry, appendLines, appendLine,
      quoted, quotePiece, createClientConfig, clientFile, clientDir, List.intercalate]
  have hconsole : ∀ t ∈ c.consoleTemplates, .slot .image ∉ t := by
    simp [consoleTemplates, attachLine, networkLine, bootFileLine, bootLine]
  refine ⟨fun t ht => ?_, fun t ht => quotesImages_of_notMem (hconsole t ht)⟩
  rcases hcommands t ht with rfl | hnone
  · exact writeClientConfig_quotesImages _
  · exact quotesImages_of_notMem hnone

/-- A line of one of some templates, with every name of an image in a word that is quoted as a
whole. -/
def Templated (templates : List Template) (line : String) : Prop :=
  ∃ t ∈ templates, t.Fills line ∧ t.QuotesImages

/-- An action sends nothing but lines of the templates. -/
def Careful : Action → Prop
  | .run _ command => Templated c.commandTemplates command
  | .send _ bytes => ∃ line, Templated c.consoleTemplates line ∧ bytes = Text.Utf8.encode line
  | _ => True

end Templates

variable {c : Controller} {request : SpawnRequest} {name workload host : String}

theorem Templated.command {t : Template} {line : String} (ht : t ∈ c.commandTemplates)
    (h : t.Fills line) : Templated c.commandTemplates line :=
  ⟨t, ht, h, c.templates_quoteImages.1 t ht⟩

theorem Templated.console {t : Template} {line : String} (ht : t ∈ c.consoleTemplates)
    (h : t.Fills line) : Templated c.consoleTemplates line :=
  ⟨t, ht, h, c.templates_quoteImages.2 t ht⟩

/-! ## Spawns -/

/-- What a spawn writes into lines is as it has to be. -/
structure Sound (request : SpawnRequest) : Prop where
  name : Slot.name.Admits request.name
  workload : Slot.workload.Admits request.resources.workload
  image : Slot.image.Admits request.image
  gateway : Slot.address.Admits request.gateway
  netmask : Slot.address.Admits request.netmask

/-- A request without flaws writes only what its slots admit. -/
theorem sound_of_validate (hv : request.validate = .ok ()) : Sound request := by
  obtain ⟨hname, hworkload, -, himage, hgateway, hnetmask⟩ := request.validate_eq_ok_iff.mp hv
  exact ⟨isShellSafe_iff.mp hname, isShellSafe_iff.mp hworkload, isImageName_iff.mp himage,
    Ipv4.isLiteral_iff.mp hgateway, Ipv4.isLiteral_iff.mp hnetmask⟩

/-- The management address of a spawn is an address. -/
theorem admits_of_needManagementIp {ip : String} (h : c.needManagementIp request = .ok ip) :
    Slot.address.Admits ip := by
  unfold needManagementIp at h
  split at h
  · next found hfound =>
    obtain rfl := Except.ok.inj h
    -- the first that is one is taken, so it is one
    exact Ipv4.isLiteral_iff.mp (List.find?_some hfound)
  · exact nomatch h

theorem definePartition_careful (hs : Sound request) :
    (c.provisioner.definePartition host request).run.Uses c.Careful := by
  refine (c.provisioner.definePartition_takes host request).uses.mono ?_
  rintro action ⟨point, hpoint, rfl⟩
  rcases List.mem_pair.mp hpoint with rfl | rfl
  · exact .command (by simp [commandTemplates]) (Template.createVolume_fills _ _ hs.workload)
  · have hfills := Template.createPartition_fills c.provisioner.node request.resources.memory
      request.resources.cpus hs.name hs.workload
    rw [Command.rawVolumePath_eq] at hfills
    exact .command (by simp [commandTemplates]) hfills

theorem startAcknowledged_careful (hs : Sound request) :
    (Provisioner.startAcknowledged host request.name).run.Uses c.Careful := by
  refine (Provisioner.startAcknowledged_takes host request).uses.mono ?_
  rintro action ⟨point, hpoint, rfl⟩
  rw [List.mem_singleton.mp hpoint]
  exact .command (by simp [commandTemplates]) (Template.bootPartition_fills hs.name)

theorem needManagementMac_careful (hs : Sound request) :
    (c.provisioner.needManagementMac host request.name).run.Uses c.Careful := by
  refine Leads.uses (c.provisioner.needManagementMac_leads host request) ?_
  rintro course outcome ⟨mac, hpassage, -⟩ exchange hmem
  obtain ⟨point, hpoint, haction⟩ := hpassage.exists_point hmem
  rw [haction, List.mem_singleton.mp hpoint]
  exact .command (by simp [commandTemplates]) (Template.partitionDetail_fills hs.name)

/-- The hardware address that a spawn goes on with is in its normal form. -/
theorem needManagementMac_admitted :
    (c.provisioner.needManagementMac host request.name).run.Leads fun _ outcome =>
      ∀ mac, outcome = .ok mac → Slot.mac.Admits mac := by
  refine (c.provisioner.needManagementMac_leads host request).mono ?_
  rintro course outcome ⟨mac, hpassage, hmac⟩ found rfl
  obtain rfl := hmac found rfl
  rcases hpassage.first with ⟨_, _, -, -, hfault⟩ | ⟨reply, rest, -, ⟨report, -, hread⟩, -, -⟩
  · exact nomatch hfault
  · exact Report.admits_of_managementMac? hread

theorem register_careful (hs : Sound request) {ip mac : String} (hi : Slot.address.Admits ip)
    (hm : Slot.mac.Admits mac) :
    (c.provisioner.register (Provisioner.registration request ip mac)).run.Uses c.Careful := by
  refine (c.provisioner.register_takes request ip mac).uses.mono ?_
  rintro action ⟨point, hpoint, rfl⟩
  simp only [Provisioner.registerPoints, List.mem_cons, List.not_mem_nil, or_false] at hpoint
  rcases hpoint with rfl | rfl | rfl
  · exact .command (by simp [commandTemplates])
      (Template.appendBootEntry_fills _ hs.name hm hi hs.gateway hs.netmask)
  · exact .command (by simp [commandTemplates]) (Template.createClientConfig_fills _ hm)
  · exact .command (by simp [commandTemplates])
      (Template.writeClientConfig_fills _ hm hs.name hs.image)

/-- The lines for the console of a partition. -/
theorem bootPlan_templated (hs : Sound request) {ip : String} (hi : Slot.address.Admits ip)
    {readOnly : Bool} {bytes : List UInt8}
    (h : bytes ∈ (c.provisioner.bootPlan request ip).lines readOnly) :
    ∃ line, Templated c.consoleTemplates line ∧ bytes = Text.Utf8.encode line := by
  have hkeys : BootPlan.accessKeys = Text.Utf8.encode "\x05cf" := by decide +kernel
  -- the keys and the line ends are lines of their own
  have hfixed {text : String} (ht : [.text text] ∈ c.consoleTemplates) :
      Templated c.consoleTemplates text :=
    .console ht (Template.fills_text text)
  have hattach := (Template.attachLine_fills (c.provisioner.bootPlan request ip) hs.name).append
    (Template.fills_text "\n")
  have hnetwork := (Template.networkLine_fills (c.provisioner.bootPlan request ip) hi hs.gateway
    hs.netmask).append (Template.fills_text "\r")
  have hbootFile := (Template.bootFileLine_fills (c.provisioner.bootPlan request ip)).append
    (Template.fills_text "\r")
  have hboot := (Template.bootLine_fills (c.provisioner.bootPlan request ip)).append
    (Template.fills_text "\r")
  simp only [BootPlan.lines, List.mem_append, List.mem_cons, List.not_mem_nil, or_false] at h
  rcases h with ((rfl | rfl) | haccess) | rfl | rfl | rfl
  · exact ⟨_, .console (by simp [consoleTemplates]) hattach, rfl⟩
  · exact ⟨_, hfixed (by simp [consoleTemplates]), rfl⟩
  · cases readOnly with
    | false => exact nomatch haccess
    | true =>
      rcases List.mem_pair.mp haccess with rfl | rfl
      · exact ⟨_, hfixed (by simp [consoleTemplates]), hkeys⟩
      · exact ⟨_, hfixed (by simp [consoleTemplates]), rfl⟩
  · exact ⟨_, .console (by simp [consoleTemplates, Provisioner.bootPlan]) hnetwork, rfl⟩
  · exact ⟨_, .console (by simp [consoleTemplates, Provisioner.bootPlan]) hbootFile, rfl⟩
  · exact ⟨_, .console (by simp [consoleTemplates, Provisioner.bootPlan]) hboot, rfl⟩

theorem networkBoot_careful (hs : Sound request) {ip : String} (hi : Slot.address.Admits ip) :
    (c.provisioner.networkBoot host (c.provisioner.bootPlan request ip)).run.Uses c.Careful := by
  refine Leads.uses (networkBoot_leads _ _ _ _ _) ?_
  rintro course outcome hcourse exchange hmem
  rcases hcourse.opened_or_failed with
    ⟨fault, rfl, -⟩ | ⟨console, readOnly, talk, closing, rfl, htalk⟩
  · -- a console that does not open is sent nothing
    rw [List.mem_singleton.mp hmem]
    exact trivial
  · simp only [List.cons_append, List.mem_cons, List.mem_append, List.not_mem_nil, or_false] at hmem
    rcases hmem with rfl | hmem | rfl
    · exact trivial
    · obtain ⟨action, reply⟩ := exchange
      rcases htalk.talks _ hmem with ⟨bytes, rfl⟩ | ⟨limit, rfl⟩
      · -- what is sent in a talk are lines of the plan
        exact bootPlan_templated hs hi
          (htalk.sent.subset (List.mem_filterMap.mpr ⟨_, hmem, rfl⟩))
      · exact trivial
    · exact trivial

theorem bringUp_careful (hs : Sound request) {ip : String} (hi : Slot.address.Admits ip)
    (defined : Provisioner.Defined) :
    (c.provisioner.bringUp host request ip defined).run.Uses c.Careful := by
  have hread : (Operation.atStep "read management mac"
      (c.provisioner.needManagementMac host request.name)).run.Leads fun _ outcome =>
        ∀ mac, outcome = .ok mac → Slot.mac.Admits mac := by
    rw [Operation.run_atStep, leads_bind]
    refine needManagementMac_admitted.mono fun _ outcome hadmitted => ?_
    cases outcome with
    | error fault => exact nofun
    | ok mac => exact hadmitted
  -- the hardware address comes from a report, so what follows depends on what was read
  refine (startAcknowledged_careful hs).atStep.andThen fun _ => ?_
  refine Uses.andThen uses_done fun life => ?_
  refine Operation.uses_andThen (needManagementMac_careful hs).atStep hread fun mac hm => ?_
  exact (register_careful hs hi hm).atStep.andThen fun _ =>
    Uses.andThen uses_done fun life =>
    (networkBoot_careful hs hi).atStep.andThen fun _ =>
    Uses.andThen uses_done fun _ => uses_done

/-- A spawn that has its name sends nothing but lines of the templates. -/
theorem spawnHeld_careful (hs : Sound request) : (c.spawnHeld request).run.Uses c.Careful := by
  have hrefuse : (refusePlaced request.name).run.Uses c.Careful :=
    Uses.andThen ⟨trivial, fun _ => uses_done⟩ fun placed => by cases placed <;> exact uses_done
  have hplace : (place request).run.Uses c.Careful := by
    refine Uses.andThen ⟨trivial, fun _ => uses_done⟩ fun nodes => ?_
    cases request.resources.choose nodes <;> exact uses_done
  rw [spawnHeld, Operation.run_bind, Operation.run_ofOutcome, done_bind]
  cases hip : c.needManagementIp request with
  | error fault => exact uses_done
  | ok ip =>
    refine hrefuse.andThen fun _ => hplace.andThen fun node => ?_
    refine (definePartition_careful hs).andThen fun defined => ?_
    refine Uses.andThen ⟨trivial, fun _ => uses_done⟩ fun now => ?_
    refine Uses.andThen ⟨trivial, fun _ => uses_done⟩ fun _ => ?_
    exact bringUp_careful hs (admits_of_needManagementIp hip) defined

/-- A spawn sends nothing but lines of the templates. -/
theorem spawn_careful : (c.spawn request).run.Uses c.Careful := by
  rw [spawn, Operation.run_bind, Operation.run_ofOutcome, done_bind]
  cases hv : request.validate with
  -- a request with a flaw does nothing at all
  | error fault => exact uses_done
  | ok _ =>
    exact Uses.between (uses_perform.mpr trivial) (spawnHeld_careful (sound_of_validate hv))
      (uses_perform.mpr trivial)

/-! ## Other calls -/

variable {past : List Exchange} {action : Action}

/-- Names and workloads of all placements that were found are safe. -/
def FoundSafe (past : List Exchange) : Prop :=
  ∀ name placement, ⟨.findPlacement name, .ok (some placement)⟩ ∈ past →
    Slot.name.Admits name ∧ Slot.workload.Admits placement.workload

/-- A scan sends one command, which has no slots. -/
theorem careful_of_isScan (h : IsScan action) : c.Careful action := by
  rcases h with rfl | ⟨host, rfl⟩
  · exact trivial
  · exact .command (by simp [commandTemplates, Command.partitionSummary, Command.vparstatus])
      (Template.fills_text _)

/-- So does a survey of the fleet, with three. -/
theorem careful_of_surveys (h : c.monitor.Surveys action) : c.Careful action := by
  cases h with
  | inventory =>
    exact .command (by simp [commandTemplates, Monitor.inventoryQuestion]) (Template.fills_text _)
  | capacity =>
    exact .command (by simp [commandTemplates, Monitor.capacityQuestion]) (Template.fills_text _)
  | volumeGroup =>
    exact .command (by simp [commandTemplates, Monitor.groupQuestion]) (Template.fills_text _)
  | clock | findNode | addNode | updateNode => exact trivial

/-- A removal writes a name and a workload, and both have to be safe. -/
theorem careful_of_removal {command : String} (hn : Slot.name.Admits name)
    (hw : Slot.workload.Admits workload)
    (h : command ∈ c.provisioner.removalCommands name workload) :
    c.Careful (.run host command) := by
  simp only [Provisioner.removalCommands, List.mem_cons, List.not_mem_nil, or_false] at h
  rcases h with rfl | rfl | rfl | rfl
  · exact .command (by simp [commandTemplates]) (Template.resetPartition_fills hn)
  · exact .command (by simp [commandTemplates]) (Template.partitionDetail_fills hn)
  · exact .command (by simp [commandTemplates]) (Template.removePartition_fills hn)
  · exact .command (by simp [commandTemplates]) (Template.removeVolume_fills _ hw)

/-- What a removal writes is the name and the workload of a placement that it has found. -/
theorem DestroyRule.careful (h : c.DestroyRule name past action) (hf : FoundSafe past) :
    c.Careful action := by
  cases action with
  | run host command =>
    rcases h.2 with rfl | ⟨placement, hfound, rfl, hmem⟩
    · exact careful_of_isScan (Or.inr ⟨host, rfl⟩)
    · obtain ⟨hn, hw⟩ := hf name placement hfound
      exact careful_of_removal hn hw hmem
  | send console bytes => exact nomatch h.2
  | _ => exact trivial

/-- A question for one partition sends the name of a placement that it has found. -/
theorem inspect_careful :
    (inspect name).run.Obeys (fun past action => FoundSafe past → c.Careful action)
      (fun _ _ => True) [] := by
  -- with a placement under the name the name is safe, and it is the only one that is sent
  have hplacement : (needPlacement name).run.Obeys
      (fun past action => FoundSafe past → c.Careful action)
      (fun past outcome => ∀ placement, outcome = .ok placement →
        ⟨.findPlacement name, .ok (some placement)⟩ ∈ past) [] := by
    refine ⟨fun _ => trivial, fun reply => ?_⟩
    rcases reply with fault | _ | placement
    · exact nofun
    · exact nofun
    · intro other hother
      obtain rfl := Except.ok.inj hother
      exact List.mem_cons_self
  refine obeys_run_bind _ hplacement ?_ fun _ _ _ => trivial
  intro past placement hfound
  refine obeys_run_bind (fun _ _ => True) ?_ ?_ fun _ _ _ => trivial
  · refine ⟨fun hf => ?_, fun reply => ?_⟩
    · obtain ⟨hn, hw⟩ := hf name placement (hfound placement rfl)
      exact careful_of_removal hn hw (by simp [Provisioner.removalCommands])
    · cases reply <;> exact trivial
  · intro past detail _
    dsimp only
    split <;> exact trivial

theorem update_careful : c.monitor.update.run.Uses c.Careful := by
  refine c.monitor.update_obeys.uses fun past action h => ?_
  cases h with
  | refreshes ho hc => exact careful_of_surveys (c.monitor.refresh_surveys.reaches hc).2.1
  | begins | waits | looksAgain | reads | keeps | counts | leaves => exact trivial

/-- Totals are answered with commands that have no slots. -/
theorem stats_careful (fresh : Bool) : (c.stats fresh).run.Uses c.Careful := by
  have hupdate : (c.monitor.update >>= fun report => pure report.stats).run.Uses c.Careful :=
    update_careful.andThen fun _ => uses_done
  cases fresh with
  | true => exact hupdate
  | false =>
    refine Uses.andThen ⟨trivial, fun _ => uses_done⟩ fun known => ?_
    cases known with
    | none => exact hupdate
    | some report => exact uses_done

end Controller

/-! ## Runs -/

open Controller

/-- Every call is careful as long as the placements that it finds are safe. -/
theorem Call.program_careful (c : Controller) (call : Call) :
    (call.program c).Obeys (fun past action => FoundSafe past → c.Careful action)
      (fun _ _ => True) [] := by
  -- most calls are careful in any case
  have always {α : Type} {p : Program α} (h : p.Uses c.Careful) :
      p.Obeys (fun past action => FoundSafe past → c.Careful action) (fun _ _ => True) [] :=
    h.obeys (fun _ _ _ ha _ => ha) (fun _ _ _ _ _ => trivial) trivial
  have hlist : Controller.list.run.Uses c.Careful := list_uses.mono fun _ => careful_of_isScan
  cases call with
  | spawn request => exact andAnswer (always spawn_careful)
  | destroy name =>
    exact andAnswer (destroy_obeys.mono (fun _ _ h => h.careful) fun _ _ h => h)
  | inspect name => exact andAnswer inspect_careful
  | list => exact andAnswer (always hlist)
  | count => exact andAnswer (always (hlist.andThen fun _ => uses_done))
  | exists? name => exact andAnswer (always (hlist.andThen fun _ => uses_done))
  | stats fresh => exact andAnswer (always (stats_careful fresh))

namespace Tasks

variable {c : Controller} {store : Store} {calls : List Call} {happenings : List Happening}
  {tasks : Tasks Call.Answer}

/-- Placements that are found go back to spawns, so they are safe. -/
theorem Run.found_safe (run : Run (c.serve store calls) happenings tasks)
    (hempty : store.placements = []) (i : Nat) : FoundSafe (own i happenings) := by
  intro name placement hmem
  obtain ⟨j, request, _, _, _, _, -, hv, rfl, hworkload, -⟩ := run.found_defined hempty hmem
  rw [← hworkload]
  exact ⟨(sound_of_validate hv).name, (sound_of_validate hv).workload⟩

/-- In every run that starts without placements, with any calls and any answers, nothing is sent to
a host but lines of the templates. -/
theorem sent_text_templated (run : Run (c.serve store calls) happenings tasks)
    (hempty : store.placements = []) : ∀ x ∈ happenings, c.Careful x.action := by
  intro x hx
  obtain ⟨first, second, rfl⟩ := List.append_of_mem hx
  obtain ⟨call, hcall, -⟩ := run.rule_at
  obtain ⟨before, after, hfirst, -, -⟩ := run.split_at
  have hprogram : (c.serve store calls).programs[x.task]? = some (call.program c) := by
    rw [serve_programs, hcall]
    rfl
  exact run.keeps_at hprogram (call.program_careful c) (hfirst.found_safe hempty x.task)

end Tasks

/-- With hosts that let a spawn succeed, it sends seven commands and five lines for the console, all
of them of the templates. -/
theorem sent_text_templated_sample :
    let hosts : (action : Action) → Option action.Reply
      | .clock => some ⟨19782, 0, 0⟩
      | action => Sample.willing action
    let start := Sample.controller.serve Sample.store [.spawn (Sample.request "web" "shop")]
    ((start.goOn hosts 0).1.filterMap (·.action.command?)).length = 7 ∧
      ((start.goOn hosts 0).1.filterMap (·.action.sent?)).length = 5 ∧
      ∀ x ∈ (start.goOn hosts 0).1, Sample.controller.Careful x.action := by
  intro hosts start
  have hsent : ((start.goOn hosts 0).1.filterMap (·.action.command?)).length = 7 ∧
      ((start.goOn hosts 0).1.filterMap (·.action.sent?)).length = 5 := by decide +kernel
  exact ⟨hsent.1, hsent.2, Tasks.sent_text_templated (Tasks.goOn_run hosts 0 start) rfl⟩

end VparFleet
