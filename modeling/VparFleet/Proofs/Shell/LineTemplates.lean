import VparFleet.Console.Firmware
import VparFleet.Proofs.Shell.Template

/-!
# Templates of all lines

Every command line, and every line for a console, is a line of a template that depends on the
settings alone.

* `Template.appendLines`: lines for a file, each as one word.
* `Template.partitionDetail_fills`, …: the lines of each template.
* `Template.writeClientConfig_quotesImages`: the name of an image is a part of such a word.
-/

namespace VparFleet

namespace Template

open Command Slot

variable {name workload mac ip gateway netmask image : String}

/-! ## Partitions and volumes -/

def partitionDetail : Template :=
  [.text "/opt/hpvm/bin/vparstatus -p ", .slot .name, .text " -v"]

/-- The template is that of the command, for every safe name. -/
theorem partitionDetail_fills (hn : Slot.name.Admits name) :
    Fills partitionDetail (Command.partitionDetail name) :=
  fills_around _ _ hn

def bootPartition : Template :=
  [.text "/opt/hpvm/bin/vparboot -p ", .slot .name]

theorem bootPartition_fills (hn : Slot.name.Admits name) :
    Fills bootPartition (Command.bootPartition name) :=
  (fills_text _).append (fills_slot hn)

def resetPartition : Template :=
  [.text "/opt/hpvm/bin/vparreset -f -p ", .slot .name, .text " -d"]

theorem resetPartition_fills (hn : Slot.name.Admits name) :
    Fills resetPartition (Command.resetPartition name) :=
  fills_around _ _ hn

def removePartition : Template :=
  [.text "/opt/hpvm/bin/vparremove -p ", .slot .name, .text " -f"]

theorem removePartition_fills (hn : Slot.name.Admits name) :
    Fills removePartition (Command.removePartition name) :=
  fills_around _ _ hn

def createVolume (group : String) : Template :=
  [.text "lvcreate -L ", .slot .number, .text " -n ", .text "lv-", .slot .workload, .text " ",
    .text group]

theorem createVolume_fills (group : String) (gigabytes : Nat) (hw : Slot.workload.Admits workload) :
    Fills (createVolume group) (Command.createVolume group workload gigabytes) :=
  (((((fills_text _).append (fills_number (megabytes gigabytes))).append (fills_text _)).append
    ((fills_text _).append (fills_slot hw))).append (fills_text _)).append (fills_text group)

def removeVolume (group : String) : Template :=
  [.text "lvremove -f ", .text group, .text "/", .text "lv-", .slot .workload]

theorem removeVolume_fills (group : String) (hw : Slot.workload.Admits workload) :
    Fills (removeVolume group) (Command.removeVolume group workload) :=
  (fills_text _).append
    (((fills_text group).append (fills_text _)).append ((fills_text _).append (fills_slot hw)))

def createPartition (node : NodeSettings) : Template :=
  [.text "/opt/hpvm/bin/vparcreate -p ", .slot .name, .text " -a mem::", .slot .number,
    .text " -a cpu::", .slot .number, .text " -a disk:avio_stor::lv:", .text node.volumeGroup,
    .text "/r", .text "lv-", .slot .workload, .text " -a network:avio_lan::vswitch:",
    .text node.managementNetwork, .text " -a network:avio_lan::vswitch:",
    .text node.productionNetwork]

/-- The template of a definition is that of its command, for every safe name and workload. -/
theorem createPartition_fills (node : NodeSettings) (memory cpus : Nat)
    (hn : Slot.name.Admits name) (hw : Slot.workload.Admits workload) :
    Fills (createPartition node) (Command.createPartition node name memory cpus
      (rawVolumePath node.volumeGroup workload)) := by
  -- the path of the disk ends with the workload
  have hraw : Fills [.text node.volumeGroup, .text "/r", .text "lv-", .slot .workload]
      (rawVolumePath node.volumeGroup workload) :=
    ((fills_text _).append (fills_text _)).append ((fills_text _).append (fills_slot hw))
  have hpartition := (((((fills_text "/opt/hpvm/bin/vparcreate -p ").append (fills_slot hn)).append
    (fills_text " -a mem::")).append (fills_number memory)).append
    (fills_text " -a cpu::")).append (fills_number cpus)
  have hdisk := (fills_text " -a disk:avio_stor::lv:").append hraw
  have hnetwork (network : String) :=
    (fills_text " -a network:avio_lan::vswitch:").append (fills_text network)
  exact ((hpartition.append hdisk).append (hnetwork _)).append (hnetwork _)

/-! ## Files of the provisioning server -/

def appendLine (file line : Template) : Template :=
  [.text "echo "] ++ line.quoted ++ [.text " >> "] ++ file

def appendLines (file : Template) (lines : List Template) : Template :=
  List.intercalate [.text " && "] (lines.map (appendLine file))

/-- Lines that fill their templates are appended by a line that fills this one. -/
theorem appendLines_fills {file : Template} {path : String} {ts : List Template}
    {lines : List String} (hf : Fills file path) (h : List.Forall₂ Fills ts lines) :
    Fills (appendLines file ts) (Command.appendLines path lines) := by
  refine fills_intercalate " && " ?_
  rw [List.forall₂_map_left_iff, List.forall₂_map_right_iff]
  exact h.imp fun t line ht =>
    (((fills_text _).append ht.quoted).append (fills_text _)).append hf

def appendBootEntry (server : ServerSettings) : Template :=
  appendLines [.text server.bootTable]
    [[.slot .name, .text ":\\"], [.text "\ttc=ignite-defaults:\\"],
      [.text "\tha=", .slot .mac, .text ":\\"], [.text s!"\tbf={server.bootFile}:\\"],
      [.text "\tgw=", .slot .address, .text ":\\"], [.text "\tip=", .slot .address, .text ":\\"],
      [.text "\tsm=", .slot .address]]

/-- A boot table entry is filled with a safe name and with addresses. -/
theorem appendBootEntry_fills (server : ServerSettings) (hn : Slot.name.Admits name)
    (hm : Slot.mac.Admits mac) (hi : Slot.address.Admits ip) (hg : Slot.address.Admits gateway)
    (ht : Slot.address.Admits netmask) :
    Fills (appendBootEntry server)
      (Command.appendBootEntry server ⟨name, mac, ip, gateway, netmask⟩) := by
  refine appendLines_fills (fills_text _) (.cons ?_ (.cons (fills_text _)
    (.cons (fills_around _ _ hm) (.cons (fills_text _) (.cons (fills_around _ _ hg)
    (.cons (fills_around _ _ hi) (.cons ?_ .nil)))))))
  · exact (fills_slot hn).append (fills_text _)
  · exact (fills_text _).append (fills_slot ht)

def clientDir (server : ServerSettings) : Template :=
  [.text server.clientsDir, .text "/", .slot .mac]

theorem clientDir_fills (server : ServerSettings) (hm : Slot.mac.Admits mac) :
    Fills (clientDir server) (Command.clientDir server mac) :=
  ((fills_text _).append (fills_text _)).append (fills_slot hm)

def clientFile (server : ServerSettings) : Template :=
  clientDir server ++ [.text "/config"]

theorem clientFile_fills (server : ServerSettings) (hm : Slot.mac.Admits mac) :
    Fills (clientFile server) (Command.clientFile server mac) :=
  (clientDir_fills server hm).append (fills_text _)

def createClientConfig (server : ServerSettings) : Template :=
  [.text "mkdir "] ++ clientDir server ++ [.text " && touch "] ++ clientFile server

theorem createClientConfig_fills (server : ServerSettings) (hm : Slot.mac.Admits mac) :
    Fills (createClientConfig server) (Command.createClientConfig server mac) :=
  (((fills_text _).append (clientDir_fills server hm)).append (fills_text _)).append
    (clientFile_fills server hm)

def writeClientConfig (server : ServerSettings) : Template :=
  appendLines (clientFile server)
    [[.text "cfg \"", .slot .image, .text "\"=TRUE"], [.text "_hp_cfg_detail_level=\"v\""],
      [.text "final system_name=\"", .slot .name, .text "\""],
      [.text s!"_hp_keyboard=\"{server.keyboard}\""],
      [.text s!"root_password=\"{server.passwordHash}\""],
      [.text s!"_hp_root_disk=\"{server.rootDisk}\""], [.text "_my_second_disk_path=\"\""]]

/-- The configuration of a client is filled with a safe name and the name of an image. -/
theorem writeClientConfig_fills (server : ServerSettings) (hm : Slot.mac.Admits mac)
    (hn : Slot.name.Admits name) (hi : Slot.image.Admits image) :
    Fills (writeClientConfig server) (Command.writeClientConfig server mac name image) :=
  appendLines_fills (clientFile_fills server hm) (.cons (fills_around _ _ hi)
    (.cons (fills_text _) (.cons (fills_around _ _ hn) (.cons (fills_text _) (.cons (fills_text _)
    (.cons (fills_text _) (.cons (fills_text _) .nil)))))))

/-- The image stands in the first line of the file, inside of the quotes around it. -/
theorem writeClientConfig_quotesImages (server : ServerSettings) :
    QuotesImages (writeClientConfig server) := by
  -- the fixed texts on either side have no single quote
  have hopening : ∀ c ∈ (quoteText "cfg \"").toList, c ≠ '\'' := by simp [quoteText, quoteChar]
  have hclosing : ∀ c ∈ (quoteText "\"=TRUE").toList, c ≠ '\'' := by simp [quoteText, quoteChar]
  refine quotesImages_echo hopening hclosing ?_
  simp [appendLine, clientFile, clientDir, quoted, quotePiece]

/-! ## Consoles -/

def attachLine : Template :=
  [.text "/opt/hpvm/bin/vparconsole -P ", .slot .name]

theorem attachLine_fills (plan : BootPlan) (hn : Slot.name.Admits plan.partition) :
    Fills attachLine plan.attachLine :=
  (fills_text _).append (fills_slot hn)

def networkLine (profile server : String) : Template :=
  [.text "dbprofile -dn ", .text profile, .text " -sip ", .text server, .text " -cip ",
    .slot .address, .text " -gip ", .slot .address, .text " -m ", .slot .address]

/-- The network of the firmware is filled with addresses. -/
theorem networkLine_fills (plan : BootPlan) (hc : Slot.address.Admits plan.client)
    (hg : Slot.address.Admits plan.gateway) (hm : Slot.address.Admits plan.netmask) :
    Fills (networkLine plan.profile plan.server) plan.networkLine := by
  have hprofile := ((fills_text "dbprofile -dn ").append (fills_text plan.profile)).append
    (fills_text " -sip ")
  have hclient := ((hprofile.append (fills_text plan.server)).append (fills_text " -cip ")).append
    (fills_slot hc)
  have hgateway := (hclient.append (fills_text " -gip ")).append (fills_slot hg)
  exact hgateway.append ((fills_text " -m ").append (fills_slot hm))

def bootFileLine (profile bootFile : String) : Template :=
  [.text s!"dbprofile -dn {profile} -b \"{bootFile}\""]

theorem bootFileLine_fills (plan : BootPlan) :
    Fills (bootFileLine plan.profile plan.bootFile) plan.bootFileLine :=
  fills_text _

def bootLine (profile : String) : Template :=
  [.text s!"lanboot select -index 01 -dn {profile}"]

theorem bootLine_fills (plan : BootPlan) : Fills (bootLine plan.profile) plan.bootLine :=
  fills_text _

end Template

end VparFleet
