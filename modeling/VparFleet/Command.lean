import VparFleet.Settings

/-!
# Command lines

Every text that is run on a node or on the provisioning server. Lines that are appended to a file
are quoted for the shell, so that they arrive as they are.
-/

namespace VparFleet

namespace Command

/-- The status program of the nodes. -/
def vparstatus : String := "/opt/hpvm/bin/vparstatus"

/-- Reports free processors and memory. -/
def availableResources : String :=
  s!"{vparstatus} -A"

/-- Reports a volume group. -/
def volumeGroupReport (group : String) : String :=
  s!"vgdisplay {group}"

/-- Lists the clients of the provisioning server. -/
def clientInventory : String :=
  "/opt/ignite/bin/ignite client list -m xml -l details"

/-- Lists the partitions of a node. -/
def partitionSummary : String :=
  vparstatus

/-- Describes one partition. -/
def partitionDetail (name : String) : String :=
  s!"{vparstatus} -p {name} -v"

/-- The name of a workload's boot volume. -/
def volumeName (workload : String) : String :=
  s!"lv-{workload}"

/-- The block device of a workload's boot volume. -/
def volumePath (group workload : String) : String :=
  s!"{group}/{volumeName workload}"

/-- The raw device of a workload's boot volume. -/
def rawVolumePath (group workload : String) : String :=
  s!"{group}/r{volumeName workload}"

/-- A size in megabytes, no more than a 64-bit number holds. -/
def megabytes (gigabytes : Nat) : Nat :=
  min (gigabytes * 1024) (Text.Decimal.word64 - 1)

/-- Creates a boot volume. -/
def createVolume (group workload : String) (gigabytes : Nat) : String :=
  s!"lvcreate -L {megabytes gigabytes} -n {volumeName workload} {group}"

/-- Removes a boot volume. -/
def removeVolume (group workload : String) : String :=
  s!"lvremove -f {volumePath group workload}"

/-- Defines a partition with one disk and a network card on either network. -/
def createPartition (node : NodeSettings) (name : String) (memory cpus : Nat)
    (rawVolume : String) : String :=
  s!"/opt/hpvm/bin/vparcreate -p {name} -a mem::{memory} -a cpu::{cpus}"
    ++ s!" -a disk:avio_stor::lv:{rawVolume}"
    ++ s!" -a network:avio_lan::vswitch:{node.managementNetwork}"
    ++ s!" -a network:avio_lan::vswitch:{node.productionNetwork}"

/-- Starts a partition to its firmware shell. -/
def bootPartition (name : String) : String :=
  s!"/opt/hpvm/bin/vparboot -p {name}"

/-- What a successful start prints. -/
def bootAcknowledgement : String :=
  "Successful start initiation"

/-- Powers a partition off by force. -/
def resetPartition (name : String) : String :=
  s!"/opt/hpvm/bin/vparreset -f -p {name} -d"

/-- Removes the definition of a partition. -/
def removePartition (name : String) : String :=
  s!"/opt/hpvm/bin/vparremove -p {name} -f"

/-- Attaches a virtual host bus adapter with a port and a node name. -/
def attachAdapter (name portName nodeName : String) : String :=
  s!"/opt/hpvm/bin/vparmodify -p {name} -a hba:avio_stor:,,{portName},{nodeName}:npiv:/dev/fcd0"

/-! ## Appending to files -/

/-- One character inside single quotes; a quote is written outside of them. -/
def quoteChar (c : Char) : List Char :=
  if c = '\'' then ['\'', '\\', '\'', '\''] else [c]

/-- A text as one word of the shell, between single quotes. -/
def singleQuote (text : String) : String :=
  String.ofList ('\'' :: text.toList.flatMap quoteChar ++ ['\''])

/-- Appends one line to a file. -/
def appendLine (file line : String) : String :=
  s!"echo {singleQuote line} >> {file}"

/-- Appends lines to a file, one after the other, up to the first that fails. -/
def appendLines (file : String) (lines : List String) : String :=
  String.intercalate " && " (lines.map (appendLine file))

/-- The addresses in a boot table entry. -/
structure BootEntry where
  /-- The name of the partition. -/
  name : String
  mac : String
  ip : String
  gateway : String
  netmask : String
  deriving DecidableEq, Repr

/-- The lines of a boot table entry; every line but the last goes on. -/
def BootEntry.lines (entry : BootEntry) (bootFile : String) : List String :=
  [s!"{entry.name}:\\", "\ttc=ignite-defaults:\\", s!"\tha={entry.mac}:\\", s!"\tbf={bootFile}:\\",
    s!"\tgw={entry.gateway}:\\", s!"\tip={entry.ip}:\\", s!"\tsm={entry.netmask}"]

/-- Appends an entry to the boot table. -/
def appendBootEntry (server : ServerSettings) (entry : BootEntry) : String :=
  appendLines server.bootTable (entry.lines server.bootFile)

/-- The directory of a client. -/
def clientDir (server : ServerSettings) (mac : String) : String :=
  s!"{server.clientsDir}/{mac}"

/-- The configuration file of a client. -/
def clientFile (server : ServerSettings) (mac : String) : String :=
  s!"{clientDir server mac}/config"

/-- Creates the directory of a client with an empty configuration file. -/
def createClientConfig (server : ServerSettings) (mac : String) : String :=
  s!"mkdir {clientDir server mac} && touch {clientFile server mac}"

/-- The install directives of a client. -/
def clientLines (server : ServerSettings) (name image : String) : List String :=
  [s!"cfg \"{image}\"=TRUE", "_hp_cfg_detail_level=\"v\"", s!"final system_name=\"{name}\"",
    s!"_hp_keyboard=\"{server.keyboard}\"", s!"root_password=\"{server.passwordHash}\"",
    s!"_hp_root_disk=\"{server.rootDisk}\"", "_my_second_disk_path=\"\""]

/-- Appends the install directives to the configuration file of a client. -/
def writeClientConfig (server : ServerSettings) (mac name image : String) : String :=
  appendLines (clientFile server mac) (clientLines server name image)

end Command

end VparFleet
