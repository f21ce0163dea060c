import VparFleet.Fault.Cause
import VparFleet.Pattern.Reader
import VparFleet.Settings.Section
import VparFleet.Span
import VparFleet.Text.Decimal

/-!
# Settings

The configuration of the fleet controller: remote login, names on the nodes, the provisioning
server, and the refresh interval.

* `Settings.ofToml`: reads and checks a configuration document.
* `Settings.flaw?`: the first rule that a configuration breaks.
-/

namespace VparFleet

/-- Login and time bounds of remote work. -/
structure RemoteSettings where
  /-- The login user. -/
  username : String
  /-- The login password; no document holds it. -/
  password : String
  tcpPort : Nat
  /-- The bound on login and on every prompt, in seconds. -/
  stepSeconds : Nat
  /-- The bound on one command, in seconds. -/
  commandSeconds : Nat
  /-- The bound on the last step of a network boot, in seconds. -/
  bootSeconds : Nat
  /-- The file of known host keys. -/
  knownHosts : Option String
  promptPattern : String
  deriving DecidableEq, Repr

/-- Names that every node uses. -/
structure NodeSettings where
  /-- The volume group of boot volumes. -/
  volumeGroup : String
  /-- The switch of the management network. -/
  managementNetwork : String
  /-- The switch of the production network. -/
  productionNetwork : String
  /-- The orchestrator's label of the management network. -/
  networkLabel : String
  /-- The wait after a forced power off, in seconds. -/
  graceSeconds : Nat
  deriving DecidableEq, Repr

/-- The provisioning server and what is written to it. -/
structure ServerSettings where
  address : String
  /-- The boot loader that clients load. -/
  bootFile : String
  bootTable : String
  /-- The directory with one directory per client. -/
  clientsDir : String
  /-- The keyboard layout of installed systems. -/
  keyboard : String
  /-- The encrypted administrator password of installed systems. -/
  passwordHash : String
  /-- The root disk of installed systems. -/
  rootDisk : String
  /-- The name of the firmware boot profile. -/
  profile : String
  deriving DecidableEq, Repr

/-- The whole configuration. -/
structure Settings where
  databasePath : String
  remote : RemoteSettings
  node : NodeSettings
  server : ServerSettings
  /-- The time between two refreshes, in seconds. -/
  refreshSeconds : Nat
  deriving DecidableEq, Repr

namespace RemoteSettings

/-- The settings of the section, in their order. -/
def keys : List Settings.Key :=
  [⟨"username", none⟩, ⟨"port", some 65536⟩,
    ⟨"ssh_timeout_seconds", some Text.Decimal.word64⟩,
    ⟨"command_timeout_seconds", some Text.Decimal.word64⟩,
    ⟨"lanboot_timeout_seconds", some Text.Decimal.word64⟩,
    ⟨"known_hosts", none⟩, ⟨"prompt_pattern", none⟩]

/-- Takes the settings from a section. The password starts out empty. -/
def ofSection (s : Settings.Section) : RemoteSettings where
  username := s.text "username" "root"
  password := ""
  tcpPort := s.word "port" 22
  stepSeconds := s.word "ssh_timeout_seconds" 20
  commandSeconds := s.word "command_timeout_seconds" 600
  bootSeconds := s.word "lanboot_timeout_seconds" 1200
  knownHosts := s.text? "known_hosts"
  promptPattern := s.text "prompt_pattern" "[$#>]\\s*$"

/-- The bound on login and on every prompt. -/
def stepTimeout (remote : RemoteSettings) : Span := .ofSeconds remote.stepSeconds

/-- The bound on one command. -/
def commandTimeout (remote : RemoteSettings) : Span := .ofSeconds remote.commandSeconds

/-- The bound on the last step of a network boot. -/
def bootTimeout (remote : RemoteSettings) : Span := .ofSeconds remote.bootSeconds

end RemoteSettings

namespace NodeSettings

/-- The settings of the section, in their order. -/
def keys : List Settings.Key :=
  [⟨"vg_name", none⟩, ⟨"management_network", none⟩, ⟨"production_network", none⟩,
    ⟨"network_label", none⟩, ⟨"power_off_grace_seconds", some Text.Decimal.word64⟩]

/-- Takes the settings from a section. -/
def ofSection (s : Settings.Section) : NodeSettings where
  volumeGroup := s.text "vg_name" "/dev/vg00"
  managementNetwork := s.text "management_network" "sitelan"
  productionNetwork := s.text "production_network" "localnet"
  networkLabel := s.text "network_label" "hpux"
  graceSeconds := s.word "power_off_grace_seconds" 10

/-- The wait after a forced power off. -/
def grace (node : NodeSettings) : Span := .ofSeconds node.graceSeconds

end NodeSettings

namespace ServerSettings

/-- The settings of the section, in their order. -/
def keys : List Settings.Key :=
  ["address", "boot_file", "bootptab", "clients_dir", "keyboard", "root_password_hash",
    "root_disk", "profile_name"].map (⟨·, none⟩)

/-- Takes the settings from a section. Address and password hash have no preset. -/
def ofSection (s : Settings.Section) : Except Settings.Flaw ServerSettings := do
  let address ← s.need "address"
  let passwordHash ← s.need "root_password_hash"
  return {
    address
    bootFile := s.text "boot_file" "/opt/ignite/boot/Rel_B.11.31/nbp.efi"
    bootTable := s.text "bootptab" "/etc/bootptab"
    clientsDir := s.text "clients_dir" "/var/opt/ignite/clients"
    keyboard := s.text "keyboard" "USB_PS2_DIN_US_English"
    passwordHash
    rootDisk := s.text "root_disk" "0/0/0/0.0x0.0x0"
    profile := s.text "profile_name" "profile-test" }

end ServerSettings

namespace Settings

/-- The only setting of the monitor section. -/
def monitorKeys : List Key :=
  [⟨"refresh_interval_seconds", some Text.Decimal.word64⟩]

/-- The environment variable that may hold the password. -/
def passwordVariable : String := "VPAR_REMOTE_PASSWORD"

/-- The wording of a flaw. -/
def Flaw.detail : Flaw → String
  | unreadable => "invalid config"
  | missing key => "invalid config: missing field \x60" ++ key ++ "\x60"
  | noUsername => "remote.username must not be empty"
  | noTimeout => "remote timeouts must be greater than zero"
  | shortBoot => "remote.lanboot_timeout_seconds must not be shorter than ssh_timeout_seconds"
  | badPrompt => "remote.prompt_pattern invalid"
  | noServer => "ignite.address must not be empty"
  | oneNetwork => "management and production networks must differ"
  | noInterval => "monitor.refresh_interval_seconds must be greater than zero"
  | unreadableFile reason => s!"failed to read config: {reason}"
  | noPassword user =>
    s!"credential for {user} not found in keychain or {passwordVariable} env var"

/-- The fault that a flaw leads to. -/
def Flaw.fault (flaw : Flaw) : Fault :=
  ⟨.config, flaw.detail⟩

/-- The rules of a configuration in their order, each with the flaw of breaking it. -/
def rules (settings : Settings) : List (Bool × Flaw) :=
  [(!Text.isBlankText settings.remote.username, .noUsername),
    (settings.remote.stepSeconds ≠ 0 && settings.remote.commandSeconds ≠ 0, .noTimeout),
    (settings.remote.stepSeconds ≤ settings.remote.bootSeconds, .shortBoot),
    ((Pattern.read? settings.remote.promptPattern.toList).isSome, .badPrompt),
    (!Text.isBlankText settings.server.address, .noServer),
    (settings.node.managementNetwork ≠ settings.node.productionNetwork, .oneNetwork),
    (settings.refreshSeconds ≠ 0, .noInterval)]

/-- The first rule that a configuration breaks. -/
def flaw? (settings : Settings) : Option Flaw :=
  (settings.rules.find? (!·.1)).map (·.2)

/-- What has been read of a document so far. -/
structure Draft where
  databasePath : Option String
  /-- The section on remote work. -/
  remote : Section
  /-- The section on the nodes. -/
  node : Section
  server : Option ServerSettings
  monitor : Section

/-- Takes one entry of a document, in the order of the document. -/
def Draft.take (draft : Draft) (entry : String × Toml.Value) : Except Flaw Draft :=
  match entry.1 with
  | "db_path" =>
    match entry.2 with
    | .text s => .ok { draft with databasePath := some s }
    | _ => .error .unreadable
  | "remote" => do return { draft with remote := ← Section.read RemoteSettings.keys entry.2 }
  | "npar" => do return { draft with node := ← Section.read NodeSettings.keys entry.2 }
  | "ignite" => do
    let s ← Section.read ServerSettings.keys entry.2
    return { draft with server := some (← ServerSettings.ofSection s) }
  | "monitor" => do return { draft with monitor := ← Section.read monitorKeys entry.2 }
  | _ => .ok draft

/-- Completes a draft by the presets. -/
def Draft.finish (draft : Draft) : Except Flaw Settings :=
  match draft.databasePath, draft.server with
  | none, _ => .error (.missing "db_path")
  | _, none => .error (.missing "ignite")
  | some databasePath, some server => .ok {
      databasePath
      remote := .ofSection draft.remote
      node := .ofSection draft.node
      server
      refreshSeconds := draft.monitor.word "refresh_interval_seconds" 60 }

/-- Reads a configuration document and checks its rules. -/
def ofToml (text : String) : Except Flaw Settings := do
  let some entries := Toml.read? text.toList | throw .unreadable
  let draft ← entries.foldlM Draft.take ⟨none, .absent, .absent, none, .absent⟩
  let settings ← draft.finish
  match settings.flaw? with
  | some flaw => throw flaw
  | none => return settings

/-- Reads a configuration file. -/
def ofFile (content : Except FileCause String) : Except Flaw Settings :=
  match content with
  | .error cause => .error (.unreadableFile cause.detail)
  | .ok text => ofToml text

/-- The settings with a password. -/
def setPassword (settings : Settings) (password : String) : Settings :=
  { settings with remote := { settings.remote with password } }

/-- The settings with a password from the keychain or, when it has none, from the environment. An
empty keychain entry counts as none. -/
def withPassword (settings : Settings) (keychain environment : Option String) :
    Except Flaw Settings :=
  match keychain.filter (· ≠ "") <|> environment with
  | some password => .ok (settings.setPassword password)
  | none => .error (.noPassword settings.remote.username)

end Settings

end VparFleet
