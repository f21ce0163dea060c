import VparFleet.Program
import VparFleet.Text.Find
import VparFleet.Text.Utf8

/-!
# The firmware console

A partition that was started to its firmware shell is booted from the network through a console of
its node. The conversation has fixed stages, and every line is sent only after the prompt that
answers the line before.

* `FirmwareConsole.drive`: the whole conversation. A failed one stays in the last stage that it
  completed.
* `networkBoot`: opens a console, drives it, and closes it whether that succeeds or fails.
-/

namespace VparFleet

/-- The stages of a conversation with a firmware console. -/
inductive ConsoleStage where
  /-- The console is open and no prompt has been seen. -/
  | connected
  /-- The shell of the node has shown its prompt. -/
  | loggedIn
  /-- The console of the partition is selected. -/
  | attached
  /-- The console takes input. -/
  | writable
  /-- The boot profile is written. -/
  | configured
  /-- The network boot was issued and has shown its prompt. -/
  | booting
  deriving DecidableEq, Repr

/-- The name of a stage in messages. -/
def ConsoleStage.name : ConsoleStage → String
  | connected => "connected"
  | loggedIn => "logged_in"
  | attached => "console_attached"
  | writable => "writable"
  | configured => "configured"
  | booting => "booting"

/-- What a network boot needs to know. -/
structure BootPlan where
  partition : String
  /-- The address of the provisioning server. -/
  server : String
  /-- The management address of the partition. -/
  client : String
  gateway : String
  netmask : String
  /-- The boot loader on the provisioning server. -/
  bootFile : String
  /-- The name of the boot profile. -/
  profile : String
  deriving DecidableEq, Repr

namespace BootPlan

/-- The shell line that attaches to the console of the partition. -/
def attachLine (plan : BootPlan) : String :=
  s!"/opt/hpvm/bin/vparconsole -P {plan.partition}"

/-- The console line that writes the network part of the profile. -/
def networkLine (plan : BootPlan) : String :=
  s!"dbprofile -dn {plan.profile} -sip {plan.server} -cip {plan.client} -gip {plan.gateway}"
    ++ s!" -m {plan.netmask}"

/-- The console line that writes the boot file of the profile. -/
def bootFileLine (plan : BootPlan) : String :=
  s!"dbprofile -dn {plan.profile} -b \"{plan.bootFile}\""

/-- The console line that boots from the network. -/
def bootLine (plan : BootPlan) : String :=
  s!"lanboot select -index 01 -dn {plan.profile}"

end BootPlan

/-- The keys that ask for write access: Control-E, `c`, `f`. -/
def writeAccessKeys : List UInt8 := [0x05, 0x63, 0x66]

/-- What a console says that takes no input. -/
def readOnlyBanner : String := "Read only"

/-- How many characters at the end of the output are searched for the banner. -/
def bannerWindow : Nat := 70

/-- Whether the end of the output says that the console takes no input. -/
def isReadOnly (output : List Char) : Bool :=
  Text.occurs readOnlyBanner.toList (Text.lastChars bannerWindow output)

/-- A console for a conversation with the firmware. -/
structure FirmwareConsole where
  console : ConsoleId
  prompt : Pattern
  /-- The bound on every wait but the last. -/
  step : Span
  /-- The bound on the wait after the boot line. -/
  boot : Span

/-- A part of a conversation: it knows the stage, also when it fails. -/
abbrev Dialogue (α : Type) := ExceptT Fault (StateT ConsoleStage Program) α

namespace FirmwareConsole

/-- An action that may be answered with a fault. -/
def ask {α : Type} (p : Program (Outcome α)) : Dialogue α :=
  ExceptT.mk (liftM p)

/-- Sends a line of the node's shell. -/
def sendShellLine (c : FirmwareConsole) (line : String) : Dialogue Unit :=
  ask (.perform (.send c.console (Text.Utf8.encode (line ++ "\n"))))

/-- Sends a line of the firmware console. -/
def sendConsoleLine (c : FirmwareConsole) (line : String) : Dialogue Unit :=
  ask (.perform (.send c.console (Text.Utf8.encode (line ++ "\r"))))

/-- Sends keys. -/
def sendKeys (c : FirmwareConsole) (keys : List UInt8) : Dialogue Unit :=
  ask (.perform (.send c.console keys))

/-- Waits for a prompt and gives the text before it. -/
def waitForPrompt (c : FirmwareConsole) (limit : Span) : Dialogue (List Char) :=
  ask (.perform (.waitForPrompt c.console c.prompt limit))

/-- Refuses to go on in any other stage. -/
def require (expected : ConsoleStage) : Dialogue Unit := do
  let current ← get
  if current = expected then return ()
  else throw ⟨.protocol,
    s!"console step expects state {expected.name}, current state is {current.name}"⟩

/-- Waits for the shell of the node. -/
def login (c : FirmwareConsole) : Dialogue Unit := do
  require .connected
  let _ ← c.waitForPrompt c.step
  set ConsoleStage.loggedIn

/-- Selects the console of the partition, and gives what that showed. -/
def attach (c : FirmwareConsole) (plan : BootPlan) : Dialogue (List Char) := do
  require .loggedIn
  c.sendShellLine plan.attachLine
  let _ ← c.waitForPrompt c.step
  c.sendConsoleLine "CO"
  let banner ← c.waitForPrompt c.step
  set ConsoleStage.attached
  return banner

/-- Asks for write access if the console takes no input. -/
def ensureWritable (c : FirmwareConsole) (banner : List Char) : Dialogue Unit := do
  require .attached
  if isReadOnly banner then
    c.sendKeys writeAccessKeys
    -- The keys print nothing; an empty line makes the console show its prompt.
    c.sendConsoleLine ""
    let _ ← c.waitForPrompt c.step
  set ConsoleStage.writable

/-- Writes the boot profile. -/
def configure (c : FirmwareConsole) (plan : BootPlan) : Dialogue Unit := do
  require .writable
  c.sendConsoleLine plan.networkLine
  let _ ← c.waitForPrompt c.step
  c.sendConsoleLine plan.bootFileLine
  let _ ← c.waitForPrompt c.step
  set ConsoleStage.configured

/-- Boots from the network. -/
def bootFromNetwork (c : FirmwareConsole) (plan : BootPlan) : Dialogue Unit := do
  require .configured
  c.sendConsoleLine plan.bootLine
  let _ ← c.waitForPrompt c.boot
  set ConsoleStage.booting

/-- The whole conversation. -/
def drive (c : FirmwareConsole) (plan : BootPlan) : Dialogue ConsoleStage := do
  c.login
  let banner ← c.attach plan
  c.ensureWritable banner
  c.configure plan
  c.bootFromNetwork plan
  get

/-- Drives a console that is in a stage; the outcome comes with the stage reached. -/
def run (c : FirmwareConsole) (plan : BootPlan) (stage : ConsoleStage) :
    Program (Outcome ConsoleStage × ConsoleStage) :=
  ((c.drive plan).run).run stage

/-- Ends the conversation, in whatever stage it is. -/
def close (c : FirmwareConsole) : Program (Outcome Unit) :=
  .perform (.closeConsole c.console)

end FirmwareConsole

/-- Boots a partition from the network through a console of its node. A fault names the stage that
the conversation had reached. -/
def networkBoot (host : String) (plan : BootPlan) (prompt : Pattern) (step boot : Span) :
    Operation ConsoleStage := do
  let console ← Operation.openConsole host
  let firmware : FirmwareConsole := ⟨console, prompt, step, boot⟩
  let (outcome, stage) ← ExceptT.lift (firmware.run plan .connected)
  -- A failure to close changes nothing: the partition boots, or the first fault is reported.
  let _ ← ExceptT.lift firmware.close
  Operation.ofOutcome (outcome.atStep s!"console at {stage.name}")

end VparFleet
