import VparFleet.CommandLine.Arguments
import VparFleet.Controller
import VparFleet.Directory
import VparFleet.Message
import VparFleet.Text.Quoted

/-!
# Executing the command line

A task starts with the configuration, then the password, then the store, and only then with the
fleet. The machine that the program runs on is left open, so that the same steps can be rehearsed.

* `execute`: what the program leaves behind.
-/

namespace VparFleet.CommandLine

/-- What the program needs of the machine that it runs on. -/
structure Machine (m : Type → Type) where
  /-- Reads a file. -/
  readFile : String → m (Except FileCause (List UInt8))
  /-- The password of a user in the keychain. -/
  keychain : String → m (Option String)
  /-- The value of an environment variable. -/
  environment : String → m (Option String)
  /-- Opens the store at a path. -/
  connect : String → m (Outcome Unit)
  /-- Carries an operation out. -/
  carryOut : (α : Type) → Operation α → m (Outcome α)
  /-- Refreshes the fleet with a period until interrupted. -/
  watch : Monitor → Span → m Unit

/-- What the program leaves behind. -/
structure Exit where
  /-- The exit code. -/
  code : Nat
  /-- What was printed. -/
  output : String
  /-- What went wrong, if anything did. -/
  fault : Option Fault
  deriving DecidableEq, Repr

namespace Exit

/-- The exit after a text was printed. -/
def printed (output : String) : Exit := ⟨0, output, none⟩

/-- The exit after a command line that makes no sense. -/
def misuse : Exit := ⟨2, "", none⟩

/-- The exit after a task. -/
def ofOutcome : Outcome String → Exit
  | .ok output => printed output
  | .error fault => ⟨1, "", some fault⟩

end Exit

/-- A fault as the program reports it at its end. -/
def faultReport (fault : Fault) : String :=
  s!"{fault.kind.word}({Text.quoted fault.detail})"

/-- The text of a result. -/
def printed (tree : Json.Tree) : String :=
  tree.pretty ++ "\n"

/-- The fault of a request that cannot be read. -/
def unreadableRequest : Fault :=
  ⟨.invalidRequest, "spawn request"⟩

section

variable {m : Type → Type} [Monad m] (machine : Machine m)

/-- Something the machine does that may fail. -/
def attempt {α : Type} (step : m (Outcome α)) : ExceptT Fault m α :=
  ExceptT.mk step

/-- A flaw of the configuration is a fault. -/
def ofFlaw {α : Type} : Except Settings.Flaw α → ExceptT Fault m α
  | .ok a => return a
  | .error flaw => throw flaw.fault

/-- The configuration with the password. -/
def loadSettings (path : String) : ExceptT Fault m Settings := do
  let settings ← ofFlaw (Settings.ofFile (fileText (← machine.readFile path)))
  let keychain ← machine.keychain settings.remote.username
  let environment ← machine.environment Settings.passwordVariable
  ofFlaw (settings.withPassword keychain environment)

/-- Carries an operation out and prints its result. -/
def reportOf {α : Type} [Message α] (operation : Operation α) : ExceptT Fault m String := do
  return printed (Message.tree (← attempt (machine.carryOut α operation)))

/-- Reads a request from a file. -/
def loadRequest (path : String) : ExceptT Fault m SpawnRequest := do
  match fileText (← machine.readFile path) with
  | .error cause => throw cause.fault
  | .ok text =>
    match Message.read SpawnRequest text.toList with
    | .ok request => return request
    | .error _ => throw unreadableRequest

/-- Does a task. -/
def perform (settings : Settings) (controller : Controller) : Task → ExceptT Fault m String
  | .monitor => do
    machine.watch controller.monitor (.ofSeconds settings.refreshSeconds)
    return ""
  | .stats fresh => reportOf machine (controller.stats fresh)
  | .list => reportOf machine Controller.list
  | .inspect name => reportOf machine (Controller.inspect name)
  | .spawn path => do reportOf machine (controller.spawn (← loadRequest machine path))
  | .destroy name => reportOf machine (controller.destroy name)

/-- Does what a complete command line asks for. -/
def invoke (invocation : Invocation) : ExceptT Fault m String := do
  let settings ← loadSettings machine invocation.config
  -- The store is made even if the settings turn out to be of no use for the fleet.
  attempt (machine.connect settings.databasePath)
  let controller ← ofFlaw (Controller.ofSettings settings)
  perform machine settings controller invocation.task

/-- Does what the words of a command line ask for. -/
def execute (words : List String) : m Exit :=
  match read words with
  | .misuse => return .misuse
  | .print text => return .printed text
  | .run invocation => do return .ofOutcome (← (invoke machine invocation).run)

end

end VparFleet.CommandLine
