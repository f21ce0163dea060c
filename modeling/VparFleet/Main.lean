import VparFleet.CommandLine.Execute
import VparFleet.Monitor.Ticker
import VparFleet.Store.Location
import Std.Time.DateTime.Timestamp

/-!
# The program

The machine that the program runs on: files, environment, clock and the store in its file. Hosts
are reached over a transport; this machine has none, so every host is out of reach and every task
that needs one ends in a fault.
-/

namespace VparFleet.Main

open CommandLine

/-- What is kept while the program runs. -/
structure Session where
  /-- The file of the store. -/
  storePath : String
  store : Store
  /-- The report of the last completed refresh. -/
  cached : Option RefreshReport
  /-- The number of completed refreshes. -/
  generation : Nat

/-- A session before the store is open. -/
def Session.fresh : Session := ⟨"", .empty, none, 0⟩

/-- The cause of a failure of the file system. -/
def causeOf : IO.Error → FileCause
  | .noFileOrDirectory .. => .missing
  | .permissionDenied .. => .denied
  | .alreadyExists .. => .occupied
  | .inappropriateType _ 21 _ => .isDirectory
  | .inappropriateType .. => .notDirectory
  | error => .other (toString error)

/-- Does something with files. -/
def tryFile {α : Type} (step : IO α) : IO (Except FileCause α) := do
  try return .ok (← step) catch error => return .error (causeOf error)

/-- Reads a file. -/
def readFile (path : String) : IO (Except FileCause (List UInt8)) :=
  tryFile do return (← IO.FS.readBinFile path).toList

/-- Writes the store to its file. -/
def save (session : Session) : IO (Except FileCause Unit) :=
  if session.storePath.isEmpty then return .ok ()
  else tryFile (IO.FS.writeFile session.storePath session.store.fileText)

/-- The directory that a path leads to. -/
def parent (path : String) : String :=
  String.ofList ((path.toList.reverse.dropWhile (· ≠ '/')).drop 1).reverse

/-- Opens the store at a path. -/
def connect (state : IO.Ref Session) (path : String) : IO (Outcome Unit) := do
  if path.isEmpty then return .ok ()
  unless (parent path).isEmpty do
    if let .error cause ← tryFile (IO.FS.createDirAll (parent path)) then
      return .error (Store.noDirectory cause)
  let content ← readFile path
  let opened : Outcome Store := match content with
    | .ok bytes => Store.ofContent bytes
    | .error .missing => .ok .empty
    | .error _ => .error Store.cannotOpen.fault
  match opened with
  | .error fault => return .error fault
  | .ok store =>
    let session := { ← state.get with storePath := path, store }
    state.set session
    match ← save session with
    | .ok () => return .ok ()
    | .error _ => return .error Store.cannotOpen.fault

/-- The instant on the clock of the machine. -/
def now : IO Instant := do
  let time ← Std.Time.Timestamp.now
  return (Instant.mk 0 0 0).addMillis time.toMillisecondsSinceUnixEpoch.val.toNat

/-- The fault of a host that cannot be reached. -/
def outOfReach : Fault := SessionCause.noNetwork.fault

/-- Asks the store, and writes it back. -/
def query {α : Type} (state : IO.Ref Session) (statement : Store.Statement α) :
    IO (Outcome α) := do
  let session ← state.get
  let (outcome, store) := statement.run.run session.store
  let session := { session with store }
  state.set session
  let _ ← save session
  return outcome

/-- Lets time pass. -/
def pause (millis : Nat) : IO Unit :=
  IO.sleep (UInt32.ofNat (min millis (Text.Decimal.word32 - 1)))

/-- Answers an action. There is only one task, so it never waits for a lock. -/
def answer (state : IO.Ref Session) : (action : Action) → IO action.Reply
  | .run _ _ => return (.error outOfReach : Outcome String)
  | .openConsole _ => return (.error outOfReach : Outcome ConsoleId)
  | .send _ _ => return (.error outOfReach : Outcome Unit)
  | .waitForPrompt _ _ _ => return (.error outOfReach : Outcome (List Char))
  | .closeConsole _ => return (.ok () : Outcome Unit)
  | .pause span => pause span.millis
  | .clock => now
  | .listNodes => query state Store.listNodes
  | .findNode address => query state (Store.findNode address)
  | .addNode node => query state (Store.addNode node)
  | .updateNode node => query state (Store.updateNode node)
  | .findPlacement partition => query state (Store.findPlacement partition)
  | .recordPlacement placement => query state (Store.recordPlacement placement)
  | .removePlacement workload => query state (Store.removePlacement workload)
  | .lockName _ => return ()
  | .unlockName _ => return ()
  | .generation => return (← state.get).generation
  | .lockRefresh => return ()
  | .unlockRefresh => return ()
  | .cached => return (← state.get).cached
  | .publish report => state.modify fun session => { session with cached := some report }
  | .bumpGeneration =>
    state.modify fun session => { session with generation := session.generation + 1 }

/-- Carries an operation out. -/
def carryOut (state : IO.Ref Session) {α : Type} (operation : Operation α) : IO (Outcome α) :=
  Program.answerBy (answer state) operation.run

/-- Refreshes whenever a ticker is due. -/
partial def watch (state : IO.Ref Session) (monitor : Monitor) (ticker : Ticker) : IO Unit := do
  let due := ticker.due (← IO.monoMsNow)
  pause (due - (← IO.monoMsNow))
  let taken ← IO.monoMsNow
  if let .error fault ← carryOut state monitor.update then
    IO.eprintln s!"capacity refresh failed: {fault.message}"
  watch state monitor (ticker.next taken)

/-- The machine. It has no keychain. -/
def machine (state : IO.Ref Session) : Machine IO where
  readFile := readFile
  keychain _ := return none
  environment name := IO.getEnv name
  connect := connect state
  carryOut _ operation := carryOut state operation
  watch monitor period := do
    watch state monitor (.start period.millis (← IO.monoMsNow))

end VparFleet.Main

/-- Runs the program with the words of its command line. -/
def main (words : List String) : IO UInt32 := do
  let state ← IO.mkRef VparFleet.Main.Session.fresh
  let exit ← VparFleet.CommandLine.execute (VparFleet.Main.machine state) words
  IO.print exit.output
  if let some fault := exit.fault then
    IO.eprintln s!"Error: {VparFleet.CommandLine.faultReport fault}"
  return UInt32.ofNat exit.code
