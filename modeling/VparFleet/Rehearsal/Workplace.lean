import VparFleet.CommandLine.Execute
import VparFleet.Rehearsal.Turns
import VparFleet.Store.Location

/-!
# Rehearsing the command line

A workplace is a machine with a directory, an environment, and no network. Everything that the
program does there is written down, so a whole run is a function of what it starts from.

* `Workplace.machine`: the workplace as the program sees it.
* `rehearse`: what the program leaves behind, and the workplace after it.
-/

namespace VparFleet.Rehearsal

/-- Hosts that cannot be reached. -/
def Script.unreachable : Script :=
  ⟨[⟨"", none, [⟨0, .error SessionCause.noNetwork.fault⟩]⟩], []⟩

/-- A machine to rehearse on. -/
structure Workplace where
  /-- The files. -/
  directory : Directory
  /-- The environment variables. -/
  environment : List (String × String)
  /-- Where the open store is kept. -/
  storePath : String
  /-- The hosts, the clock and the open store. -/
  scene : Scene

namespace Workplace

/-- A workplace with files and environment variables. -/
def set (start : Instant) (directory : Directory) (environment : List (String × String)) :
    Workplace :=
  ⟨directory, environment, "", .set start .unreachable⟩

/-- Opens the store at a path. -/
def connect (place : Workplace) (path : String) : Outcome Unit × Workplace :=
  match place.directory.connect path with
  | .ok (store, directory) =>
    (.ok (), { place with directory, storePath := path, scene := place.scene.withStore store })
  | .error fault => (.error fault, place)

/-- The fault of an operation that waits for ever. -/
def stuck : Fault := ⟨.timeout, "operation never ends"⟩

/-- Carries an operation out and writes the store back. -/
def carryOut {α : Type} (place : Workplace) (operation : Operation α) : Outcome α × Workplace :=
  let (result, scene) := runAlone place.scene operation.run
  (result.getD (.error stuck),
    { place with
      scene
      directory := place.directory.saveStore place.storePath scene.store })

/-- The workplace as the program sees it. The keychain is empty, and an endless task is interrupted
at once. -/
def machine : CommandLine.Machine (StateM Workplace) where
  readFile path := do return (← get).directory.read (pathParts path)
  keychain _ := return none
  environment name := do return (← get).environment.lookup name
  connect path := fun place => place.connect path
  carryOut _ operation := fun place => place.carryOut operation
  watch _ _ := return ()

end Workplace

/-- Runs the program with a command line. -/
def rehearse (place : Workplace) (words : List String) : CommandLine.Exit × Workplace :=
  (CommandLine.execute Workplace.machine words).run place

end VparFleet.Rehearsal
