import VparFleet.Command
import VparFleet.Program

/-!
# Registration

A partition is made known to the provisioning server by three writes, in this order. The first
write that fails ends the registration; the writes before it stay.
-/

namespace VparFleet

/-- What the provisioning server has to know about a partition. -/
structure Registration where
  /-- Names and addresses for the boot table. -/
  entry : Command.BootEntry
  /-- The install image. -/
  image : String
  deriving DecidableEq, Repr

namespace Registration

/-- The writes with their names. -/
def steps (registration : Registration) (server : ServerSettings) : List (String × String) :=
  let entry := registration.entry
  [("boot table entry", Command.appendBootEntry server entry),
    ("client directory", Command.createClientConfig server entry.mac),
    ("client config",
      Command.writeClientConfig server entry.mac entry.name registration.image)]

/-- Registers a partition. -/
def register (registration : Registration) (server : ServerSettings) : Operation Unit :=
  (registration.steps server).forM fun (step, command) => do
    let _ ← Operation.atStep step (Operation.exec server.address command)

end Registration

end VparFleet
