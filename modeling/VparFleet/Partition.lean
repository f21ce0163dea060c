import VparFleet.Text.Blank

/-!
# Partitions

A virtual partition, its power state and its management network identity.
-/

namespace VparFleet

/-- The power state of a partition. -/
inductive PowerState where
  /-- The run state is missing or not a known one. -/
  | noState
  /-- The partition is up. -/
  | running
  /-- The partition is blocked, which counts as running. -/
  | blocked
  /-- The partition is down. -/
  | shutdown
  /-- The partition is powered off. -/
  | shutoff
  deriving DecidableEq, Repr

namespace PowerState

/-- The run-state token of a partition that is up. -/
def upToken : String := "UP"

/-- The run-state token of a partition that is down. -/
def downToken : String := "DOWN"

/-- Reads a run-state token. Blanks around it do not matter; any token but the two known ones says
nothing about the state. -/
def ofRunState (token : String) : PowerState :=
  let bare := Text.trim token.toList
  if bare = upToken.toList then running
  else if bare = downToken.toList then shutdown
  else noState

/-- Reads a run state that a report may lack. -/
def ofRunState? (token : Option String) : PowerState :=
  (token.map ofRunState).getD noState

/-- Whether the state counts as running. -/
def isRunning (state : PowerState) : Bool :=
  state = running || state = blocked

/-- Whether the state permits removal. -/
def isDown (state : PowerState) : Bool :=
  state = shutdown

/-- The name of a state in messages. -/
def display : PowerState → String
  | noState => "nostate"
  | running => "running"
  | blocked => "blocked"
  | shutdown => "shutdown"
  | shutoff => "shutoff"

end PowerState

/-- The management network identity of a partition. -/
structure NetworkIdentity where
  /-- The address of the management network card: `0x` and upper-case hexadecimal digits. -/
  mac : Option String
  ip : String
  gateway : String
  netmask : String
  deriving DecidableEq, Repr

/-- A partition that has been provisioned. -/
structure Partition where
  /-- The name, unique on its node. -/
  name : String
  /-- The address of the hosting node. -/
  node : String
  /-- Memory, in megabytes. -/
  memory : Nat
  cpus : Nat
  /-- The last power state seen. -/
  powerState : PowerState
  network : NetworkIdentity
  /-- The raw device of the boot volume. -/
  volumePath : Option String
  deriving DecidableEq, Repr

/-- What a node reports about one of its partitions. -/
structure PartitionInfo where
  name : String
  /-- The address of the hosting node. -/
  node : String
  state : PowerState
  cpus : Nat
  /-- Memory, in megabytes. -/
  memory : Nat
  deriving DecidableEq, Repr

end VparFleet
