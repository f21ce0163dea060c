import VparFleet.Partition
import VparFleet.Report.Field

/-!
# Status reports of partitions

A node lists its partitions in a table, and describes one of them in detail.

* `StatusRow.read`: the rows of the table; every line that is no row is passed over.
* `Detail.read`: run state, processors and memory of one partition.
-/

namespace VparFleet.Report

/-- A row of the status table. -/
structure StatusRow where
  /-- The number of the partition. -/
  num : Nat
  name : String
  runState : String
  /-- Its administrative state. -/
  state : String
  deriving DecidableEq, Repr

namespace StatusRow

/-- Reads a line of the table: a number and three words, with anything after them. -/
def ofLine? (line : List Char) : Option StatusRow :=
  match Text.words line with
  | num :: name :: runState :: state :: _ =>
    (Text.Decimal.read? Text.Decimal.word32 num).map fun n =>
      ⟨n, String.ofList name, String.ofList runState, String.ofList state⟩
  | _ => none

/-- Reads the table. -/
def read (text : List Char) : List StatusRow :=
  (Text.lines text).filterMap ofLine?

/-- Whether the partition of a row is up. -/
def isUp (row : StatusRow) : Bool :=
  row.runState == PowerState.upToken

end StatusRow

/-- The names of the partitions that are up, in the order of the table. -/
def runningNames (text : List Char) : List String :=
  ((StatusRow.read text).filter (·.isUp)).map (·.name)

/-- What a detailed report says about a partition. -/
structure Detail where
  runState : Option String
  cpus : Option Nat
  /-- Memory, in megabytes. -/
  memory : Option Nat
  deriving DecidableEq, Repr

namespace Detail

/-- The label of the run state. -/
def runStateLabel : String := "RunState"

/-- The label of the number of processors. -/
def cpusLabel : String := "System assigned [Count]"

/-- The label of the memory. -/
def memoryLabel : String := "Total Memory(MB)"

/-- Reads one line; later lines take the place of earlier ones. -/
def readLine (detail : Detail) (line : List Char) : Except Flaw Detail :=
  if carries runStateLabel line then
    return { detail with runState := (labelValue? line).map String.ofList }
  else if carries cpusLabel line then do
    let cpus ← number Text.Decimal.word32 cpusLabel (labelValue line)
    return { detail with cpus := some cpus }
  else if carries memoryLabel line then do
    let memory ← number Text.Decimal.word64 memoryLabel (labelValue line)
    return { detail with memory := some memory }
  else return detail

/-- Reads the whole report. -/
def read (text : List Char) : Except Flaw Detail :=
  (Text.lines text).foldlM readLine ⟨none, none, none⟩

/-- Whether the report says nothing, because there is no such partition. -/
def isEmpty (detail : Detail) : Bool :=
  detail.runState.isNone && detail.cpus.isNone && detail.memory.isNone

/-- The power state that the report gives. -/
def powerState (detail : Detail) : PowerState :=
  PowerState.ofRunState? detail.runState

end Detail

end VparFleet.Report
