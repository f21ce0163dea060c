import VparFleet.Report.Field

/-!
# Capacity reports of a node

Two reports say what a node has left: one for processors and memory, one for the volume group.

* `FreeCapacity.read`: a missing label counts as nothing free, so a node that says nothing attracts
  no placement; a label with a bad value refuses the report.
* `VolumeGroup.read`: all three labels must be there.
-/

namespace VparFleet.Report

/-- Processors and memory that a node has free. -/
structure FreeCapacity where
  cpus : Nat
  /-- Free memory, in megabytes. -/
  memory : Nat
  deriving DecidableEq, Repr

namespace FreeCapacity

/-- The label of free processors. -/
def cpusLabel : String := "Available CPUs"

/-- The label of free memory. -/
def memoryLabel : String := "Available Memory"

/-- Reads one line: `[Available CPUs]: 5` or `[Available Memory]: 55936 Mbytes`. Later lines take
the place of earlier ones. -/
def readLine (free : FreeCapacity) (line : List Char) : Except Flaw FreeCapacity :=
  if carries cpusLabel line then do
    let cpus ← number Text.Decimal.word32 cpusLabel (labelValue line)
    return { free with cpus }
  else if carries memoryLabel line then do
    let word := (Text.words (labelValue line)).head?.getD []
    let memory ← number Text.Decimal.word64 memoryLabel word
    return { free with memory }
  else return free

/-- Reads the whole report. -/
def read (text : List Char) : Except Flaw FreeCapacity :=
  (Text.lines text).foldlM readLine ⟨0, 0⟩

end FreeCapacity

/-- The size of a volume group, in gigabytes. -/
structure DiskUsage where
  /-- All space. -/
  total : Nat
  /-- Allocated space. -/
  used : Nat
  /-- Space left, nothing when more is allocated than there is. -/
  free : Nat
  deriving DecidableEq, Repr

/-- What a volume group report says about physical extents. -/
structure VolumeGroup where
  /-- The size of an extent, in megabytes. -/
  extentSize : Option Nat
  extents : Option Nat
  /-- The number of allocated extents. -/
  allocated : Option Nat
  deriving DecidableEq, Repr

namespace VolumeGroup

/-- The label of the extent size. -/
def extentSizeLabel : String := "PE Size (Mbytes)"

/-- The label of the number of extents. -/
def extentsLabel : String := "Total PE"

/-- The label of the number of allocated extents. -/
def allocatedLabel : String := "Alloc PE"

/-- Reads one line. The value is the word after the label; later lines take the place of earlier
ones. -/
def readLine (group : VolumeGroup) (line : List Char) : Except Flaw VolumeGroup :=
  if carries extentSizeLabel line then do
    let size ← column 3 extentSizeLabel line
    return { group with extentSize := some size }
  else if carries extentsLabel line then do
    let count ← column 2 extentsLabel line
    return { group with extents := some count }
  else if carries allocatedLabel line then do
    let count ← column 2 allocatedLabel line
    return { group with allocated := some count }
  else return group

/-- A value that must be there. -/
def need (label : String) : Option Nat → Except Flaw Nat
  | some n => .ok n
  | none => .error (.noLine label)

/-- The space that a number of extents takes, in whole gigabytes. -/
def gigabytes (size count : Nat) : Nat :=
  size * count / 1024

/-- The usage of a group of which everything is known. -/
def usage (size extents allocated : Nat) : DiskUsage where
  total := gigabytes size extents
  used := gigabytes size allocated
  free := gigabytes size extents - gigabytes size allocated

/-- Reads the whole report. -/
def read (text : List Char) : Except Flaw DiskUsage := do
  let group ← (Text.lines text).foldlM readLine ⟨none, none, none⟩
  let size ← need extentSizeLabel group.extentSize
  let extents ← need extentsLabel group.extents
  let allocated ← need allocatedLabel group.allocated
  return usage size extents allocated

end VolumeGroup

end VparFleet.Report
