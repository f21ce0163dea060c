import VparFleet.Fault

/-!
# The life of a partition

A partition passes through a fixed set of stages between the allocation of its volume and its
removal. Only some moves are legal; `Lifecycle.advance` refuses every other one and then leaves the
stage as it was.

* `advance_ok_iff`: a move succeeds exactly when it is legal, and then only the stage changes.
-/

namespace VparFleet

/-- The stages of a partition. -/
inductive Stage where
  /-- Nothing exists. -/
  | undefined
  /-- The boot volume exists. -/
  | storageAllocated
  /-- The partition is defined. -/
  | defined
  /-- The partition was started to its firmware shell. -/
  | bootedToFirmware
  /-- The provisioning server knows the partition. -/
  | networkRegistered
  /-- The network boot was issued. -/
  | running
  /-- A forced power off was issued. -/
  | poweringOff
  /-- The partition was seen down after the power off. -/
  | stopped
  /-- Definition and volume are gone. -/
  | removed
  deriving DecidableEq, Repr

namespace Stage

/-- All stages, in the order of a full life. -/
def all : List Stage :=
  [undefined, storageAllocated, defined, bootedToFirmware, networkRegistered, running,
    poweringOff, stopped, removed]

/-- The stages that may follow a stage. A partition that was powered off but not seen down stays in
`poweringOff`, and only a stopped one may be removed or started again. -/
def successors : Stage → List Stage
  | undefined => [storageAllocated, poweringOff]
  | storageAllocated => [defined]
  | defined => [bootedToFirmware, poweringOff]
  | bootedToFirmware => [networkRegistered, poweringOff]
  | networkRegistered => [running, poweringOff]
  | running => [poweringOff]
  | poweringOff => [stopped]
  | stopped => [bootedToFirmware, poweringOff, removed]
  | removed => []

/-- Whether `next` may follow `stage`. -/
def canMoveTo (stage next : Stage) : Bool :=
  stage.successors.contains next

/-- The name of a stage in messages and records. -/
def name : Stage → String
  | undefined => "undefined"
  | storageAllocated => "storage_allocated"
  | defined => "defined"
  | bootedToFirmware => "booted_to_firmware"
  | networkRegistered => "network_registered"
  | running => "running"
  | poweringOff => "powering_off"
  | stopped => "stopped"
  | removed => "removed"

end Stage

/-- One partition on its way through the stages. -/
structure Lifecycle where
  /-- The name of the partition. -/
  name : String
  /-- The stage reached. -/
  stage : Stage
  deriving DecidableEq, Repr

namespace Lifecycle

/-- The life of a partition of which nothing exists. -/
def fresh (name : String) : Lifecycle :=
  ⟨name, .undefined⟩

/-- Moves to the next stage if that is legal. -/
def advance (life : Lifecycle) (next : Stage) : Outcome Lifecycle :=
  if life.stage.canMoveTo next then .ok { life with stage := next }
  else .error ⟨.protocol,
    s!"partition {life.name} cannot move from {life.stage.name} to {next.name}"⟩

/-- Tries the moves one after the other; a refused one changes nothing. Lists for each move its
result and the stage after it. -/
def walk (life : Lifecycle) : List Stage → List (Outcome Unit × Stage)
  | [] => []
  | next :: rest =>
    match life.advance next with
    | .ok moved => (.ok (), moved.stage) :: moved.walk rest
    | .error fault => (.error fault, life.stage) :: life.walk rest

/-- A move is made exactly when the table of moves has it, and it changes the stage only. -/
theorem advance_ok_iff {life moved : Lifecycle} {next : Stage} :
    life.advance next = .ok moved ↔
      life.stage.canMoveTo next = true ∧ moved = { life with stage := next } := by
  unfold advance
  by_cases h : life.stage.canMoveTo next = true
  · rw [if_pos h, Except.ok.injEq]
    exact ⟨fun e => ⟨h, e.symm⟩, fun e => e.2.symm⟩
  · rw [if_neg h]
    exact ⟨fun e => (nomatch e), fun e => absurd e.1 h⟩

end Lifecycle

/-- How a request to destroy a partition ended. -/
inductive DestroyOutcome where
  /-- Definition and volume were removed. -/
  | removed
  /-- The partition was powered off but not seen down, so nothing was removed. -/
  | skippedNotDown
  /-- No node runs the partition, so there was nothing to do. -/
  | notPresent
  deriving DecidableEq, Repr

end VparFleet
