import VparFleet.Proofs.Program.Rule
import VparFleet.Provisioning.Provisioner

/-!
# Telling the commands of a removal apart

The commands that a removal sends are told apart by their texts, for every name and workload. So
from the commands that were sent and their outputs one can tell how far a removal has come.

* `partitionDetail_ne_partitionSummary` and so on: the two commands that decide about the outcome
  are no other command of a removal.
* `run_exchange_inj`: commands on hosts are the same if host, command and answer are.
-/

namespace VparFleet

theorem run_exchange_inj {host host' command command' : String} {reply reply' : Outcome String} :
    (⟨.run host command, reply⟩ : Exchange) = ⟨.run host' command', reply'⟩ ↔
      host = host' ∧ command = command' ∧ reply = reply' := by
  constructor
  · intro h
    injection h with haction hreply
    injection haction with hhost hcommand
    subst hhost
    subst hcommand
    exact ⟨rfl, rfl, hreply⟩
  · rintro ⟨rfl, rfl, rfl⟩
    rfl

namespace Command

variable {name name' group workload : String}

/-! ## Texts -/

theorem partitionSummary_toList : partitionSummary.toList = "/opt/hpvm/bin/vparstatus".toList :=
  rfl

/-- The description is asked for with the name between two fixed texts. -/
theorem partitionDetail_toList (name : String) :
    (partitionDetail name).toList =
      "/opt/hpvm/bin/vparstatus -p ".toList ++ (name.toList ++ " -v".toList) := by
  show (vparstatus ++ " -p " ++ name ++ " -v").toList = _
  -- the parts of an interpolated text, one after the other
  simp [vparstatus]

/-- So is the hard stop. -/
theorem resetPartition_toList (name : String) :
    (resetPartition name).toList =
      "/opt/hpvm/bin/vparreset -f -p ".toList ++ (name.toList ++ " -d".toList) := by
  show ("/opt/hpvm/bin/vparreset -f -p " ++ name ++ " -d").toList = _
  simp

/-- So is the removal of the definition. -/
theorem removePartition_toList (name : String) :
    (removePartition name).toList =
      "/opt/hpvm/bin/vparremove -p ".toList ++ (name.toList ++ " -f".toList) := by
  show ("/opt/hpvm/bin/vparremove -p " ++ name ++ " -f").toList = _
  simp

/-- The removal of a volume ends with its path. -/
theorem removeVolume_toList (group workload : String) :
    (removeVolume group workload).toList =
      "lvremove -f ".toList ++ (volumePath group workload).toList := by
  show ("lvremove -f " ++ volumePath group workload).toList = _
  simp

/-! ## Differences -/

@[simp] theorem partitionDetail_ne_partitionSummary : partitionDetail name ≠ partitionSummary := by
  -- the summary ends where the description goes on
  refine mt (congrArg String.toList) ?_
  rw [partitionDetail_toList, partitionSummary_toList]
  simp

@[simp] theorem partitionDetail_ne_resetPartition :
    partitionDetail name ≠ resetPartition name' := by
  -- the texts differ before the first name begins
  refine mt (congrArg String.toList) ?_
  rw [partitionDetail_toList, resetPartition_toList]
  simp

@[simp] theorem partitionDetail_ne_removePartition :
    partitionDetail name ≠ removePartition name' := by
  refine mt (congrArg String.toList) ?_
  rw [partitionDetail_toList, removePartition_toList]
  simp

@[simp] theorem removeVolume_ne_partitionDetail :
    removeVolume group workload ≠ partitionDetail name := by
  -- the first words differ
  refine mt (congrArg String.toList) ?_
  rw [removeVolume_toList, partitionDetail_toList]
  simp

@[simp] theorem removeVolume_ne_partitionSummary :
    removeVolume group workload ≠ partitionSummary := by
  refine mt (congrArg String.toList) ?_
  rw [removeVolume_toList, partitionSummary_toList]
  simp

@[simp] theorem removeVolume_ne_resetPartition :
    removeVolume group workload ≠ resetPartition name := by
  refine mt (congrArg String.toList) ?_
  rw [removeVolume_toList, resetPartition_toList]
  simp

@[simp] theorem removeVolume_ne_removePartition :
    removeVolume group workload ≠ removePartition name := by
  refine mt (congrArg String.toList) ?_
  rw [removeVolume_toList, removePartition_toList]
  simp

end Command

end VparFleet
