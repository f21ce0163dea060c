import VparFleet.Proofs.Controller.Holding
import VparFleet.Proofs.Provisioning.Remote

/-!
# What a removal does

A removal takes the lock on the name, asks every node for its partitions, looks for the placement,
and works on the node that the placement names. Only a complete removal forgets the placement.

* `DestroyRule`: what a removal may do; `destroy_obeys`: it does nothing else, whatever it is
  answered.
* `ForgetsOnlyRemoved`: a removal that forgets a placement ends with `removed`.
-/

namespace VparFleet

/-- The commands that a removal sends to the node of a partition. -/
def Provisioner.removalCommands (p : Provisioner) (name workload : String) : List String :=
  [Command.resetPartition name, Command.partitionDetail name, Command.removePartition name,
    Command.removeVolume p.node.volumeGroup workload]

namespace Controller

open Operation Program

variable {c : Controller} {name : String} {past : List Exchange}

/-- What a removal may do. It looks once for the placement, and sends anything but the summary to
the node that the placement names. -/
def DestroyRule (c : Controller) (name : String) (past : List Exchange) :
    Action → Prop
  | .lockName other => past = [] ∧ other = name
  | .recordPlacement _ => False
  | .findPlacement other =>
    held past = some name ∧ other = name ∧ ∀ reply, ⟨.findPlacement name, reply⟩ ∉ past
  | .run host command =>
    held past = some name ∧
      (command = Command.partitionSummary ∨
        ∃ placement, ⟨.findPlacement name, .ok (some placement)⟩ ∈ past ∧
          host = placement.node ∧ command ∈ c.provisioner.removalCommands name placement.workload)
  | .removePlacement workload =>
    held past = some name ∧
      ∃ placement, ⟨.findPlacement name, .ok (some placement)⟩ ∈ past ∧
        workload = placement.workload
  | action => held past = some name ∧ action.isRemote = false

/-- What a removal does on hosts is a summary, or a command for the partition that was found. -/
theorem DestroyRule.remote {action : Action} (h : c.DestroyRule name past action)
    (hr : action.isRemote = true) :
    (∃ host, action = .run host Command.partitionSummary) ∨
      ∃ placement, ⟨.findPlacement name, .ok (some placement)⟩ ∈ past ∧
        ∃ command ∈ c.provisioner.removalCommands name placement.workload,
          action = .run placement.node command := by
  cases action with
  | run host command =>
    rcases h.2 with rfl | ⟨placement, hfind, rfl, hmem⟩
    · exact Or.inl ⟨host, rfl⟩
    · exact Or.inr ⟨placement, hfind, command, hmem, rfl⟩
  | openConsole | send | waitForPrompt | closeConsole => exact nomatch h.2
  | _ => exact nomatch hr

/-! ## The search -/

/-- Whether an action is a part of the search for a running partition. -/
def IsScan (action : Action) : Prop :=
  action = .listNodes ∨ ∃ host, action = .run host Command.partitionSummary

theorem list_uses : list.run.Uses IsScan := by
  refine Uses.andThen ⟨Or.inl rfl, fun _ => uses_done⟩ fun nodes => ?_
  refine Uses.andThen (Uses.mapM (fun node => ?_) nodes) fun _ => uses_done
  exact (Uses.exec (Or.inr ⟨_, rfl⟩)).andThen fun _ => uses_done

theorem exists?_uses : (exists? name).run.Uses IsScan :=
  list_uses.andThen fun _ => uses_done

/-- What a removal has done before it looks for the placement. -/
def Scanned (name : String) (past : List Exchange) : Prop :=
  held past = some name ∧ ∀ exchange ∈ past,
    exchange.action = .lockName name ∨ IsScan exchange.action

/-- A scan looks for no placement. -/
theorem Scanned.not_found (h : Scanned name past) (reply : (Action.findPlacement name).Reply) :
    ⟨.findPlacement name, reply⟩ ∉ past := by
  -- a search for placements is no part of the search for the partition
  intro hmem
  rcases h.2 _ hmem with h | h | ⟨host, h⟩ <;> exact nomatch h

theorem Scanned.not_removed (h : Scanned name past) (workload : String) (there : Bool) :
    ⟨.removePlacement workload, .ok there⟩ ∉ past := by
  intro hmem
  rcases h.2 _ hmem with h | h | ⟨host, h⟩ <;> exact nomatch h

/-- The scan of a removal runs with the name held. -/
theorem exists?_obeys :
    (exists? name).run.Obeys (c.DestroyRule name) (fun past _ => Scanned name past)
      [⟨.lockName name, ()⟩] := by
  refine Uses.obeys exists?_uses ?_ ?_ ⟨rfl, by simp⟩
  · -- both kinds of action are allowed with the name held
    rintro past action ⟨hh, -⟩ (rfl | ⟨host, rfl⟩)
    · exact ⟨hh, rfl⟩
    · exact ⟨hh, Or.inl rfl⟩
  · rintro past action reply ⟨hh, hall⟩ hscan
    refine ⟨?_, ?_⟩
    · -- a scan neither takes nor gives back a name
      rw [held_concat]
      rcases hscan with rfl | ⟨host, rfl⟩ <;> exact hh
    · intro exchange hmem
      rcases List.mem_append.mp hmem with hmem | hmem
      · exact hall exchange hmem
      · rw [List.mem_singleton.mp hmem]
        exact Or.inr hscan

/-! ## The removal -/

/-- Whether an action is a part of the removal of a partition from its node. -/
def IsRemoval (c : Controller) (name : String) (placement : Placement) (action : Action) : Prop :=
  (∃ command ∈ c.provisioner.removalCommands name placement.workload,
    action = .run placement.node command) ∨ ∃ span, action = .pause span

/-- The remote part of a removal is four commands and a pause. -/
theorem destroy_uses {placement : Placement} :
    (c.provisioner.destroy placement.node name placement.workload).run.Uses
      (c.IsRemoval name placement) := by
  have hexec (command : String)
      (h : command ∈ c.provisioner.removalCommands name placement.workload) :
      (Operation.exec placement.node command).run.Uses (c.IsRemoval name placement) :=
    Uses.exec (Or.inl ⟨command, h, rfl⟩)
  -- power off: reset and pause
  refine Uses.andThen uses_done fun life => Uses.andThen (Uses.atStep ?_) fun _ => ?_
  · refine (hexec _ (by simp [Provisioner.removalCommands])).andThen fun _ => ?_
    exact ⟨Or.inr ⟨_, rfl⟩, fun _ => uses_done⟩
  -- the state is read again
  refine Uses.andThen (Uses.atStep ?_) fun detail => ?_
  · exact (hexec _ (by simp [Provisioner.removalCommands])).andThen fun _ => uses_done
  split
  · exact uses_done
  -- seen down: definition and volume go
  refine Uses.andThen uses_done fun life => ?_
  refine (hexec _ (by simp [Provisioner.removalCommands])).atStep.andThen fun _ => ?_
  refine (hexec _ (by simp [Provisioner.removalCommands])).atStep.andThen fun _ => ?_
  exact Uses.andThen uses_done fun _ => uses_done

/-- What holds while a placed partition is removed from its node. -/
def Removing (name : String) (placement : Placement) (past : List Exchange) : Prop :=
  held past = some name ∧ ⟨.findPlacement name, .ok (some placement)⟩ ∈ past ∧
    ∀ workload there, ⟨.removePlacement workload, .ok there⟩ ∉ past

/-- The remote part of a removal keeps the name and the placement that was found. -/
theorem destroyPlaced_obeys {placement : Placement} (h : Removing name placement past) :
    (c.provisioner.destroy placement.node name placement.workload).run.Obeys
      (c.DestroyRule name) (fun past _ => Removing name placement past) past := by
  refine Uses.obeys destroy_uses ?_ ?_ h
  · rintro past action ⟨hh, hfind, -⟩ (⟨command, hmem, rfl⟩ | ⟨span, rfl⟩)
    · exact ⟨hh, Or.inr ⟨placement, hfind, rfl, hmem⟩⟩
    · exact ⟨hh, rfl⟩
  · rintro past action reply ⟨hh, hfind, hnot⟩ hremoval
    refine ⟨?_, List.mem_append_left _ hfind, fun workload there hmem => ?_⟩
    · rw [held_concat]
      rcases hremoval with ⟨command, -, rfl⟩ | ⟨span, rfl⟩ <;> exact hh
    · -- no command and no pause forgets a placement
      rcases List.mem_append.mp hmem with hmem | hmem
      · exact hnot workload there hmem
      · rcases hremoval with ⟨command, -, rfl⟩ | ⟨span, rfl⟩ <;>
          exact nomatch List.mem_singleton.mp hmem

/-- A removal that forgets a placement ends with `removed`. -/
def ForgetsOnlyRemoved (past : List Exchange) (outcome : Outcome DestroyOutcome) : Prop :=
  ∀ workload there, ⟨.removePlacement workload, .ok there⟩ ∈ past → outcome = .ok .removed

/-- A removal that has its name obeys the rule. -/
theorem destroyHeld_obeys :
    (c.destroyHeld name).run.Obeys (c.DestroyRule name)
      (fun past outcome => held past = some name ∧ ForgetsOnlyRemoved past outcome)
      [⟨.lockName name, ()⟩] := by
  -- whoever has forgotten nothing may end as it likes
  have hnot {past : List Exchange} {outcome : Outcome DestroyOutcome}
      (h : ∀ workload there, ⟨.removePlacement workload, .ok there⟩ ∉ past) :
      ForgetsOnlyRemoved past outcome :=
    fun workload there hmem => absurd hmem (h workload there)
  -- first the search for the partition on the nodes
  refine obeys_run_bind _ exists?_obeys ?_ fun past fault h => ⟨h.1, hnot h.not_removed⟩
  intro past there hscanned
  cases there with
  | false => exact ⟨hscanned.1, hnot hscanned.not_removed⟩
  | true =>
    -- it is listed: the one look for its placement
    refine ⟨⟨hscanned.1, rfl, hscanned.not_found⟩, fun reply => ?_⟩
    have hh : held (past ++ [⟨.findPlacement name, reply⟩]) = some name := by
      rw [held_concat]
      exact hscanned.1
    have hkept (workload : String) (there : Bool) :
        ⟨.removePlacement workload, .ok there⟩ ∉ past ++ [⟨.findPlacement name, reply⟩] := by
      intro hmem
      rcases List.mem_append.mp hmem with hmem | hmem
      · exact hscanned.not_removed workload there hmem
      · exact nomatch List.mem_singleton.mp hmem
    rcases reply with fault | _ | placement
    · exact ⟨hh, hnot hkept⟩
    · exact ⟨hh, hnot hkept⟩
    -- the removal from the node that the placement names
    refine obeys_run_bind _ (destroyPlaced_obeys ⟨hh, by simp, hkept⟩) ?_ ?_
    · rintro past outcome ⟨hh, hfind, hkept⟩
      -- only a complete removal goes on to forget the placement
      by_cases ho : outcome = .removed
      · subst ho
        refine ⟨⟨hh, placement, hfind, rfl⟩, fun reply => ?_⟩
        have hh' : held (past ++ [⟨.removePlacement placement.workload, reply⟩]) = some name := by
          rw [held_concat]
          exact hh
        rcases reply with fault | there
        · refine ⟨hh', hnot fun workload there hmem => ?_⟩
          rcases List.mem_append.mp hmem with hmem | hmem
          · exact hkept workload there hmem
          · exact nomatch List.mem_singleton.mp hmem
        · exact ⟨hh', fun _ _ _ => rfl⟩
      · simp only [if_neg ho]
        exact ⟨hh, hnot hkept⟩
    · rintro past fault ⟨hh, -, hkept⟩
      exact ⟨hh, hnot hkept⟩

/-- Every removal obeys the rule from its beginning, and forgets a placement only when it ends with
that. -/
theorem destroy_obeys :
    (c.destroy name).run.Obeys (c.DestroyRule name) ForgetsOnlyRemoved [] := by
  refine holding_obeys ⟨rfl, rfl⟩ destroyHeld_obeys ?_
  rintro past outcome ⟨hh, hforgets⟩
  refine ⟨⟨hh, rfl⟩, fun workload there hmem => hforgets workload there ?_⟩
  rcases List.mem_append.mp hmem with hmem | hmem
  · exact hmem
  · exact nomatch List.mem_singleton.mp hmem

end Controller

end VparFleet
