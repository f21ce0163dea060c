import VparFleet.Proofs.Controller.Removing
import VparFleet.Proofs.Program.Course
import VparFleet.Proofs.Tasks.Placements

/-!
# The course of a removal

All ways in which a removal can go when nothing else is under way: which commands it sends in which
order, where it stops, what it ends with, and what it leaves in the store. It stops at the first
failure, and nothing but a complete removal changes the store.

* `ScanCourse`: the search for the partition, node by node.
* `EngineCourse`: the removal from the node; a fault bears the name of its step.
* `RemovalCourse`: the whole.
-/

namespace VparFleet

open Store

/-- Ways to ask nodes for their running partitions, with the partitions or the first fault. -/
inductive ScanCourse : List Node → List Exchange → Outcome (List String) → Prop where
  /-- No node is left. -/
  | nil : ScanCourse [] [] (.ok [])
  /-- A node does not answer, and no other one is asked. -/
  | failed {node : Node} {nodes : List Node} {fault : Fault} :
    ScanCourse (node :: nodes) [⟨.run node.address Command.partitionSummary, .error fault⟩]
      (.error fault)
  /-- A node answers, and the others follow. -/
  | cons {node : Node} {nodes : List Node} {output : String} {scan : List Exchange}
    {outcome : Outcome (List String)} (rest : ScanCourse nodes scan outcome) :
    ScanCourse (node :: nodes)
      (⟨.run node.address Command.partitionSummary, .ok output⟩ :: scan)
      (outcome.map (Report.runningNames output.toList ++ ·))

/-- What a removal has done when it has read the state of the partition again. -/
def stateRead (p : Provisioner) (host name output report : String) : List Exchange :=
  [⟨.run host (Command.resetPartition name), .ok output⟩, ⟨.pause p.node.grace, ()⟩,
    ⟨.run host (Command.partitionDetail name), .ok report⟩]

/-- Ways to remove a partition from its node. -/
inductive EngineCourse (p : Provisioner) (host name workload : String) :
    List Exchange → Outcome DestroyOutcome → Prop where
  /-- The power off failed. -/
  | resetFailed {fault : Fault} :
    EngineCourse p host name workload [⟨.run host (Command.resetPartition name), .error fault⟩]
      (.error (fault.atStep "power off"))
  /-- The state could not be read. -/
  | stateUnread {output : String} {fault : Fault} :
    EngineCourse p host name workload
      [⟨.run host (Command.resetPartition name), .ok output⟩, ⟨.pause p.node.grace, ()⟩,
        ⟨.run host (Command.partitionDetail name), .error fault⟩]
      (.error (fault.atStep "read run state"))
  /-- The report on the state is malformed. -/
  | stateMalformed {output report : String} {flaw : Report.Flaw}
    (hread : Report.Detail.read report.toList = .error flaw) :
    EngineCourse p host name workload (stateRead p host name output report)
      (.error (flaw.fault.atStep "read run state"))
  /-- The partition was not seen down. -/
  | notDown {output report : String} {detail : Report.Detail}
    (hread : Report.Detail.read report.toList = .ok detail)
    (hstate : detail.powerState.isDown = false) :
    EngineCourse p host name workload (stateRead p host name output report) (.ok .skippedNotDown)
  /-- The definition could not be removed. -/
  | definitionKept {output report : String} {detail : Report.Detail} {fault : Fault}
    (hread : Report.Detail.read report.toList = .ok detail)
    (hstate : detail.powerState.isDown = true) :
    EngineCourse p host name workload
      (stateRead p host name output report ++
        [⟨.run host (Command.removePartition name), .error fault⟩])
      (.error (fault.atStep "remove definition"))
  /-- The volume could not be removed. -/
  | volumeKept {output report gone : String} {detail : Report.Detail} {fault : Fault}
    (hread : Report.Detail.read report.toList = .ok detail)
    (hstate : detail.powerState.isDown = true) :
    EngineCourse p host name workload
      (stateRead p host name output report ++
        [⟨.run host (Command.removePartition name), .ok gone⟩,
          ⟨.run host (Command.removeVolume p.node.volumeGroup workload), .error fault⟩])
      (.error (fault.atStep "remove volume"))
  /-- Definition and volume are gone. -/
  | removed {output report gone freed : String} {detail : Report.Detail}
    (hread : Report.Detail.read report.toList = .ok detail)
    (hstate : detail.powerState.isDown = true) :
    EngineCourse p host name workload
      (stateRead p host name output report ++
        [⟨.run host (Command.removePartition name), .ok gone⟩,
          ⟨.run host (Command.removeVolume p.node.volumeGroup workload), .ok freed⟩])
      (.ok .removed)

/-- A removal from a node sends its commands and pauses. -/
theorem EngineCourse.actions {p : Provisioner} {host name workload : String}
    {course : List Exchange} {outcome : Outcome DestroyOutcome}
    (h : EngineCourse p host name workload course outcome) :
    ∀ exchange ∈ course,
      (∃ command ∈ p.removalCommands name workload, exchange.action = .run host command) ∨
        ∃ span, exchange.action = .pause span := by
  cases h <;> simp [stateRead, Provisioner.removalCommands]

/-- Ways of a removal between taking the lock and giving it back, with the outcome and the store
that is left. -/
inductive RemovalCourse (c : Controller) (name : String) (store : Store) :
    List Exchange → Outcome DestroyOutcome → Store → Prop where
  /-- The nodes could not be read. -/
  | nodesUnread {fault : Fault} (hnodes : store.nodesAnswer = .error fault) :
    RemovalCourse c name store [⟨.listNodes, .error fault⟩] (.error fault) store
  /-- A node did not answer. -/
  | scanFailed {nodes : List Node} {scan : List Exchange} {fault : Fault}
    (hnodes : store.nodesAnswer = .ok nodes) (hscan : ScanCourse nodes scan (.error fault)) :
    RemovalCourse c name store (⟨.listNodes, .ok nodes⟩ :: scan) (.error fault) store
  /-- No node runs the partition. -/
  | notListed {nodes : List Node} {scan : List Exchange} {running : List String}
    (hnodes : store.nodesAnswer = .ok nodes) (hscan : ScanCourse nodes scan (.ok running))
    (hlisted : name ∉ running) :
    RemovalCourse c name store (⟨.listNodes, .ok nodes⟩ :: scan) (.ok .notPresent) store
  /-- The placement could not be read. -/
  | placementUnread {nodes : List Node} {scan : List Exchange} {running : List String}
    {fault : Fault} (hnodes : store.nodesAnswer = .ok nodes)
    (hscan : ScanCourse nodes scan (.ok running)) (hlisted : name ∈ running)
    (hplacement : store.placementAnswer name = .error fault) :
    RemovalCourse c name store
      (⟨.listNodes, .ok nodes⟩ :: scan ++ [⟨.findPlacement name, .error fault⟩])
      (.error fault) store
  /-- A node runs the partition, but there is no placement. -/
  | notPlaced {nodes : List Node} {scan : List Exchange} {running : List String}
    (hnodes : store.nodesAnswer = .ok nodes) (hscan : ScanCourse nodes scan (.ok running))
    (hlisted : name ∈ running) (hplacement : store.placementAnswer name = .ok none) :
    RemovalCourse c name store
      (⟨.listNodes, .ok nodes⟩ :: scan ++ [⟨.findPlacement name, .ok none⟩])
      (.error (Controller.notPlaced name)) store
  /-- The partition was not removed from its node. -/
  | kept {nodes : List Node} {scan steps : List Exchange} {running : List String}
    {placement : Placement} {outcome : Outcome DestroyOutcome}
    (hnodes : store.nodesAnswer = .ok nodes) (hscan : ScanCourse nodes scan (.ok running))
    (hlisted : name ∈ running) (hplacement : store.placementAnswer name = .ok (some placement))
    (hsteps : EngineCourse c.provisioner placement.node name placement.workload steps outcome)
    (hkept : outcome ≠ .ok .removed) :
    RemovalCourse c name store
      (⟨.listNodes, .ok nodes⟩ :: scan ++ ⟨.findPlacement name, .ok (some placement)⟩ :: steps)
      outcome store
  /-- The partition was removed from its node, and its placement is forgotten. -/
  | forgotten {nodes : List Node} {scan steps : List Exchange} {running : List String}
    {placement : Placement} {there : Bool}
    (hnodes : store.nodesAnswer = .ok nodes) (hscan : ScanCourse nodes scan (.ok running))
    (hlisted : name ∈ running) (hplacement : store.placementAnswer name = .ok (some placement))
    (hsteps : EngineCourse c.provisioner placement.node name placement.workload steps
      (.ok .removed)) :
    RemovalCourse c name store
      (⟨.listNodes, .ok nodes⟩ :: scan ++ ⟨.findPlacement name, .ok (some placement)⟩ :: steps ++
        [⟨.removePlacement placement.workload, .ok there⟩])
      (.ok .removed) { store with placements := store.placements.erase placement.workload }

/-! ## Every removal takes one of these courses -/

section Walk

open Operation Program

variable {α : Type} {c : Controller} {name host workload : String} {past : List Exchange}
  {shared : Shared} {goal : List Exchange → Shared → Outcome α → Prop}

/-- A node is asked for its partitions once. -/
theorem runningOn_alone (node : Node) :
    (Controller.runningOn node).run.Alone 0 (fun past' shared' outcome => shared' = shared ∧
      ∃ reply : Outcome String,
        past' = past ++ [⟨.run node.address Command.partitionSummary, reply⟩] ∧
        outcome = reply.map fun output => Report.runningNames output.toList) past shared := by
  refine (alone_outside rfl).mpr fun reply => ?_
  rcases reply with fault | output
  · exact ⟨rfl, .error fault, rfl, rfl⟩
  · exact ⟨rfl, .ok output, rfl, rfl⟩

/-- The nodes are asked one after the other, up to the first that does not answer. -/
theorem mapM_runningOn_alone (nodes : List Node) :
    (nodes.mapM Controller.runningOn).run.Alone 0 (fun past' shared' outcome => shared' = shared ∧
      ∃ scan, past' = past ++ scan ∧ ScanCourse nodes scan (outcome.map List.flatten))
      past shared := by
  -- along the nodes; the first that does not answer ends the search
  induction nodes generalizing past with
  | nil =>
    rw [List.mapM_nil]
    exact ⟨rfl, [], (List.append_nil past).symm, .nil⟩
  | cons node nodes ih =>
    rw [List.mapM_cons, run_bind, alone_bind]
    refine (runningOn_alone node).goal_mono ?_
    rintro past' shared' outcome ⟨rfl, reply, rfl, rfl⟩
    rcases reply with fault | output
    · exact ⟨rfl, _, rfl, .failed⟩
    · show ((nodes.mapM Controller.runningOn >>= fun rest =>
        pure (Report.runningNames output.toList :: rest)).run).Alone _ _ _ _
      rw [run_bind, alone_bind]
      refine ih.goal_mono ?_
      rintro past' shared' outcome ⟨rfl, scan, rfl, hscan⟩
      rw [List.append_assoc]
      rcases outcome with fault | rest
      · exact ⟨rfl, _, rfl, hscan.cons⟩
      · exact ⟨rfl, _, rfl, hscan.cons⟩

/-- In any company a removal from a node takes one of the courses. -/
theorem engine_leads (p : Provisioner) :
    (p.destroy host name workload).run.Leads (EngineCourse p host name workload) := by
  -- reset
  intro reply
  rcases reply with fault | output
  · exact .resetFailed
  -- the pause, and the state is read again
  intro _ reply
  rcases reply with fault | report
  · exact .stateUnread
  show (((Operation.ofOutcome (Report.orFault (Report.Detail.read report.toList))).atStep
    "read run state" >>= fun detail => (
      if !detail.powerState.isDown then pure .skippedNotDown
      else do
        let life ← Provisioner.reach ⟨name, .poweringOff⟩ .stopped
        let _ ← .atStep "remove definition" (.exec host (Command.removePartition name))
        let _ ← .atStep "remove volume"
          (.exec host (Command.removeVolume p.node.volumeGroup workload))
        let _ ← Provisioner.reach life .removed
        return .removed : Operation DestroyOutcome)).run).Leads _
  cases hread : Report.Detail.read report.toList with
  | error flaw => exact .stateMalformed hread
  | ok detail =>
    show ((if !detail.powerState.isDown then pure .skippedNotDown else _
      : Operation DestroyOutcome).run).Leads _
    cases hstate : detail.powerState.isDown with
    | false => exact .notDown hread hstate
    | true =>
      -- the definition
      intro reply
      rcases reply with fault | gone
      · exact .definitionKept hread hstate
      -- the volume
      intro reply
      rcases reply with fault | freed
      · exact .volumeKept hread hstate
      · exact .removed hread hstate

/-- What the remote part of a removal does by itself. -/
theorem engine_alone (p : Provisioner) :
    (p.destroy host name workload).run.Alone 0 (fun past' shared' outcome => shared' = shared ∧
      ∃ steps, past' = past ++ steps ∧ EngineCourse p host name workload steps outcome)
      past shared := by
  have huses : (p.destroy host name workload).run.Uses fun action =>
      (∃ command ∈ p.removalCommands name workload, action = .run host command) ∨
        ∃ span, action = .pause span :=
    (engine_leads p).uses fun _ _ h => h.actions
  refine (engine_leads p).alone huses ?_
  rintro action (⟨command, -, rfl⟩ | ⟨span, rfl⟩)
  · rfl
  · rfl

/-- A question about the names of all running partitions. -/
theorem listed_alone (answer : List String → α) :
    (Controller.list >>= fun names => pure (answer names)).run.Alone 0
      (fun past' shared' outcome => shared' = shared ∧
        ((∃ fault, shared.store.nodesAnswer = .error fault ∧
            past' = past ++ [⟨.listNodes, .error fault⟩] ∧ outcome = .error fault) ∨
          ∃ nodes scan found, shared.store.nodesAnswer = .ok nodes ∧
            past' = past ++ ⟨.listNodes, .ok nodes⟩ :: scan ∧ ScanCourse nodes scan found ∧
            outcome = found.map answer))
      past shared := by
  refine (alone_inside (shared.answer_listNodes 0)).mpr ?_
  cases hnodes : shared.store.nodesAnswer with
  | error fault => exact ⟨rfl, Or.inl ⟨fault, rfl, rfl, rfl⟩⟩
  | ok nodes =>
    -- the answer is made of the names of all nodes, so it takes no action of its own
    show (((nodes.mapM Controller.runningOn >>= fun names => pure names.flatten) >>= fun names =>
      pure (answer names)).run).Alone _ _ _ _
    rw [run_bind, run_bind, alone_bind, alone_bind]
    refine (mapM_runningOn_alone nodes).goal_mono ?_
    rintro past' shared' outcome ⟨rfl, scan, rfl, hscan⟩
    rw [List.append_assoc]
    rcases outcome with fault | names
    · exact ⟨rfl, Or.inr ⟨nodes, scan, _, rfl, rfl, hscan, rfl⟩⟩
    · exact ⟨rfl, Or.inr ⟨nodes, scan, _, rfl, rfl, hscan, rfl⟩⟩

/-- What a removal does by itself while it has the name. -/
theorem destroyHeld_alone :
    (c.destroyHeld name).run.Alone 0 (fun past' shared' outcome => ∃ course,
      past' = past ++ course ∧ RemovalCourse c name shared.store course outcome shared'.store)
      past shared := by
  show ((Controller.exists? name >>= fun there => _ : Operation DestroyOutcome).run).Alone _ _ _ _
  rw [run_bind, alone_bind]
  -- the search leaves everything shared as it was
  refine (listed_alone (·.contains name)).goal_mono ?_
  rintro past' shared' outcome
    ⟨rfl, ⟨fault, hnodes, rfl, rfl⟩ | ⟨nodes, scan, found, hnodes, rfl, hscan, rfl⟩⟩
  · exact ⟨_, rfl, .nodesUnread hnodes⟩
  rcases found with fault | running
  · exact ⟨_, rfl, .scanFailed hnodes hscan⟩
  show ((if !(running.contains name) then pure .notPresent else _
    : Operation DestroyOutcome).run).Alone _ _ _ _
  cases hcontains : running.contains name with
  | false =>
    have hlisted : name ∉ running := by simpa using hcontains
    exact ⟨_, rfl, .notListed hnodes hscan hlisted⟩
  | true =>
    -- listed: the store says where the partition is placed
    have hlisted : name ∈ running := by simpa using hcontains
    refine (alone_inside (shared'.answer_findPlacement 0 name)).mpr ?_
    rw [List.append_assoc]
    rcases hplacement : shared'.store.placementAnswer name with fault | _ | placement
    · exact ⟨_, rfl, .placementUnread hnodes hscan hlisted hplacement⟩
    · exact ⟨_, rfl, .notPlaced hnodes hscan hlisted hplacement⟩
    show ((c.provisioner.destroy placement.node name placement.workload >>= fun outcome => (do
      if outcome = .removed then
        let _ ← .removePlacement placement.workload
      return outcome : Operation DestroyOutcome)).run).Alone _ _ _ _
    rw [run_bind, alone_bind]
    refine (engine_alone c.provisioner).goal_mono ?_
    rintro past' shared' outcome ⟨rfl, steps, rfl, hsteps⟩
    rw [List.append_assoc, List.append_assoc]
    rcases outcome with fault | outcome
    · exact ⟨_, rfl, .kept hnodes hscan hlisted hplacement hsteps nofun⟩
    by_cases hremoved : outcome = .removed
    · -- the store was open when the nodes were read, so the placement can be removed
      subst hremoved
      have hopen := isOpen_of_nodesAnswer hnodes
      refine (alone_inside (shared'.answer_removePlacement 0 placement.workload hopen)).mpr ?_
      rw [List.append_assoc]
      exact ⟨_, rfl, .forgotten hnodes hscan hlisted hplacement hsteps⟩
    · have hkept : (.ok outcome : Outcome DestroyOutcome) ≠ .ok .removed :=
        fun h => hremoved (Except.ok.inj h)
      show ((if outcome = .removed then _ else pure outcome
        : Operation DestroyOutcome).run).Alone _ _ _ _
      rw [if_neg hremoved]
      exact ⟨_, rfl, .kept hnodes hscan hlisted hplacement hsteps hkept⟩

end Walk

end VparFleet
