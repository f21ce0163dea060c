import VparFleet.Proofs.Controller.RemovalCourse
import VparFleet.Proofs.Controller.Serving
import VparFleet.Proofs.Provisioning.RemovalCommands

/-!
# The outcome of a removal

From the commands of a removal and their answers one can tell how it ends, and the other way round.

* `RemovalCourse.notPresent_iff`, `RemovalCourse.skippedNotDown_iff`, `RemovalCourse.removed_iff`:
  when a removal ends with which outcome.
* `RemovalCourse.fault_origin`: a fault is that of the store or of a command, under the name of its
  step, and never one of the life of the partition.
* `destroy_alone_gated`: every removal that runs alone comes to an end, by one of the courses.
-/

namespace VparFleet

open Store

variable {c : Controller} {p : Provisioner} {name host workload : String} {store store' : Store}
  {course scan steps : List Exchange} {nodes : List Node} {running : List String}
  {outcome : Outcome DestroyOutcome} {fault : Fault}

/-! ## The search -/

/-- Whether some summary lists a partition as up. -/
def Listed (name : String) (course : List Exchange) : Prop :=
  ∃ host output, ⟨.run host Command.partitionSummary, .ok output⟩ ∈ course ∧
    name ∈ Report.runningNames output.toList

theorem Listed.mono (h : Listed name scan) (hsub : ∀ exchange ∈ scan, exchange ∈ course) :
    Listed name course := by
  obtain ⟨host, output, hmem, hname⟩ := h
  exact ⟨host, output, hsub _ hmem, hname⟩

/-- Whether the nodes were read and every summary was answered. -/
def Searched (course : List Exchange) : Prop :=
  (∃ nodes, ⟨.listNodes, .ok nodes⟩ ∈ course) ∧
    ∀ host fault, ⟨.run host Command.partitionSummary, .error fault⟩ ∉ course

namespace ScanCourse

variable {found : Outcome (List String)}

/-- A scan asks nodes for their partitions, and does nothing else. -/
theorem mem (h : ScanCourse nodes scan found) {exchange : Exchange} (hmem : exchange ∈ scan) :
    ∃ node ∈ nodes, ∃ reply : Outcome String,
      exchange = ⟨.run node.address Command.partitionSummary, reply⟩ := by
  induction h with
  | nil => exact nomatch hmem
  | @failed node nodes fault =>
    exact ⟨node, List.mem_cons_self, .error fault, List.mem_singleton.mp hmem⟩
  | @cons node nodes output scan found rest ih =>
    rcases List.mem_cons.mp hmem with rfl | hmem
    · exact ⟨node, List.mem_cons_self, .ok output, rfl⟩
    · obtain ⟨other, hother, hreply⟩ := ih hmem
      exact ⟨other, List.mem_cons_of_mem _ hother, hreply⟩

/-- So every command of a scan is a summary. -/
theorem command_eq (h : ScanCourse nodes scan found) {host command : String}
    {reply : Outcome String} (hmem : ⟨.run host command, reply⟩ ∈ scan) :
    command = Command.partitionSummary := by
  obtain ⟨node, -, reply', heq⟩ := h.mem hmem
  exact (run_exchange_inj.mp heq).2.1

/-- A search that fails ends with the fault of a node. -/
theorem unanswered (h : ScanCourse nodes scan found) (hf : found = .error fault) :
    ∃ host, ⟨.run host Command.partitionSummary, .error fault⟩ ∈ scan := by
  induction h with
  | nil => exact nomatch hf
  | @failed node nodes fault' =>
    obtain rfl := Except.error.inj hf
    exact ⟨node.address, List.mem_cons_self⟩
  | @cons node nodes output scan found rest ih =>
    rcases found with fault' | running
    · obtain rfl := Except.error.inj hf
      obtain ⟨host, hmem⟩ := ih rfl
      exact ⟨host, List.mem_cons_of_mem _ hmem⟩
    · exact nomatch hf

/-- In a search that does not fail every node answers. -/
theorem answered (h : ScanCourse nodes scan found) (hf : found = .ok running) (host : String)
    (fault : Fault) : ⟨.run host Command.partitionSummary, .error fault⟩ ∉ scan := by
  induction h generalizing running with
  | nil => exact List.not_mem_nil
  | failed => exact nomatch hf
  | @cons node nodes output scan found rest ih =>
    rcases found with fault' | running
    · exact nomatch hf
    · intro hmem
      rcases List.mem_cons.mp hmem with heq | hmem
      · exact nomatch (run_exchange_inj.mp heq).2.2
      · exact ih rfl hmem

/-- What a search finds is what the summaries list. -/
theorem mem_running_iff (h : ScanCourse nodes scan found) (hf : found = .ok running) :
    name ∈ running ↔ Listed name scan := by
  -- node by node, since every table of a scan that went well adds its own names
  induction h generalizing running with
  | nil =>
    obtain rfl := Except.ok.inj hf
    simp [Listed]
  | failed => exact nomatch hf
  | @cons node nodes output scan found rest ih =>
    rcases found with fault' | others
    · exact nomatch hf
    obtain rfl := Except.ok.inj hf
    rw [List.mem_append, ih rfl]
    constructor
    · rintro (hmem | ⟨host, out, hmem, hname⟩)
      · exact ⟨node.address, output, List.mem_cons_self, hmem⟩
      · exact ⟨host, out, List.mem_cons_of_mem _ hmem, hname⟩
    · rintro ⟨host, out, hmem, hname⟩
      rcases List.mem_cons.mp hmem with heq | hmem
      · obtain ⟨-, -, hout⟩ := run_exchange_inj.mp heq
        obtain rfl := Except.ok.inj hout
        exact Or.inl hname
      · exact Or.inr ⟨host, out, hmem, hname⟩

end ScanCourse

/-! ## The removal from the node -/

/-- The steps of the removal from a node, each with its command. -/
def Provisioner.removalSteps (p : Provisioner) (name workload : String) : List (String × String) :=
  [("power off", Command.resetPartition name), ("read run state", Command.partitionDetail name),
    ("remove definition", Command.removePartition name),
    ("remove volume", Command.removeVolume p.node.volumeGroup workload)]

/-- A description of the partition in the steps up to the reading of the state is the one read. -/
theorem report_of_mem_stateRead {other output report report' : String}
    (h : ⟨.run other (Command.partitionDetail name), .ok report'⟩ ∈
      stateRead p host name output report) : report' = report := by
  rcases List.mem_cons.mp h with heq | h
  · exact absurd (run_exchange_inj.mp heq).2.1 (by simp)
  rcases List.mem_cons.mp h with heq | h
  · exact nomatch heq
  · have hreply := (run_exchange_inj.mp (List.mem_singleton.mp h)).2.2
    exact Except.ok.inj hreply

namespace EngineCourse

variable {other report : String} {detail : Report.Detail}

/-- Who reads that the partition is not down stops there. -/
theorem skipped_of_mem (h : EngineCourse p host name workload steps outcome)
    (hmem : ⟨.run other (Command.partitionDetail name), .ok report⟩ ∈ steps)
    (hread : Report.Detail.read report.toList = .ok detail)
    (hstate : detail.powerState.isDown = false) : outcome = .ok .skippedNotDown := by
  -- in what comes after a partition was read to be down, no other state was read
  have hdown {output report' : String} {detail' : Report.Detail} {tail : List Exchange}
      (hmem : ⟨.run other (Command.partitionDetail name), .ok report⟩ ∈
        stateRead p host name output report' ++ tail)
      (htail : ⟨.run other (Command.partitionDetail name), .ok report⟩ ∉ tail)
      (hread' : Report.Detail.read report'.toList = .ok detail')
      (hstate' : detail'.powerState.isDown = true) : False := by
    rcases List.mem_append.mp hmem with hmem | hmem
    · obtain rfl := report_of_mem_stateRead hmem
      obtain rfl := Except.ok.inj (hread.symm.trans hread')
      exact nomatch hstate.symm.trans hstate'
    · exact htail hmem
  cases h with
  | resetFailed =>
    -- no state was read at all
    exact absurd (run_exchange_inj.mp (List.mem_singleton.mp hmem)).2.1 (by simp)
  | stateUnread =>
    rcases List.mem_cons.mp hmem with heq | hmem
    · exact absurd (run_exchange_inj.mp heq).2.1 (by simp)
    rcases List.mem_cons.mp hmem with heq | hmem
    · exact nomatch heq
    · exact nomatch (run_exchange_inj.mp (List.mem_singleton.mp hmem)).2.2
  -- the one report that was read is malformed
  | stateMalformed hread' =>
    obtain rfl := report_of_mem_stateRead hmem
    exact nomatch hread.symm.trans hread'
  | notDown => rfl
  | definitionKept hread' hstate' =>
    refine (hdown hmem ?_ hread' hstate').elim
    intro hmem
    exact absurd (run_exchange_inj.mp (List.mem_singleton.mp hmem)).2.1 (by simp)
  | volumeKept hread' hstate' | removed hread' hstate' =>
    refine (hdown hmem ?_ hread' hstate').elim
    intro hmem
    rcases List.mem_cons.mp hmem with heq | hmem
    · exact absurd (run_exchange_inj.mp heq).2.1 (by simp)
    · exact absurd (run_exchange_inj.mp (List.mem_singleton.mp hmem)).2.1.symm (by simp)

/-- A removal that skips a partition has read a state that is not down. -/
theorem exists_of_skipped (h : EngineCourse p host name workload steps outcome)
    (ho : outcome = .ok .skippedNotDown) :
    ∃ report detail, ⟨.run host (Command.partitionDetail name), .ok report⟩ ∈ steps ∧
      Report.Detail.read report.toList = .ok detail ∧ detail.powerState.isDown = false := by
  cases h with
  | @notDown output report detail hread hstate =>
    exact ⟨report, detail, .tail _ (.tail _ (.head _)), hread, hstate⟩
  | _ => exact nomatch ho

/-- Who has removed a volume has removed everything. -/
theorem removed_of_mem {group workload' freed : String}
    (h : EngineCourse p host name workload steps outcome)
    (hmem : ⟨.run other (Command.removeVolume group workload'), .ok freed⟩ ∈ steps) :
    outcome = .ok .removed := by
  -- up to the reading of the state no volume is removed
  have hstate {output report : String} :
      ⟨.run other (Command.removeVolume group workload'), .ok freed⟩ ∉
        stateRead p host name output report := by
    intro hmem
    rcases List.mem_cons.mp hmem with heq | hmem
    · exact absurd (run_exchange_inj.mp heq).2.1 (by simp)
    rcases List.mem_cons.mp hmem with heq | hmem
    · exact nomatch heq
    · exact absurd (run_exchange_inj.mp (List.mem_singleton.mp hmem)).2.1 (by simp)
  cases h with
  | resetFailed =>
    exact absurd (run_exchange_inj.mp (List.mem_singleton.mp hmem)).2.1 (by simp)
  | stateUnread =>
    rcases List.mem_cons.mp hmem with heq | hmem
    · exact absurd (run_exchange_inj.mp heq).2.1 (by simp)
    rcases List.mem_cons.mp hmem with heq | hmem
    · exact nomatch heq
    · exact absurd (run_exchange_inj.mp (List.mem_singleton.mp hmem)).2.1 (by simp)
  | stateMalformed | notDown => exact absurd hmem hstate
  | definitionKept =>
    rcases List.mem_append.mp hmem with hmem | hmem
    · exact absurd hmem hstate
    · exact absurd (run_exchange_inj.mp (List.mem_singleton.mp hmem)).2.1 (by simp)
  | volumeKept =>
    rcases List.mem_append.mp hmem with hmem | hmem
    · exact absurd hmem hstate
    rcases List.mem_cons.mp hmem with heq | hmem
    · exact absurd (run_exchange_inj.mp heq).2.1 (by simp)
    · exact nomatch (run_exchange_inj.mp (List.mem_singleton.mp hmem)).2.2
  | removed => rfl

/-- A removal that removes a partition has all its commands answered. -/
theorem commands_of_removed (h : EngineCourse p host name workload steps outcome)
    (ho : outcome = .ok .removed) :
    ∀ command ∈ p.removalCommands name workload,
      ∃ output, ⟨.run host command, .ok output⟩ ∈ steps := by
  cases h with
  | @removed output report gone freed detail hread hstate =>
    -- the four commands are four exchanges of the course
    intro command hmem
    simp only [Provisioner.removalCommands, List.mem_cons, List.not_mem_nil, or_false] at hmem
    rcases hmem with rfl | rfl | rfl | rfl
    · exact ⟨output, .head _⟩
    · exact ⟨report, .tail _ (.tail _ (.head _))⟩
    · exact ⟨gone, .tail _ (.tail _ (.tail _ (.head _)))⟩
    · exact ⟨freed, .tail _ (.tail _ (.tail _ (.tail _ (.head _))))⟩
  | _ => cases ho

/-- A fault is that of the command of a step, or that of a malformed description. -/
theorem fault_origin (h : EngineCourse p host name workload steps outcome)
    (ho : outcome = .error fault) :
    ∃ step command cause, (step, command) ∈ p.removalSteps name workload ∧
      fault = cause.atStep step ∧ (⟨.run host command, .error cause⟩ ∈ steps ∨
        command = Command.partitionDetail name ∧ ∃ report flaw,
          ⟨.run host command, .ok report⟩ ∈ steps ∧
          Report.Detail.read report.toList = .error flaw ∧ cause = flaw.fault) := by
  cases h with
  | @resetFailed cause =>
    -- each fault comes with the command that it answers, at its place in the course
    refine ⟨_, _, cause, .head _, (Except.error.inj ho).symm, Or.inl (.head _)⟩
  | @stateUnread output cause =>
    refine ⟨_, _, cause, .tail _ (.head _), (Except.error.inj ho).symm, Or.inl ?_⟩
    exact .tail _ (.tail _ (.head _))
  | @stateMalformed output report flaw hread =>
    refine ⟨_, _, flaw.fault, .tail _ (.head _), (Except.error.inj ho).symm, Or.inr ?_⟩
    exact ⟨rfl, report, flaw, .tail _ (.tail _ (.head _)), hread, rfl⟩
  | @definitionKept output report detail cause =>
    refine ⟨_, _, cause, .tail _ (.tail _ (.head _)), (Except.error.inj ho).symm, Or.inl ?_⟩
    exact .tail _ (.tail _ (.tail _ (.head _)))
  | @volumeKept output report gone detail cause =>
    refine ⟨_, _, cause, .tail _ (.tail _ (.tail _ (.head _))), (Except.error.inj ho).symm,
      Or.inl ?_⟩
    exact .tail _ (.tail _ (.tail _ (.tail _ (.head _))))
  | _ => exact nomatch ho

end EngineCourse

/-! ## The whole -/

namespace RemovalCourse

/-- A removal sends nothing but summaries, or it works on the node of the placement that is
there. -/
theorem summaries_or_engine (h : RemovalCourse c name store course outcome store') :
    ((∀ host command reply, ⟨.run host command, reply⟩ ∈ course →
        command = Command.partitionSummary) ∧
      outcome ≠ .ok .skippedNotDown ∧ outcome ≠ .ok .removed) ∨
    ∃ placement steps, store.placementAnswer name = .ok (some placement) ∧
      EngineCourse c.provisioner placement.node name placement.workload steps outcome ∧
      (∀ exchange ∈ steps, exchange ∈ course) ∧
      ∀ host command reply, ⟨.run host command, reply⟩ ∈ course →
        command = Command.partitionSummary ∨ ⟨.run host command, reply⟩ ∈ steps := by
  -- the list of the nodes is no command
  have hlist {reply : Outcome (List Node)} {rest : List Exchange} {host command : String}
      {reply' : Outcome String} (hmem : ⟨.run host command, reply'⟩ ∈ ⟨.listNodes, reply⟩ :: rest) :
      ⟨.run host command, reply'⟩ ∈ rest := by
    rcases List.mem_cons.mp hmem with heq | hmem
    · exact nomatch heq
    · exact hmem
  cases h with
  | nodesUnread =>
    refine Or.inl ⟨fun host command reply hmem => ?_, nofun, nofun⟩
    exact nomatch hlist hmem
  | scanFailed hnodes hscan =>
    refine Or.inl ⟨fun host command reply hmem => ?_, nofun, nofun⟩
    exact hscan.command_eq (hlist hmem)
  | notListed hnodes hscan =>
    refine Or.inl ⟨fun host command reply hmem => ?_, nofun, nofun⟩
    exact hscan.command_eq (hlist hmem)
  | placementUnread hnodes hscan | notPlaced hnodes hscan =>
    refine Or.inl ⟨fun host command reply hmem => ?_, nofun, nofun⟩
    rcases List.mem_append.mp hmem with hmem | hmem
    · exact hscan.command_eq (hlist hmem)
    · exact nomatch List.mem_singleton.mp hmem
  | @kept nodes scan steps running placement outcome hnodes hscan hlisted hplacement hsteps hkept =>
    refine Or.inr ⟨placement, steps, hplacement, hsteps, fun exchange hmem => ?_, ?_⟩
    · exact List.mem_append_right _ (List.mem_cons_of_mem _ hmem)
    · intro host command reply hmem
      rcases List.mem_append.mp hmem with hmem | hmem
      · exact Or.inl (hscan.command_eq (hlist hmem))
      rcases List.mem_cons.mp hmem with heq | hmem
      · exact nomatch heq
      · exact Or.inr hmem
  | @forgotten nodes scan steps running placement there hnodes hscan hlisted hplacement hsteps =>
    refine Or.inr ⟨placement, steps, hplacement, hsteps, fun exchange hmem => ?_, ?_⟩
    · exact List.mem_append_left _ (List.mem_append_right _ (List.mem_cons_of_mem _ hmem))
    · intro host command reply hmem
      rcases List.mem_append.mp hmem with hmem | hmem
      · rcases List.mem_append.mp hmem with hmem | hmem
        · exact Or.inl (hscan.command_eq (hlist hmem))
        rcases List.mem_cons.mp hmem with heq | hmem
        · exact nomatch heq
        · exact Or.inr hmem
      · exact nomatch List.mem_singleton.mp hmem

/-- A removal ends with `notPresent` exactly when every summary was read and none lists the
partition. -/
theorem notPresent_iff (h : RemovalCourse c name store course outcome store') :
    outcome = .ok .notPresent ↔ Searched course ∧ ¬Listed name course := by
  -- who went on after the search has seen the partition listed
  have hlisted {nodes : List Node} {scan rest : List Exchange} {running : List String}
      (hscan : ScanCourse nodes scan (.ok running)) (hmem : name ∈ running) :
      Listed name (⟨.listNodes, .ok nodes⟩ :: scan ++ rest) :=
    ((hscan.mem_running_iff rfl).mp hmem).mono fun exchange hmem =>
      List.mem_append_left _ (List.mem_cons_of_mem _ hmem)
  cases h with
  | @nodesUnread fault hnodes =>
    refine iff_of_false nofun fun hsearched => ?_
    obtain ⟨⟨nodes, hmem⟩, -⟩ := hsearched.1
    exact nomatch List.mem_singleton.mp hmem
  | @scanFailed nodes scan fault hnodes hscan =>
    refine iff_of_false nofun fun hsearched => ?_
    obtain ⟨host, hmem⟩ := hscan.unanswered rfl
    exact hsearched.1.2 host fault (List.mem_cons_of_mem _ hmem)
  | @notListed nodes scan running hnodes hscan hnot =>
    refine iff_of_true rfl ⟨⟨⟨nodes, .head _⟩, fun host fault hmem => ?_⟩, ?_⟩
    · rcases List.mem_cons.mp hmem with heq | hmem
      · exact nomatch heq
      · exact hscan.answered rfl host fault hmem
    · rintro ⟨host, output, hmem, hname⟩
      rcases List.mem_cons.mp hmem with heq | hmem
      · exact nomatch heq
      · exact hnot ((hscan.mem_running_iff rfl).mpr ⟨host, output, hmem, hname⟩)
  | placementUnread hnodes hscan hmem | notPlaced hnodes hscan hmem =>
    exact iff_of_false nofun fun hsearched => hsearched.2 (hlisted hscan hmem)
  | kept hnodes hscan hmem hplacement hsteps =>
    refine iff_of_false ?_ fun hsearched => hsearched.2 (hlisted hscan hmem)
    cases hsteps <;> exact nofun
  | forgotten hnodes hscan hmem =>
    rw [List.append_assoc]
    exact iff_of_false nofun fun hsearched => hsearched.2 (hlisted hscan hmem)

/-- A removal ends with `skippedNotDown` exactly when the state was read again and is not down. -/
theorem skippedNotDown_iff (h : RemovalCourse c name store course outcome store') :
    outcome = .ok .skippedNotDown ↔
      ∃ host report detail, ⟨.run host (Command.partitionDetail name), .ok report⟩ ∈ course ∧
        Report.Detail.read report.toList = .ok detail ∧ detail.powerState.isDown = false := by
  rcases h.summaries_or_engine with
    ⟨hsummary, hskipped, -⟩ | ⟨placement, steps, -, hsteps, hsub, hcommand⟩
  · -- without a placement there are summaries only, and a summary is no report
    refine iff_of_false hskipped ?_
    rintro ⟨host, report, detail, hmem, -⟩
    exact absurd (hsummary host _ _ hmem) (by simp)
  · constructor
    · intro ho
      obtain ⟨report, detail, hmem, hread, hstate⟩ := hsteps.exists_of_skipped ho
      exact ⟨placement.node, report, detail, hsub _ hmem, hread, hstate⟩
    · rintro ⟨host, report, detail, hmem, hread, hstate⟩
      -- with one, every report comes from the remote part of the removal
      rcases hcommand host _ _ hmem with hsummary | hmem
      · exact absurd hsummary (by simp)
      · exact hsteps.skipped_of_mem hmem hread hstate

/-- A removal ends with `removed` exactly when all its commands to the node succeeded. -/
theorem removed_iff (h : RemovalCourse c name store course outcome store') :
    outcome = .ok .removed ↔
      ∃ host workload, ∀ command ∈ c.provisioner.removalCommands name workload,
        ∃ output, ⟨.run host command, .ok output⟩ ∈ course := by
  rcases h.summaries_or_engine with
    ⟨hsummary, -, hremoved⟩ | ⟨placement, steps, -, hsteps, hsub, hcommand⟩
  · -- summaries alone remove nothing
    refine iff_of_false hremoved ?_
    rintro ⟨host, workload, hall⟩
    obtain ⟨output, hmem⟩ := hall (Command.partitionDetail name)
      (by simp [Provisioner.removalCommands])
    exact absurd (hsummary host _ _ hmem) (by simp)
  · constructor
    · intro ho
      refine ⟨placement.node, placement.workload, fun command hmem => ?_⟩
      obtain ⟨output, hmem⟩ := hsteps.commands_of_removed ho command hmem
      exact ⟨output, hsub _ hmem⟩
    · rintro ⟨host, workload, hall⟩
      -- the last of the commands is sent by a removal that has done all the others
      obtain ⟨output, hmem⟩ := hall
        (Command.removeVolume c.provisioner.node.volumeGroup workload)
        (by simp [Provisioner.removalCommands])
      rcases hcommand host _ _ hmem with hsummary | hmem
      · exact absurd hsummary (by simp)
      · exact hsteps.removed_of_mem hmem

/-- A partition that is listed but has no placement is not touched. -/
theorem notPlaced_of_none (h : RemovalCourse c name store course outcome store')
    (hsearched : Searched course) (hlisted : Listed name course)
    (hnone : store.placementAnswer name = .ok none) :
    outcome = .error (Controller.notPlaced name) ∧
      ∃ scan, course = scan ++ [⟨.findPlacement name, .ok none⟩] ∧
        ∀ host command reply, ⟨.run host command, reply⟩ ∈ course →
          command = Command.partitionSummary := by
  rcases h.summaries_or_engine with ⟨hsummary, -, -⟩ | ⟨placement, steps, hplacement, -⟩
  · cases h with
    | nodesUnread =>
      -- without the nodes, or with a node that did not answer, the search is not complete
      obtain ⟨⟨nodes, hmem⟩, -⟩ := hsearched
      exact nomatch List.mem_singleton.mp hmem
    | scanFailed hnodes hscan =>
      obtain ⟨host, hmem⟩ := hscan.unanswered rfl
      exact absurd (List.mem_cons_of_mem _ hmem) (hsearched.2 host _)
    | notListed hnodes hscan hnot =>
      obtain ⟨host, output, hmem, hname⟩ := hlisted
      rcases List.mem_cons.mp hmem with heq | hmem
      · exact nomatch heq
      · exact absurd ((hscan.mem_running_iff rfl).mpr ⟨host, output, hmem, hname⟩) hnot
    | placementUnread hnodes hscan hmem hplacement => exact nomatch hnone.symm.trans hplacement
    | notPlaced => exact ⟨rfl, _, rfl, hsummary⟩
    | kept hnodes hscan hmem hplacement => exact nomatch hnone.symm.trans hplacement
    | forgotten hnodes hscan hmem hplacement => exact nomatch hnone.symm.trans hplacement
  · exact nomatch hnone.symm.trans hplacement

/-- Only a complete removal changes the store, and it takes out the row of one workload. -/
theorem store_eq (h : RemovalCourse c name store course outcome store') :
    (outcome ≠ .ok .removed → store' = store) ∧
      (outcome = .ok .removed → ∃ placement, store.placementAnswer name = .ok (some placement) ∧
        store' = { store with placements := store.placements.erase placement.workload }) := by
  cases h with
  | kept _ _ _ _ _ hkept => exact ⟨fun _ => rfl, fun ho => absurd ho hkept⟩
  | @forgotten nodes scan steps running placement there hnodes hscan hmem hplacement hsteps =>
    exact ⟨fun hne => absurd rfl hne, fun _ => ⟨placement, hplacement, rfl⟩⟩
  | _ => exact ⟨fun _ => rfl, nofun⟩

end RemovalCourse

/-- Where the fault of a removal comes from: there is no placement, the store or a summary failed,
or a step on the node, which the fault names then. -/
def FaultOrigin (p : Provisioner) (name : String) (course : List Exchange) (fault : Fault) : Prop :=
  fault = Controller.notPlaced name ∨ ⟨.listNodes, .error fault⟩ ∈ course ∨
    ⟨.findPlacement name, .error fault⟩ ∈ course ∨
    (∃ host, ⟨.run host Command.partitionSummary, .error fault⟩ ∈ course) ∨
    ∃ host workload step command cause, (step, command) ∈ p.removalSteps name workload ∧
      fault = cause.atStep step ∧ (⟨.run host command, .error cause⟩ ∈ course ∨
        command = Command.partitionDetail name ∧ ∃ report flaw,
          ⟨.run host command, .ok report⟩ ∈ course ∧
          Report.Detail.read report.toList = .error flaw ∧ cause = flaw.fault)

/-- A fault is never one of the life of the partition. -/
theorem RemovalCourse.fault_origin (h : RemovalCourse c name store course outcome store')
    (ho : outcome = .error fault) : FaultOrigin c.provisioner name course fault := by
  subst ho
  -- one origin for each way in which a course can fail
  cases h with
  | nodesUnread => exact Or.inr (Or.inl (.head _))
  | scanFailed hnodes hscan =>
    obtain ⟨host, hmem⟩ := hscan.unanswered rfl
    exact Or.inr (Or.inr (Or.inr (Or.inl ⟨host, List.mem_cons_of_mem _ hmem⟩)))
  | placementUnread =>
    exact Or.inr (Or.inr (Or.inl (List.mem_append_right _ (.head _))))
  | notPlaced => exact Or.inl rfl
  | @kept nodes scan steps running placement outcome hnodes hscan hmem hplacement hsteps =>
    obtain ⟨step, command, cause, hstep, hfault, horigin⟩ := hsteps.fault_origin rfl
    refine Or.inr (Or.inr (Or.inr (Or.inr ⟨placement.node, _, step, command, cause, hstep, hfault,
      ?_⟩)))
    rcases horigin with hmem | ⟨hcommand, report, flaw, hmem, hread⟩
    · exact Or.inl (List.mem_append_right _ (List.mem_cons_of_mem _ hmem))
    · refine Or.inr ⟨hcommand, report, flaw, ?_, hread⟩
      exact List.mem_append_right _ (List.mem_cons_of_mem _ hmem)

/-! ## Alone -/

section Alone

open Operation Program

variable {shared : Shared}

/-- A removal by itself takes its name first and gives it back last. -/
theorem destroy_alone (hfree : shared.names.claims = []) :
    (c.destroy name).run.Alone 0 (fun past' shared' outcome => ∃ course,
      past' = ⟨.lockName name, ()⟩ :: course ++ [⟨.unlockName name, ()⟩] ∧
      RemovalCourse c name shared.store course outcome shared'.store) [] shared := by
  obtain ⟨names, lock, hlock, -⟩ := shared.answer_lockName_free 0 name hfree
  refine (alone_inside hlock).mpr ?_
  show ((c.destroyHeld name).run >>= fun outcome =>
    Program.perform (.unlockName name) >>= fun _ => done outcome).Alone _ _ _ _
  rw [alone_bind]
  -- the name is free, so nothing else happens before the removal goes on
  refine destroyHeld_alone.goal_mono ?_
  rintro past' shared' outcome ⟨course, rfl, hcourse⟩
  have hunlock : shared'.answer 0 (.unlockName name) =
      .reply () { shared' with names := shared'.names.finish 0 } := rfl
  exact (alone_inside hunlock).mpr ⟨course, rfl, hcourse⟩

/-- Every removal that runs alone comes to an end, and it has taken one of the courses by then. So
its outcome tells how far it has come, its fault where it failed, and nothing but a complete removal
changes the store. -/
theorem destroy_alone_gated {happenings : List Happening} {tasks : Tasks (Outcome DestroyOutcome)}
    (run : Tasks.Run ⟨shared, [(c.destroy name).run]⟩ happenings tasks)
    (hfree : shared.names.claims = []) :
    (∃ rest last outcome, Tasks.Run tasks rest last ∧ last.programs = [.done outcome]) ∧
    ∀ outcome, tasks.programs = [.done outcome] → ∃ course,
      Tasks.own 0 happenings = ⟨.lockName name, ()⟩ :: course ++ [⟨.unlockName name, ()⟩] ∧
      RemovalCourse c name shared.store course outcome tasks.shared.store ∧
      (outcome = .ok .notPresent ↔ Searched course ∧ ¬Listed name course) ∧
      (Searched course → Listed name course → shared.store.placementAnswer name = .ok none →
        outcome = .error (Controller.notPlaced name) ∧
        (Controller.notPlaced name).kind = .notFound ∧
        ∃ scan, course = scan ++ [⟨.findPlacement name, .ok none⟩] ∧
          ∀ host command reply, ⟨.run host command, reply⟩ ∈ course →
            command = Command.partitionSummary) ∧
      (outcome = .ok .skippedNotDown ↔ ∃ host report detail,
        ⟨.run host (Command.partitionDetail name), .ok report⟩ ∈ course ∧
        Report.Detail.read report.toList = .ok detail ∧ detail.powerState.isDown = false) ∧
      (outcome = .ok .removed ↔ ∃ host workload,
        ∀ command ∈ c.provisioner.removalCommands name workload,
          ∃ output, ⟨.run host command, .ok output⟩ ∈ course) ∧
      (∀ fault, outcome = .error fault → FaultOrigin c.provisioner name course fault) ∧
      (outcome ≠ .ok .removed → tasks.shared.store = shared.store) ∧
      (outcome = .ok .removed → ∃ placement,
        shared.store.placementAnswer name = .ok (some placement) ∧
        tasks.shared.store =
          { shared.store with
            placements := shared.store.placements.erase placement.workload }) := by
  have hlonely := run.alone (destroy_alone hfree)
  refine ⟨hlonely.ends, fun outcome hdone => ?_⟩
  obtain ⟨course, hown, hcourse⟩ := hlonely.goal_of_done hdone
  obtain ⟨hkept, hforgotten⟩ := hcourse.store_eq
  -- every part is read off the course
  refine ⟨course, hown, hcourse, hcourse.notPresent_iff, ?_, hcourse.skippedNotDown_iff,
    hcourse.removed_iff, fun fault ho => hcourse.fault_origin ho, hkept, hforgotten⟩
  intro hsearched hlisted hnone
  obtain ⟨ho, hscan⟩ := hcourse.notPlaced_of_none hsearched hlisted hnone
  exact ⟨ho, rfl, hscan⟩

/-- The removal of `web` alone is complete, and forgets the placement. -/
theorem destroy_alone_gated_sample :
    let alone : Tasks (Outcome DestroyOutcome) :=
      ⟨Sample.placed.shared, [(Sample.controller.destroy "web").run]⟩
    (alone.goOn Sample.hosts 0).2.programs = [.done (.ok .removed)] ∧
      ∃ placement, Sample.placed.shared.store.placementAnswer "web" = .ok (some placement) ∧
        (alone.goOn Sample.hosts 0).2.shared.store =
          { Sample.placed.shared.store with
            placements := Sample.placed.shared.store.placements.erase placement.workload } := by
  intro alone
  have hresults : (alone.goOn Sample.hosts 0).2.programs.map Program.result? =
      [some (.ok .removed)] := by decide +kernel
  obtain ⟨p, hp, hresult⟩ := List.map_eq_singleton_iff.mp hresults
  obtain rfl := Program.result?_eq_some_iff.mp hresult
  have hfree : Sample.placed.shared.names.claims = [] := by decide +kernel
  -- the spawn before has given the name back
  obtain ⟨-, hgated⟩ := destroy_alone_gated (Tasks.goOn_run Sample.hosts 0 alone) hfree
  obtain ⟨course, -, -, -, -, -, -, -, -, hforgotten⟩ := hgated _ hp
  exact ⟨hp, hforgotten rfl⟩

end Alone

end VparFleet
