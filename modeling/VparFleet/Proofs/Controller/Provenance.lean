import VparFleet.Proofs.Controller.Serving

/-!
# Where a removal gets its node and its workload from

A removal sends its commands to the node, and removes the volume of the workload, that a row of the
placement table names. Every row goes back to a spawn with a valid request that chose this node and
had volume and definition acknowledged by it.

* `Defined`: what a spawn has done to define a partition.
* `Run.rows_defined`: every row goes back to a definition.
* `Run.found_once`: a removal looks only once, so it works with one row.
* `removal_of_defined`: the whole, for every interleaving.
-/

namespace VparFleet

open Store

namespace Tasks

variable {c : Controller} {store : Store} {calls : List Call} {name workload node : String}
  {past happenings first second : List Happening} {tasks next : Tasks Call.Answer} {i : Nat}

/-- Some spawn with a valid request for the name and the workload chose the node, and its volume and
its definition were acknowledged there. -/
def Defined (c : Controller) (calls : List Call) (past : List Happening)
    (name workload node : String) : Prop :=
  let group := c.provisioner.node.volumeGroup
  let raw := Command.rawVolumePath group workload
  ∃ j request nodes target output report,
    calls[j]? = some (.spawn request) ∧ request.validate = .ok () ∧ request.name = name ∧
    request.resources.workload = workload ∧
    ⟨j, .listNodes, .ok nodes⟩ ∈ past ∧ request.resources.choose nodes = some target ∧
    target.address = node ∧
    ⟨j, .run node (Command.createVolume group workload request.resources.disk), .ok output⟩ ∈ past ∧
    Text.occurs raw.toList output.toList = true ∧
    ⟨j, .run node (Command.createPartition c.provisioner.node name request.resources.memory
      request.resources.cpus raw), .ok report⟩ ∈ past

/-- What led to a definition is still there in a longer history. -/
theorem Defined.mono (h : Defined c calls past name workload node)
    (hsub : ∀ x ∈ past, x ∈ happenings) : Defined c calls happenings name workload node := by
  obtain ⟨j, request, nodes, target, output, report, hc, hv, hname, hw, hlist, hchoose, hnode,
    hvolume, ho, hdefine⟩ := h
  exact ⟨j, request, nodes, target, output, report, hc, hv, hname, hw, hsub _ hlist, hchoose, hnode,
    hsub _ hvolume, ho, hsub _ hdefine⟩

/-- A spawn takes the lock only with a valid request. -/
theorem Run.locked_valid {request : SpawnRequest} {other : String}
    (run : Run (c.serve store calls) happenings tasks) (hc : calls[i]? = some (.spawn request))
    (h : ⟨.lockName other, ()⟩ ∈ own i happenings) : request.validate = .ok () := by
  -- the rule of the spawn at the moment of the lock
  obtain ⟨first, second, rfl⟩ := List.append_of_mem (mem_of_mem_own h)
  obtain ⟨call, hcall, hrule⟩ := run.rule_at
  obtain rfl := Option.some.inj (hc.symm.trans hcall)
  exact hrule.2.2

/-- What a spawn records, it has defined. -/
theorem Run.recording_defined {request : SpawnRequest} {placement : Placement}
    (run : Run (c.serve store calls) happenings tasks) (hc : calls[i]? = some (.spawn request))
    (h : c.Recording request (own i happenings) placement) :
    Defined c calls happenings placement.partition placement.workload placement.node := by
  obtain ⟨nodes, target, output, report, now, hchoose, ho, rfl, hpast⟩ := h
  refine ⟨i, request, nodes, target, output, report, hc, ?_, rfl, rfl, ?_, hchoose, rfl, ?_, ho, ?_⟩
  · -- only a request without flaws comes as far as its name
    have hlocked : ⟨.lockName request.name, ()⟩ ∈ own i happenings := by
      rw [hpast]
      exact .head _
    exact run.locked_valid hc hlocked
  · refine mem_of_mem_own ?_
    rw [hpast]
    exact .tail _ (.tail _ (.head _))
  · refine mem_of_mem_own ?_
    rw [hpast]
    exact .tail _ (.tail _ (.tail _ (.head _)))
  · refine mem_of_mem_own ?_
    rw [hpast]
    exact .tail _ (.tail _ (.tail _ (.tail _ (.head _))))

/-- Every row goes back to a definition. -/
theorem Run.rows_defined (run : Run (c.serve store calls) happenings tasks)
    (hempty : store.placements = []) :
    ∀ row ∈ tasks.shared.store.placements,
      Defined c calls happenings row.partition row.workload row.node := by
  refine run.invariant (fun past tasks => ∀ row ∈ tasks.shared.store.placements,
    Defined c calls past row.partition row.workload row.node) ?_ ?_
  · intro row hmem
    rw [show (c.serve store calls).shared.store.placements = [] from hempty] at hmem
    exact nomatch hmem
  · intro past tasks happening next run h hs row hmem
    -- a row from before keeps its definition, which lies in the past
    have hold (hmem : row ∈ tasks.shared.store.placements) :
        Defined c calls (past ++ happening.toList) row.partition row.workload row.node :=
      (h row hmem).mono fun x hx => List.mem_append_left _ hx
    cases happening with
    | none =>
      rw [hs.waited_store] at hmem
      exact hold hmem
    | some x =>
      rw [hs.placements] at hmem
      rcases x.exchange.onPlacements_cases with ⟨placement, hx⟩ | ⟨workload, there, hx⟩ | hx
      · rw [hx] at hmem
        rcases PlacementTable.mem_record.mp hmem with rfl | ⟨hmem, -⟩
        · obtain ⟨call, hcall, hrule⟩ := run.rule hs
          rw [Happening.eq_of_exchange hx] at hrule
          obtain ⟨request, rfl, hrecording⟩ := hrule.recording
          have hdefined := run.recording_defined hcall hrecording
          exact hdefined.mono fun y hy => List.mem_append_left _ hy
        · exact hold hmem
      · rw [hx] at hmem
        exact hold (PlacementTable.mem_erase.mp hmem).1
      · rw [hx] at hmem
        exact hold hmem

/-- A placement that was found goes back to a definition. -/
theorem Run.found_defined {placement : Placement}
    (run : Run (c.serve store calls) happenings tasks) (hempty : store.placements = [])
    (h : ⟨.findPlacement name, .ok (some placement)⟩ ∈ own i happenings) :
    Defined c calls happenings name placement.workload placement.node := by
  -- go back to the moment of the search, where the row was in the table
  obtain ⟨first, second, rfl⟩ := List.append_of_mem (mem_of_mem_own h)
  obtain ⟨before, after, hf, hs, -⟩ := run.split_at
  obtain ⟨row, hmem, rfl, hworkload, hnode⟩ := hs.found_some
  rw [← hworkload, ← hnode]
  exact (hf.rows_defined hempty row hmem).mono fun x hx => List.mem_append_left _ hx

/-- A removal looks only once. -/
theorem Run.found_once (run : Run (c.serve store calls) happenings tasks)
    (hc : calls[i]? = some (.destroy name)) {reply reply' : Outcome (Option Placement)}
    (h : ⟨.findPlacement name, reply⟩ ∈ own i happenings)
    (h' : ⟨.findPlacement name, reply'⟩ ∈ own i happenings) : reply = reply' := by
  -- at the later one of two searches the earlier one would be in the past
  have hnone {first second : List Happening} {reply : Outcome (Option Placement)}
      (run : Run (c.serve store calls)
        (first ++ ⟨i, .findPlacement name, reply⟩ :: second) tasks)
      (other : Outcome (Option Placement)) : ⟨i, .findPlacement name, other⟩ ∉ first := by
    intro hmem
    obtain ⟨call, hcall, hrule⟩ := run.rule_at
    obtain rfl := Option.some.inj (hc.symm.trans hcall)
    exact hrule.2.2 other (mem_own hmem rfl)
  obtain ⟨first, second, rfl⟩ := List.append_of_mem (mem_of_mem_own h)
  rcases List.mem_append.mp (mem_of_mem_own h') with hmem | hmem
  · exact absurd hmem (hnone run reply')
  rcases List.mem_cons.mp hmem with hmem | hmem
  · injection hmem with _ _ hreply
    exact hreply.symm
  · obtain ⟨left, right, rfl⟩ := List.append_of_mem hmem
    rw [← List.cons_append, ← List.append_assoc] at run
    exact absurd (by simp) (hnone run reply)

/-- What a removal sends is the summary, or a command to the node of a placement that it found. -/
theorem Run.removal_placed {x : Happening}
    (run : Run (c.serve store calls) (first ++ x :: second) tasks)
    (hc : calls[x.task]? = some (.destroy name)) (hremote : x.action.isRemote = true) :
    (∃ host, x.action = .run host Command.partitionSummary) ∨
      ∃ placement, ⟨.findPlacement name, .ok (some placement)⟩ ∈ own x.task first ∧
        ∃ command ∈ c.provisioner.removalCommands name placement.workload,
          x.action = .run placement.node command := by
  obtain ⟨call, hcall, hrule⟩ := run.rule_at
  obtain rfl := Option.some.inj (hc.symm.trans hcall)
  exact Controller.DestroyRule.remote hrule hremote

/-- In every interleaving of calls that starts without placements, everything that a removal sends
but the summary goes to one node, concerns the partition and the volume of one workload, and comes
after a spawn with a valid request defined the partition for that workload on that node. -/
theorem removal_of_defined (run : Run (c.serve store calls) happenings tasks)
    (hempty : store.placements = []) (hc : calls[i]? = some (.destroy name)) :
    ∃ node workload, ∀ before x after, happenings = before ++ x :: after → x.task = i →
      x.action.isRemote = true →
        (∃ host, x.action = .run host Command.partitionSummary) ∨
          (∃ command ∈ c.provisioner.removalCommands name workload,
            x.action = .run node command) ∧ Defined c calls before name workload node := by
  by_cases hfound : ∃ placement, ⟨.findPlacement name, .ok (some placement)⟩ ∈ own i happenings
  · obtain ⟨placement, hfound⟩ := hfound
    refine ⟨placement.node, placement.workload, ?_⟩
    rintro before x after rfl rfl hremote
    rcases run.removal_placed hc hremote with hsummary | ⟨found, hfind, hcommand⟩
    · exact Or.inl hsummary
    · have hfind' : ⟨.findPlacement name, .ok (some found)⟩ ∈
          own x.task (before ++ x :: after) := by
        rw [own_append]
        exact List.mem_append_left _ hfind
      -- it looked only once, so what it found is the same at every command
      obtain rfl : placement = found := by
        simpa using run.found_once hc hfound hfind'
      obtain ⟨between, hbefore, -⟩ := run.split
      exact Or.inr ⟨hcommand, hbefore.found_defined hempty hfind⟩
  · -- without a placement there is nothing but the summary
    refine ⟨"", "", ?_⟩
    rintro before x after rfl rfl hremote
    rcases run.removal_placed hc hremote with hsummary | ⟨found, hfind, hcommand⟩
    · exact Or.inl hsummary
    · refine absurd ⟨found, ?_⟩ hfound
      rw [own_append]
      exact List.mem_append_left _ hfind

/-- What the removal of `web` sends goes back to its spawn. -/
theorem removal_of_defined_sample :
    ∃ node workload, ∀ before x after, Sample.history = before ++ x :: after → x.task = 1 →
      x.action.isRemote = true →
        (∃ host, x.action = .run host Command.partitionSummary) ∨
          (∃ command ∈ Sample.controller.provisioner.removalCommands "web" workload,
            x.action = .run node command) ∧
            Defined Sample.controller Sample.calls before "web" workload node :=
  removal_of_defined Sample.removed_run rfl rfl

end Tasks

end VparFleet
