import VparFleet.Proofs.Controller.Holding
import VparFleet.Proofs.Provisioning.Remote

/-!
# What a spawn does

A spawn takes the lock on the name, looks for a placement under it, places, allocates, defines,
records, and brings up. What it may do next depends on the answers so far.

* `Recording`: all that a spawn has done when it records a placement.
* `SpawnRule`: what a spawn may do; `spawn_obeys`: it does nothing else, whatever it is answered.
-/

namespace VparFleet.Controller

open Operation Program

variable {α : Type} {c : Controller} {request : SpawnRequest} {name : String}
  {past : List Exchange}

/-- What a spawn has done when it records a placement: nobody had a placement under the name, a node
was chosen, it named the raw device of the new volume, and it took the definition. -/
def Recording (c : Controller) (request : SpawnRequest) (past : List Exchange)
    (placement : Placement) : Prop :=
  let resources := request.resources
  let raw := Command.rawVolumePath c.provisioner.node.volumeGroup resources.workload
  ∃ nodes node output report now,
    resources.choose nodes = some node ∧ Text.occurs raw.toList output.toList = true ∧
    placement = ⟨resources.workload, request.name, node.address, now⟩ ∧
    past = [
      ⟨.lockName request.name, ()⟩,
      ⟨.findPlacement request.name, .ok none⟩,
      ⟨.listNodes, .ok nodes⟩,
      ⟨.run node.address (Command.createVolume c.provisioner.node.volumeGroup resources.workload
        resources.disk), .ok output⟩,
      ⟨.run node.address (Command.createPartition c.provisioner.node request.name resources.memory
        resources.cpus raw), .ok report⟩,
      ⟨.clock, now⟩]

/-- What a spawn may do. Remote work has to wait until the name was seen without a placement. -/
def SpawnRule (c : Controller) (request : SpawnRequest) (past : List Exchange) :
    Action → Prop
  | .lockName name => past = [] ∧ name = request.name ∧ request.validate = .ok ()
  | .recordPlacement placement => c.Recording request past placement
  | .removePlacement _ => False
  | action =>
    held past = some request.name ∧
      (action.isRemote = true → ⟨.findPlacement request.name, .ok none⟩ ∈ past)

/-- What a spawn does on hosts it does while it has its name, which it has found free. -/
theorem SpawnRule.remote {action : Action} (h : c.SpawnRule request past action)
    (hr : action.isRemote = true) :
    held past = some request.name ∧ ⟨.findPlacement request.name, .ok none⟩ ∈ past := by
  cases action with
  | run | openConsole | send | waitForPrompt | closeConsole => exact ⟨h.1, h.2 rfl⟩
  | _ => exact nomatch hr

/-- A definition is remote work. -/
theorem Recording.exists_remote {placement : Placement} (h : c.Recording request past placement) :
    ∃ exchange ∈ past, exchange.action.isRemote = true := by
  obtain ⟨nodes, node, output, report, now, -, -, -, rfl⟩ := h
  exact ⟨_, .tail _ (.tail _ (.tail _ (.head _))), rfl⟩

/-! ## The steps under the lock -/

/-- A spawn goes on only from a search that has found nothing. -/
theorem refusePlaced_obeys (hh : held past = some request.name) :
    (refusePlaced request.name).run.Obeys (c.SpawnRule request)
      (fun past' outcome => held past' = some request.name ∧
        (outcome = .ok () → past' = past ++ [⟨.findPlacement request.name, .ok none⟩])) past := by
  refine ⟨⟨hh, nofun⟩, fun reply => ?_⟩
  have hh' := hh
  rw [← show held (past ++ [⟨.findPlacement request.name, reply⟩]) = held past from
    held_concat past _] at hh'
  rcases reply with fault | placed | placed
  · exact ⟨hh', nofun⟩
  · exact ⟨hh', fun _ => rfl⟩
  · -- the name has a placement, so the spawn ends here
    exact ⟨hh', nofun⟩

/-- A spawn goes on with the node that it has chosen among those of the registry. -/
theorem place_obeys (hh : held past = some request.name) :
    (place request).run.Obeys (c.SpawnRule request)
      (fun past' outcome => held past' = some request.name ∧
        ∀ node, outcome = .ok node → ∃ nodes, request.resources.choose nodes = some node ∧
          past' = past ++ [⟨.listNodes, .ok nodes⟩]) past := by
  -- reading the registry does not give back the name
  have hh' (outcome : Outcome (List Node)) :
      held (past ++ [⟨.listNodes, outcome⟩]) = some request.name := by
    rw [held_concat]
    exact hh
  unfold place
  refine obeys_run_bind (fun past' outcome => past' = past ++ [⟨.listNodes, outcome⟩])
    ⟨⟨hh, nofun⟩, fun reply => rfl⟩ ?_ ?_
  · rintro past' nodes rfl
    cases hn : request.resources.choose nodes with
    | none => exact ⟨hh' (.ok nodes), nofun⟩
    | some node =>
      refine ⟨hh' (.ok nodes), fun node' hnode => ⟨nodes, ?_, rfl⟩⟩
      rw [hn, Except.ok.inj hnode]
  · rintro past' fault rfl
    exact ⟨hh' (.error fault), nofun⟩

/-- A volume is there when its raw device was named. -/
theorem allocateStorage_obeys {host : String} {disk : Nat} (hh : held past = some request.name)
    (hfind : ⟨.findPlacement request.name, .ok none⟩ ∈ past) :
    let p := c.provisioner
    let raw := Command.rawVolumePath p.node.volumeGroup request.resources.workload
    (p.allocateStorage host request.resources.workload disk).run.Obeys (c.SpawnRule request)
      (fun past' outcome => held past' = some request.name ∧
        ∀ volume, outcome = .ok volume → volume = raw ∧ ∃ output,
          Text.occurs raw.toList output.toList = true ∧
          past' = past ++ [⟨.run host (Command.createVolume p.node.volumeGroup
            request.resources.workload disk), .ok output⟩]) past := by
  intro p raw
  refine ⟨⟨hh, fun _ => hfind⟩, fun reply => ?_⟩
  rcases reply with fault | output
  · exact ⟨held_run hh, nofun⟩
  · -- an answer alone is not enough: it has to name the raw device
    show ((if Text.occurs raw.toList output.toList then pure raw
      else throw _ : Operation String).run).Obeys _ _ _
    by_cases ho : Text.occurs raw.toList output.toList = true
    · rw [if_pos ho]
      exact ⟨held_run hh, fun volume hv => ⟨(Except.ok.inj hv).symm, output, ho, rfl⟩⟩
    · rw [if_neg ho]
      exact ⟨held_run hh, nofun⟩

/-- A partition is defined when its volume is there and the definition was taken. -/
theorem definePartition_obeys {host : String} (hh : held past = some request.name)
    (hfind : ⟨.findPlacement request.name, .ok none⟩ ∈ past) :
    let p := c.provisioner
    let resources := request.resources
    let raw := Command.rawVolumePath p.node.volumeGroup resources.workload
    (p.definePartition host request).run.Obeys (c.SpawnRule request)
      (fun past' outcome => held past' = some request.name ∧
        ∀ defined, outcome = .ok defined → ∃ output report,
          Text.occurs raw.toList output.toList = true ∧
          past' = past ++ [
            ⟨.run host (Command.createVolume p.node.volumeGroup resources.workload
              resources.disk), .ok output⟩,
            ⟨.run host (Command.createPartition p.node request.name resources.memory
              resources.cpus raw), .ok report⟩]) past := by
  intro p resources raw
  refine obeys_run_atStep_bind _ (allocateStorage_obeys hh hfind) ?_ ?_
  · rintro past' volume ⟨hh', hvolume⟩
    -- the volume is there; what is left is the definition on it
    obtain ⟨rfl, output, ho, rfl⟩ := hvolume volume rfl
    refine ⟨⟨hh', fun _ => List.mem_append_left _ hfind⟩, fun reply => ?_⟩
    rcases reply with fault | report
    · exact ⟨held_run hh', nofun⟩
    · refine ⟨held_run hh', fun defined _ => ⟨output, report, ho, ?_⟩⟩
      rw [List.append_assoc]
      rfl
  · rintro past' fault ⟨hh', -⟩
    exact ⟨hh', nofun⟩

/-- Remote work is allowed once nobody was seen to have a placement under the name. -/
theorem remote_obeys {p : Program (Outcome α)} (hp : p.Uses (·.isRemote))
    (hh : held past = some request.name)
    (hfind : ⟨.findPlacement request.name, .ok none⟩ ∈ past) :
    p.Obeys (c.SpawnRule request) (fun past _ => held past = some request.name) past := by
  -- remote work neither gives the lock back nor undoes the search
  have hobeys : p.Obeys (c.SpawnRule request) (fun past _ => held past = some request.name ∧
      ⟨.findPlacement request.name, .ok none⟩ ∈ past) past := by
    refine Uses.obeys hp ?_ ?_ ⟨hh, hfind⟩
    · rintro past action ⟨hh, hfind⟩ hremote
      cases action <;> first | exact ⟨hh, fun _ => hfind⟩ | exact nomatch hremote
    · rintro past action reply ⟨hh, hfind⟩ hremote
      refine ⟨?_, List.mem_append_left _ hfind⟩
      rw [held_concat]
      cases action <;> first | exact hh | exact nomatch hremote
  exact hobeys.goal_mono fun _ _ h => h.1

/-- A spawn keeps its rule while it holds the lock. -/
theorem spawnHeld_obeys :
    (c.spawnHeld request).run.Obeys (c.SpawnRule request)
      (fun past _ => held past = some request.name) [⟨.lockName request.name, ()⟩] := by
  rw [spawnHeld, run_bind, run_ofOutcome, done_bind]
  rcases c.needManagementIp request with fault | ip
  · exact rfl
  -- nobody has a placement under the name
  have hfree := @refusePlaced_obeys c request [⟨.lockName request.name, ()⟩] rfl
  refine obeys_run_bind _ hfree ?_ fun _ _ h => h.1
  rintro past ⟨⟩ ⟨hh, hpast⟩
  obtain rfl := hpast rfl
  -- a node is chosen
  refine obeys_run_bind _ (place_obeys hh) ?_ fun _ _ h => h.1
  rintro past node ⟨hh, hpast⟩
  obtain ⟨nodes, hchoose, rfl⟩ := hpast node rfl
  -- volume and definition are there, and only now the placement is recorded
  refine obeys_run_bind _ (definePartition_obeys hh (by simp)) ?_ fun _ _ h => h.1
  rintro past defined ⟨hh, hpast⟩
  obtain ⟨output, report, ho, rfl⟩ := hpast defined rfl
  refine ⟨⟨hh, nofun⟩, fun now => ?_⟩
  refine ⟨⟨nodes, node, output, report, now, hchoose, ho, rfl, rfl⟩, fun reply => ?_⟩
  rcases reply with fault | -
  · exact rfl
  -- from here on there is only remote work
  exact remote_obeys (c.provisioner.bringUp_uses _ _ _ _) rfl (by simp)

/-- Every spawn obeys the rule from its beginning. -/
theorem spawn_obeys :
    (c.spawn request).run.Obeys (c.SpawnRule request) (fun _ _ => True) [] := by
  rw [spawn, run_bind, run_ofOutcome, done_bind]
  cases hv : request.validate with
  -- a request with a flaw does nothing at all
  | error fault => exact trivial
  | ok _ =>
    refine holding_obeys ⟨rfl, rfl, hv⟩ spawnHeld_obeys ?_
    exact fun past outcome hh => ⟨⟨hh, nofun⟩, trivial⟩

end VparFleet.Controller
