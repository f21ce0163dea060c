import VparFleet.Monitor.Refresh
import VparFleet.Proofs.Program.Steps

/-!
# What a refresh does

A refresh asks the provisioning server and the nodes with three fixed commands, looks at the clock,
and writes to the node table. It touches neither locks nor placements nor the kept report.

* `Monitor.inventoryQuestion`, `capacityQuestion`, `groupQuestion`: the three commands, as they are
  sent.
* `Monitor.Surveys`: the actions of a refresh.
* `refresh_surveys`: it does nothing else.
-/

namespace VparFleet

namespace Monitor

/-! ## The questions -/

/-- What the provisioning server is asked. -/
def inventoryQuestion : String := "/opt/ignite/bin/ignite client list -m xml -l details"

/-- What a node is asked first. -/
def capacityQuestion : String := "/opt/hpvm/bin/vparstatus -A"

/-- What a node is asked next, about one of its volume groups. -/
def groupQuestion (group : String) : String := "vgdisplay " ++ group

theorem clientInventory_eq : Command.clientInventory = inventoryQuestion := rfl

theorem availableResources_eq : Command.availableResources = capacityQuestion := rfl

theorem volumeGroupReport_eq (group : String) :
    Command.volumeGroupReport group = groupQuestion group := rfl

end Monitor

/-- The actions of a refresh. -/
inductive Monitor.Surveys (m : Monitor) : Action → Prop where
  | inventory : m.Surveys (.run m.server inventoryQuestion)
  | capacity (host : String) : m.Surveys (.run host capacityQuestion)
  | volumeGroup (host : String) : m.Surveys (.run host (groupQuestion m.volumeGroup))
  | clock : m.Surveys .clock
  | findNode (address : String) : m.Surveys (.findNode address)
  | addNode (node : Node) : m.Surveys (.addNode node)
  | updateNode (node : Node) : m.Surveys (.updateNode node)

open Program

namespace Monitor

variable (m : Monitor)

/-- Keeping a node asks the store and nobody else. -/
theorem upsertNode_surveys (node : Node) : (upsertNode node).run.Uses m.Surveys := by
  refine Uses.andThen ⟨.findNode _, fun _ => uses_done⟩ fun stored => ?_
  -- a node that is not there is added, one that is there is updated if its usage changed
  cases stored with
  | none => exact Uses.andThen ⟨.addNode _, fun _ => uses_done⟩ fun _ => uses_done
  | some stored =>
    show ((if stored.sameUsage node then pure .unchanged
      else Operation.updateNode node >>= fun _ => pure .updated
        : Operation UpsertOutcome).run).Uses _
    split
    · exact uses_done
    · exact Uses.andThen ⟨.updateNode _, fun _ => uses_done⟩ fun _ => uses_done

/-- An observation is two commands. -/
theorem observe_uses {allowed : Action → Prop} (client : Report.Client)
    (hc : allowed (.run client.address capacityQuestion))
    (hg : allowed (.run client.address (groupQuestion m.volumeGroup))) :
    (m.observe client).run.Uses allowed :=
  (Uses.exec hc).andThen fun _ =>
    Uses.andThen uses_done fun _ =>
    (Uses.exec hg).andThen fun _ =>
    Uses.andThen uses_done fun _ => uses_done

/-- Observes a node and keeps it. -/
def keepClient (client : Report.Client) : Operation (Node × Bool) := do
  let node ← m.observe client
  let outcome ← upsertNode node
  return (node, outcome.wrote)

theorem observeAll_eq (clients : List Report.Client) :
    m.observeAll clients = clients.mapM m.keepClient :=
  rfl

theorem keepClient_surveys (client : Report.Client) : (m.keepClient client).run.Uses m.Surveys :=
  (m.observe_uses client (.capacity _) (.volumeGroup _)).andThen fun node =>
    (m.upsertNode_surveys node).andThen fun _ => uses_done

theorem observeAll_surveys (clients : List Report.Client) :
    (m.observeAll clients).run.Uses m.Surveys := by
  rw [observeAll_eq]
  exact Uses.mapM m.keepClient_surveys clients

theorem refresh_surveys : m.refresh.run.Uses m.Surveys := by
  refine (Uses.exec .inventory).andThen fun _ => Uses.andThen uses_done fun clients => ?_
  refine (m.observeAll_surveys _).andThen fun observed => ?_
  exact Uses.andThen ⟨.clock, fun _ => uses_done⟩ fun _ => uses_done

end Monitor

end VparFleet
