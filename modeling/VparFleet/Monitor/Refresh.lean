import VparFleet.Command
import VparFleet.Program
import VparFleet.Report.Capacity
import VparFleet.Report.Inventory

/-!
# Refreshing the fleet's capacity

A refresh asks the provisioning server which nodes there are and each node what it has free, keeps
changed amounts in the node table, and remembers the totals. Only one refresh runs at a time; who
comes while one is under way waits for it and shares its result.

* `upsertNode`: writes a node only if it is new or one of its amounts has changed.
* `Monitor.refresh`: one refresh, up to the first failure.
* `Monitor.update`: the same behind the guard.
-/

namespace VparFleet

/-- What became of a node that was to be kept. -/
inductive UpsertOutcome where
  /-- There was no row; one was added. -/
  | created
  /-- An amount differed; the row was replaced. -/
  | updated
  /-- All amounts agree; nothing was written. -/
  | unchanged
  deriving DecidableEq, Repr

/-- Whether a row was written. -/
def UpsertOutcome.wrote (outcome : UpsertOutcome) : Bool :=
  outcome ≠ unchanged

/-- Keeps a node: adds it, replaces its row when an amount differs, or writes nothing. -/
def upsertNode (node : Node) : Operation UpsertOutcome := do
  match ← .findNode node.address with
  | none => do
    .addNode node
    return .created
  | some stored => do
    if stored.sameUsage node then return .unchanged
    .updateNode node
    return .updated

/-- What a refresh has to know of the settings. -/
structure Monitor where
  /-- The address of the provisioning server. -/
  server : String
  /-- The volume group on the nodes. -/
  volumeGroup : String
  deriving DecidableEq, Repr

namespace Monitor

/-- Asks a node what it has free. Totals that the inventory lacks count as zero. -/
def observe (m : Monitor) (client : Report.Client) : Operation Node := do
  let freeText ← .exec client.address Command.availableResources
  let free ← .ofOutcome (Report.orFault (Report.FreeCapacity.read freeText.toList))
  let groupText ← .exec client.address (Command.volumeGroupReport m.volumeGroup)
  let disk ← .ofOutcome (Report.orFault (Report.VolumeGroup.read groupText.toList))
  return .observed client.address client.hostname client.model (client.cpus.getD 0) free.cpus
    (client.memory.getD 0) free.memory disk.total disk.free

/-- Observes and keeps clients, one after the other. The result is each node with whether it was
written. -/
def observeAll (m : Monitor) (clients : List Report.Client) : Operation (List (Node × Bool)) :=
  clients.mapM fun client => do
    let node ← m.observe client
    let outcome ← upsertNode node
    return (node, outcome.wrote)

/-- One refresh. -/
def refresh (m : Monitor) : Operation RefreshReport := do
  let inventory ← .exec m.server Command.clientInventory
  let clients ← .ofOutcome (Report.orFault (Report.Client.readAll inventory.toList))
  let observed ← m.observeAll (clients.filter (·.kind = .node))
  let nodes := observed.map (·.1)
  let now ← .clock
  return {
    stats := .ofNodes nodes now
    nodes
    writes := (observed.filter (·.2)).length
    partitionsSeen := (clients.filter (·.kind = .partition)).length }

/-- A refresh whose report is kept. -/
def refreshAndPublish (m : Monitor) : Operation RefreshReport := do
  let report ← m.refresh
  .perform (.publish report)
  .perform .bumpGeneration
  return report

/-- Refreshes, or shares the result of a refresh that completed while this one waited. -/
def update (m : Monitor) : Operation RefreshReport := do
  let seen ← .generation
  .between (.perform .lockRefresh) (.perform .unlockRefresh) do
    let current ← .generation
    if current = seen then m.refreshAndPublish
    else
      -- Another refresh completed while this one waited for the guard: its report is recent enough.
      match ← .cached with
      | some report => return report
      | none => m.refreshAndPublish

/-- The statistics of the fleet: those of the last refresh, or of a new one when that is asked for
or there was none. -/
def stats (m : Monitor) (fresh : Bool) : Operation FleetStats := do
  let known ← if fresh then pure none else .cached
  match known with
  | some report => return report.stats
  | none => return (← m.update).stats

end Monitor

end VparFleet
