import VparFleet.Proofs.Monitor.Surveying
import VparFleet.Proofs.Program.Course
import VparFleet.Proofs.Report.Bounds
import VparFleet.Proofs.Store.Nodes

/-!
# What a refresh asks, and what it hears

A refresh asks the provisioning server for the inventory, and then each node of it in turn, first
for what it has free and then for its volume group. The first answer that is missing or cannot be
read is the last.

* `Observes`: the questions to one node.
* `Survey`: the questions to nodes, one after the other.
* `RefreshCourse`: all questions of a refresh.
* `RefreshCourse.isPrefix`: which actions they are.
* `Observes.sound`: what is observed fits the node table.
-/

namespace VparFleet

open Report

/-- What a report says, if there is one and it can be read. -/
def Report.heard {α : Type} (read : List Char → Except Flaw α) (reply : Outcome String) :
    Outcome α := do
  orFault (read (← reply).toList)

/-- What is heard is read from a text that was answered. -/
theorem Report.heard_eq_ok_iff {α : Type} {read : List Char → Except Flaw α}
    {reply : Outcome String} {a : α} :
    heard read reply = .ok a ↔ ∃ text, reply = .ok text ∧ read text.toList = .ok a := by
  have horFault {result : Except Flaw α} : orFault result = .ok a ↔ result = .ok a := by
    cases result <;> simp [orFault]
  rw [heard, bind_eq_ok_iff]
  simp only [horFault]

namespace Monitor

variable (m : Monitor)

/-! ## Questions -/

/-- What a node is asked, and what is observed of it. -/
inductive Observes (client : Client) : List Exchange → Outcome Node → Prop where
  /-- It does not say what it has free. -/
  | capacityFailed {reply : Outcome String} {fault : Fault}
      (h : heard FreeCapacity.read reply = .error fault) :
    Observes client [⟨.run client.address capacityQuestion, reply⟩] (.error fault)
  /-- It does not describe its volume group. -/
  | groupFailed {reply reply' : Outcome String} {free : FreeCapacity} {fault : Fault}
      (h : heard FreeCapacity.read reply = .ok free)
      (h' : heard VolumeGroup.read reply' = .error fault) :
    Observes client [⟨.run client.address capacityQuestion, reply⟩,
      ⟨.run client.address (groupQuestion m.volumeGroup), reply'⟩] (.error fault)
  /-- It says both. -/
  | observed {reply reply' : Outcome String} {free : FreeCapacity} {disk : DiskUsage}
      (h : heard FreeCapacity.read reply = .ok free)
      (h' : heard VolumeGroup.read reply' = .ok disk) :
    Observes client [⟨.run client.address capacityQuestion, reply⟩,
        ⟨.run client.address (groupQuestion m.volumeGroup), reply'⟩]
      (.ok (.observed client.address client.hostname client.model (client.cpus.getD 0) free.cpus
        (client.memory.getD 0) free.memory disk.total disk.free))

/-- Nodes are asked one after the other, up to the first failure. -/
inductive Survey : List Client → List Exchange → List Node → Option Fault → Prop where
  /-- No node is left to ask. -/
  | done : Survey [] [] [] none
  /-- A node does not answer, or not in a way that can be read. -/
  | failed {client : Client} {clients : List Client} {asked : List Exchange} {fault : Fault}
      (h : m.Observes client asked (.error fault)) :
    Survey (client :: clients) asked [] (some fault)
  /-- A node is observed, and the others are asked. -/
  | observed {client : Client} {clients : List Client} {asked course : List Exchange}
      {node : Node} {nodes : List Node} {fault? : Option Fault}
      (h : m.Observes client asked (.ok node)) (rest : Survey clients course nodes fault?) :
    Survey (client :: clients) (asked ++ course) (node :: nodes) fault?

/-- The inventory is asked for, and then each node of it. -/
inductive RefreshCourse : List Exchange → List Client → List Node → Option Fault → Prop where
  /-- There is no inventory. -/
  | failed {reply : Outcome String} {fault : Fault}
      (h : heard Client.readAll reply = .error fault) :
    RefreshCourse [⟨.run m.server inventoryQuestion, reply⟩] [] [] (some fault)
  /-- The nodes of the inventory are asked. -/
  | surveyed {reply : Outcome String} {clients : List Client} {course : List Exchange}
      {nodes : List Node} {fault? : Option Fault} (h : heard Client.readAll reply = .ok clients)
      (hs : m.Survey (clients.filter (·.kind = .node)) course nodes fault?) :
    RefreshCourse (⟨.run m.server inventoryQuestion, reply⟩ :: course) clients nodes fault?

/-- All questions to some clients, in order. -/
def questions (clients : List Client) : List Action :=
  clients.flatMap fun client => [.run client.address capacityQuestion,
    .run client.address (groupQuestion m.volumeGroup)]

variable {m} {clients : List Client} {nodes : List Node} {course : List Exchange}
  {fault? : Option Fault}

/-- A survey asks its questions in their order, up to where it ends. -/
theorem Survey.isPrefix (h : m.Survey clients course nodes fault?) :
    course.map (·.action) <+: m.questions clients := by
  induction h with
  | done => exact List.nil_prefix
  | failed h =>
    cases h with
    | capacityFailed => exact List.prefix_append [_] _
    | groupFailed => exact List.prefix_append [_, _] _
  | observed h _ ih =>
    cases h
    exact List.prefix_append_right_inj [_, _] |>.mpr ih

/-- A refresh asks for the inventory, and then the nodes of it in their order. -/
theorem RefreshCourse.isPrefix (h : m.RefreshCourse course clients nodes fault?) :
    course.map (·.action) <+:
      .run m.server inventoryQuestion :: m.questions (clients.filter (·.kind = .node)) := by
  cases h with
  | failed => exact List.prefix_append [_] _
  | surveyed _ hs => exact List.cons_prefix_cons.mpr ⟨rfl, hs.isPrefix⟩

/-! ## The programs ask them -/

variable (m)

/-- Asks for a report and reads it. -/
def hear {α : Type} (host command : String) (read : List Char → Except Flaw α) : Operation α := do
  let text ← .exec host command
  .ofOutcome (orFault (read text.toList))

theorem hear_run {α : Type} (host command : String) (read : List Char → Except Flaw α) :
    (hear host command read).run =
      .act (.run host command) fun reply => .done (heard read reply) := by
  rw [hear, Operation.run_bind]
  show Program.act _ _ = _
  congr 1
  funext reply
  cases reply <;> rfl

/-- A question is one exchange. -/
theorem hear_leads {α : Type} (host command : String) (read : List Char → Except Flaw α) :
    (hear host command read).run.Leads fun course outcome =>
      ∃ reply, course = [⟨.run host command, reply⟩] ∧ outcome = heard read reply := by
  rw [hear_run]
  exact fun reply => ⟨reply, rfl, rfl⟩

/-- A node is observed by two questions. -/
theorem observe_eq (client : Client) :
    m.observe client = (do
      let free ← hear client.address capacityQuestion FreeCapacity.read
      let disk ← hear client.address (groupQuestion m.volumeGroup) VolumeGroup.read
      return .observed client.address client.hostname client.model (client.cpus.getD 0) free.cpus
        (client.memory.getD 0) free.memory disk.total disk.free) := by
  simp only [observe, hear, bind_assoc, availableResources_eq, volumeGroupReport_eq]

/-- So an observation is two exchanges, or one that failed. -/
theorem observe_leads (client : Client) : (m.observe client).run.Leads (m.Observes client) := by
  rw [observe_eq]
  refine Operation.leads_andThen (hear_leads _ _ _) ?_ ?_
  · rintro _ free ⟨reply, rfl, hfree⟩
    refine Operation.leads_andThen (hear_leads _ _ _) ?_ ?_
    · rintro _ disk ⟨reply', rfl, hdisk⟩
      exact .observed hfree.symm hdisk.symm
    · rintro _ fault ⟨reply', rfl, hfault⟩
      exact .groupFailed hfree.symm hfault.symm
  · rintro _ fault ⟨reply, rfl, hfault⟩
    exact .capacityFailed hfault.symm

/-- Sums up what was observed. -/
def summarize (clients : List Client) (observed : List (Node × Bool)) :
    Operation RefreshReport := do
  let now ← .clock
  return {
    stats := .ofNodes (observed.map (·.1)) now
    nodes := observed.map (·.1)
    writes := (observed.filter (·.2)).length
    partitionsSeen := (clients.filter (·.kind = .partition)).length }

/-- A refresh asks for the clients, and then the nodes among them. -/
theorem refresh_eq :
    m.refresh = (do
      let clients ← hear m.server inventoryQuestion Client.readAll
      let observed ← m.observeAll (clients.filter (·.kind = .node))
      summarize clients observed) := by
  simp only [refresh, hear, summarize, bind_assoc, clientInventory_eq]

/-- What a refresh goes on with when the inventory has been read. -/
def surveyAndPublish (clients : List Client) : Operation RefreshReport := do
  let observed ← m.observeAll (clients.filter (·.kind = .node))
  let report ← summarize clients observed
  .perform (.publish report)
  .perform .bumpGeneration
  return report

/-- The report is published after that. -/
theorem refreshAndPublish_eq :
    m.refreshAndPublish = (do
      let clients ← hear m.server inventoryQuestion Client.readAll
      m.surveyAndPublish clients) := by
  simp only [refreshAndPublish, refresh_eq, surveyAndPublish, bind_assoc]

/-! ## What is observed -/

variable {m} {client : Client} {asked : List Exchange} {node : Node}

/-- An answer of a node that describes a volume group whose products fit. -/
def Fitting (m : Monitor) (exchange : Exchange) : Prop :=
  ∀ host text, exchange = ⟨.run host (groupQuestion m.volumeGroup), .ok text⟩ →
    VolumeGroup.Fits text.toList

/-- What is observed of a client fits the node table. -/
theorem Observes.sound (h : m.Observes client asked (.ok node)) (hclient : client.Bounded)
    (hfits : ∀ exchange ∈ asked, m.Fitting exchange) : node.Sound := by
  cases h with
  | observed hfree hdisk =>
    obtain ⟨text, rfl, hread⟩ := heard_eq_ok_iff.mp hdisk
    have hfitting := (List.forall_mem_cons.mp (List.forall_mem_cons.mp hfits).2).1
    have hgroup := VolumeGroup.total_lt (hfitting _ text rfl) hread
    have hword : Text.Decimal.word64 / 1024 < Store.columnBound := by decide
    obtain ⟨hused, hmemory, hdiskUsed⟩ := Node.observed_used_le client.address client.hostname
      client.model (client.cpus.getD 0) _ (client.memory.getD 0) _ _ _
    exact ⟨hclient.cpus, hused, Nat.lt_trans hclient.memory hword, hmemory,
      Nat.lt_trans hgroup hword, hdiskUsed⟩

end Monitor

end VparFleet
