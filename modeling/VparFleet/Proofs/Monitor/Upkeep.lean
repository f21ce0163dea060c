import VparFleet.Proofs.Controller.Serving
import VparFleet.Proofs.Monitor.RefreshCourse
import VparFleet.Proofs.Store.Registry

/-!
# What a refresh keeps

A refresh takes the store as it finds it. A node is kept if the store is open, the row with its
address can be read, and the node can be stored if it has to be written; otherwise the refresh
fails. The first failure, of a host or of the store, is the end of it, and what was kept before
stays kept.

* `Store.Accepts`: a store lets a node be kept.
* `Keeps`, `Upkeep`, `Round`: what is asked and kept of one node, of some, and of an inventory.
* `Round.refreshCourse`: a round without a failure has asked all that there is to ask.
* `update_round`, `Tasks.Run.round`: an update that runs alone is one round, whatever the store and
  the hosts are like; `Tasks.Run.kept`: what it has kept if it goes well.
-/

namespace VparFleet

open Program Report Store

/-! ## What a store lets be kept -/

namespace Store

variable {table : NodeTable} {node : Node}

/-- The row with an address can be read, if there is one. -/
def NodeTable.ReadableAt (table : NodeTable) (address : String) : Prop :=
  ∀ row, table.find? address = some row → ∃ stored : Node, stored.InRange ∧ row = .of stored

theorem NodeTable.keep_of_new (h : table.find? node.address = none) :
    table.keep node = (table ++ [.of node], .created) := by
  rw [keep, h]

/-- A node with a row is compared with it. -/
theorem NodeTable.keep_of_stored {stored : Node}
    (h : table.find? node.address = some (.of stored)) :
    table.keep node =
      if stored.sameUsage node then (table, .unchanged) else (table.put node, .updated) := by
  rw [keep, h]
  by_cases hsame : stored.sameUsage node = true
  · rw [if_pos hsame]
    exact if_pos (NodeRow.amounts_of_eq_iff.mpr hsame)
  · rw [if_neg hsame]
    exact if_neg (mt NodeRow.amounts_of_eq_iff.mp hsame)

/-- A store lets a node be kept: it is open, the row of the node can be read if there is one, and
the node can be stored if it has to be written. -/
structure Accepts (store : Store) (node : Node) : Prop where
  isOpen : store.isOpen = true
  readable : store.nodes.ReadableAt node.address
  storable : (store.nodes.keep node).2.wrote = true → node.Storable

end Store

variable {shared : Shared} {task : Nat} {past : List Exchange} {node : Node}

/-- Whoever asks for a node is told what its row says, if the store is open and the row can be
read. -/
theorem Shared.answer_findNode (shared : Shared) (task : Nat) (address : String) :
    (∃ found?, shared.answer task (.findNode address) = .reply (.ok found?) shared ∧
      shared.store.isOpen = true ∧ shared.store.nodes.find? address = found?.map NodeRow.of ∧
      ∀ stored, found? = some stored → stored.InRange) ∨
    ∃ fault, shared.answer task (.findNode address) = .reply (.error fault) shared ∧
      ¬ (shared.store.isOpen = true ∧ shared.store.nodes.ReadableAt address) := by
  rw [answer, query]
  cases ho : shared.store.isOpen with
  | false =>
    rw [run_findNode_closed address ho]
    refine Or.inr ⟨_, rfl, ?_⟩
    rintro ⟨hopen, -⟩
    cases hopen
  | true =>
    rw [run_findNode address ho]
    cases hfind : shared.store.nodes.find? address with
    | none =>
      refine Or.inl ⟨none, rfl, rfl, rfl, fun stored hstored => ?_⟩
      cases hstored
    | some row =>
      dsimp only
      cases hnode : row.toNode with
      | error fault =>
        refine Or.inr ⟨fault, rfl, fun h => ?_⟩
        obtain ⟨stored, hrange, rfl⟩ := h.2 row hfind
        cases hnode.symm.trans (NodeRow.toNode_of hrange)
      | ok stored =>
        obtain ⟨hrange, rfl⟩ := NodeRow.eq_of_toNode hnode
        exact Or.inl ⟨some stored, rfl, rfl, rfl, fun _ h => Option.some.inj h ▸ hrange⟩

/-- What becomes of a node that is to be kept. -/
inductive Upserts (shared : Shared) (node : Node) : Shared → Outcome UpsertOutcome → Prop where
  | kept (h : shared.store.Accepts node) :
    Upserts shared node (shared.withNodes (shared.store.nodes.keep node).1)
      (.ok (shared.store.nodes.keep node).2)
  | refused (h : ¬ shared.store.Accepts node) (fault : Fault) :
    Upserts shared node shared (.error fault)

/-- What the table does is what the store does, if it accepts the node. -/
theorem Upserts.of_keep {table : NodeTable} {outcome : UpsertOutcome}
    (h : shared.store.Accepts node) (hkeep : shared.store.nodes.keep node = (table, outcome)) :
    Upserts shared node (shared.withNodes table) (.ok outcome) := by
  have hkept := Upserts.kept h
  rwa [hkeep] at hkept

/-- A node is kept exactly when the store lets it, and no host is asked. -/
theorem upsertNode_alone (hc : node.vcpus < Text.Decimal.word32) :
    (upsertNode node).run.Alone task (fun now shared' outcome =>
      remotely now = remotely past ∧ Upserts shared node shared' outcome) past shared := by
  rcases shared.answer_findNode task node.address with
    ⟨found?, ha, ho, hfind, hrange⟩ | ⟨fault, ha, hnot⟩
  · refine (alone_inside ha).mpr ?_
    -- a node is added, left alone or updated, and each may be refused
    cases found? with
    | none =>
      have hkeep := NodeTable.keep_of_new hfind
      have hreadable : shared.store.nodes.ReadableAt node.address :=
        fun row hrow => nomatch hfind.symm.trans hrow
      -- the store refuses exactly the nodes that do not fit into a row
      by_cases hs : node.Storable
      · refine (alone_inside (Shared.answer_addNode ho (hs.sound hc) hfind task)).mpr ?_
        exact ⟨by simp [remotely, Action.isRemote], .of_keep ⟨ho, hreadable, fun _ => hs⟩ hkeep⟩
      · obtain ⟨fault, -, hadd⟩ := Shared.answer_addNode_refused ho (fun h => hs h.1) task
        refine (alone_inside hadd).mpr ⟨by simp [remotely, Action.isRemote], .refused ?_ fault⟩
        exact fun h => hs (h.storable (by rw [hkeep]; rfl))
    | some stored =>
      have hkeep := NodeTable.keep_of_stored hfind
      have hreadable : shared.store.nodes.ReadableAt node.address := by
        intro row hrow
        exact ⟨stored, hrange stored rfl, Option.some.inj (hrow.symm.trans hfind)⟩
      show ((if stored.sameUsage node then pure .unchanged
        else Operation.updateNode node >>= fun _ => pure .updated
          : Operation UpsertOutcome).run).Alone _ _ _ _
      by_cases hsame : stored.sameUsage node = true
      · rw [if_pos hsame] at hkeep ⊢
        refine ⟨by simp [remotely, Action.isRemote], .of_keep ⟨ho, hreadable, fun h => ?_⟩ hkeep⟩
        rw [hkeep] at h
        cases h
      · rw [if_neg hsame] at hkeep ⊢
        by_cases hs : node.Storable
        · refine (alone_inside (Shared.answer_updateNode ho (hs.sound hc) hfind task)).mpr ?_
          exact ⟨by simp [remotely, Action.isRemote], .of_keep ⟨ho, hreadable, fun _ => hs⟩ hkeep⟩
        · obtain ⟨fault, -, hupdate⟩ := Shared.answer_updateNode_refused ho hs task
          refine (alone_inside hupdate).mpr
            ⟨by simp [remotely, Action.isRemote], .refused ?_ fault⟩
          exact fun h => hs (h.storable (by rw [hkeep]; rfl))
  · refine (alone_inside ha).mpr ⟨by simp [remotely, Action.isRemote], .refused ?_ fault⟩
    exact fun h => hnot ⟨h.isOpen, h.readable⟩

/-! ## What is asked and kept -/

theorem remotely_append (first second : List Exchange) :
    remotely (first ++ second) = remotely first ++ remotely second :=
  List.filter_append ..

namespace Monitor

variable {m : Monitor} {store : Store} {client : Client} {clients : List Client}
  {asked course : List Exchange} {nodes : List Node} {fault? : Option Fault}

/-- A node is asked, and kept if it answers and the store lets it be kept. -/
inductive Keeps (m : Monitor) (store : Store) (client : Client) :
    List Exchange → Outcome Node → Prop where
  /-- It does not answer, or not in a way that can be read. -/
  | unheard {asked : List Exchange} {fault : Fault} (h : m.Observes client asked (.error fault)) :
    Keeps m store client asked (.error fault)
  /-- The store does not let it be kept. -/
  | refused {asked : List Exchange} {node : Node} (h : m.Observes client asked (.ok node))
      (hn : ¬ store.Accepts node) (fault : Fault) :
    Keeps m store client asked (.error fault)
  /-- It is kept. -/
  | kept {asked : List Exchange} {node : Node} (h : m.Observes client asked (.ok node))
      (hn : store.Accepts node) :
    Keeps m store client asked (.ok node)

/-- Nodes are asked and kept one after the other, up to the first failure. -/
inductive Upkeep (m : Monitor) :
    Store → List Client → List Exchange → List Node → Option Fault → Prop where
  | done {store : Store} : Upkeep m store [] [] [] none
  | failed {store : Store} {client : Client} {clients : List Client} {asked : List Exchange}
      {fault : Fault} (h : m.Keeps store client asked (.error fault)) :
    Upkeep m store (client :: clients) asked [] (some fault)
  | kept {store : Store} {client : Client} {clients : List Client} {asked course : List Exchange}
      {node : Node} {nodes : List Node} {fault? : Option Fault}
      (h : m.Keeps store client asked (.ok node))
      (rest : Upkeep m { store with nodes := (store.nodes.keep node).1 } clients course nodes
        fault?) :
    Upkeep m store (client :: clients) (asked ++ course) (node :: nodes) fault?

/-- The inventory is asked for, and the nodes of it are kept. -/
inductive Round (m : Monitor) (store : Store) :
    List Exchange → List Client → List Node → Option Fault → Prop where
  | failed {reply : Outcome String} {fault : Fault}
      (h : heard Client.readAll reply = .error fault) :
    Round m store [⟨.run m.server inventoryQuestion, reply⟩] [] [] (some fault)
  | surveyed {reply : Outcome String} {clients : List Client} {course : List Exchange}
      {nodes : List Node} {fault? : Option Fault} (h : heard Client.readAll reply = .ok clients)
      (hs : m.Upkeep store (clients.filter (·.kind = .node)) course nodes fault?) :
    Round m store (⟨.run m.server inventoryQuestion, reply⟩ :: course) clients nodes fault?

theorem Keeps.observes {node : Node} (h : m.Keeps store client asked (.ok node)) :
    m.Observes client asked (.ok node) ∧ store.Accepts node := by
  cases h with
  | kept h hn => exact ⟨h, hn⟩

/-- Where nothing fails, all nodes were asked. -/
theorem Upkeep.survey (h : m.Upkeep store clients course nodes none) :
    m.Survey clients course nodes none := by
  generalize hnone : (none : Option Fault) = fault? at h
  induction h with
  | done => exact .done
  | failed => exact nomatch hnone
  | kept h _ ih => exact .observed h.observes.1 (ih hnone)

/-- A round that went well is a refresh. -/
theorem Round.refreshCourse (h : m.Round store course clients nodes none) :
    m.RefreshCourse course clients nodes none := by
  cases h with
  | surveyed h hs => exact .surveyed h hs.survey

/-! ## The programs do that -/

theorem Observes.remotely_eq {outcome : Outcome Node} (h : m.Observes client asked outcome) :
    remotely asked = asked := by
  cases h <;> rfl

/-- What is observed has the processors of the inventory. -/
theorem Observes.vcpus_lt (h : m.Observes client asked (.ok node)) (hclient : client.Bounded) :
    node.vcpus < Text.Decimal.word32 := by
  cases h with
  | observed => exact hclient.cpus

/-- Nothing is observed to use more than it has. -/
theorem Observes.used_le (h : m.Observes client asked (.ok node)) :
    node.vcpusUsed ≤ node.vcpus ∧ node.memoryUsed ≤ node.memory ∧ node.diskUsed ≤ node.disk := by
  cases h with
  | observed => exact Node.observed_used_le ..

/-- A client is asked, and what is observed of it is kept. -/
theorem keepClient_alone (hclient : client.Bounded) :
    (m.keepClient client).run.Alone task (fun now shared' outcome =>
      ∃ asked, remotely now = remotely past ++ asked ∧
        ((∃ fault, m.Keeps shared.store client asked (.error fault) ∧ shared' = shared ∧
            outcome = .error fault) ∨
          ∃ node, m.Keeps shared.store client asked (.ok node) ∧
            shared' = shared.withNodes (shared.store.nodes.keep node).1 ∧
              outcome = .ok (node, (shared.store.nodes.keep node).2.wrote))) past shared := by
  have hremote : (m.observe client).run.Uses (·.isRemote = true) := m.observe_uses client rfl rfl
  have hobserve : (m.observe client).run.Alone task (fun now shared' outcome => shared' = shared ∧
      ∃ asked, now = past ++ asked ∧ m.Observes client asked outcome) past shared :=
    (m.observe_leads client).alone hremote fun action ha => shared.answer_remote ha task
  rw [keepClient, Operation.run_bind, alone_bind]
  -- a node that was not heard is not kept
  refine hobserve.goal_mono ?_
  rintro now shared' (fault | node) ⟨rfl, asked, rfl, hasked⟩
  · refine ⟨asked, ?_, Or.inl ⟨fault, .unheard hasked, rfl, rfl⟩⟩
    rw [remotely_append, hasked.remotely_eq]
  · rw [Operation.after, Operation.run_bind, alone_bind]
    refine (upsertNode_alone (hasked.vcpus_lt hclient)).goal_mono ?_
    rintro later after kept ⟨hlater, hupserts⟩
    have hcourse : remotely later = remotely past ++ asked := by
      rw [hlater, remotely_append, hasked.remotely_eq]
    cases hupserts with
    | kept h => exact ⟨asked, hcourse, Or.inr ⟨node, .kept hasked h, rfl, rfl⟩⟩
    | refused h fault =>
      exact ⟨asked, hcourse, Or.inl ⟨fault, .refused hasked h fault, rfl, rfl⟩⟩

/-- What nodes come to that are kept one after the other, up to a fault. -/
def keptOutcome (table : NodeTable) (nodes : List Node) :
    Option Fault → Outcome (List (Node × Bool))
  | none => .ok (nodes.zip ((table.outcomes nodes).map (·.wrote)))
  | some fault => .error fault

/-- All clients are asked and kept, up to the first failure. -/
theorem observeAll_alone (hclients : ∀ client ∈ clients, client.Bounded) :
    (m.observeAll clients).run.Alone task (fun now shared' outcome =>
      ∃ course nodes fault?, remotely now = remotely past ++ course ∧
        m.Upkeep shared.store clients course nodes fault? ∧
        shared' = shared.withNodes (shared.store.nodes.keepAll nodes) ∧
        outcome = keptOutcome shared.store.nodes nodes fault?) past shared := by
  rw [observeAll_eq]
  induction clients generalizing past shared with
  | nil => exact ⟨[], [], none, (List.append_nil _).symm, .done, rfl, rfl⟩
  | cons client clients ih =>
    obtain ⟨hclient, hclients⟩ := List.forall_mem_cons.mp hclients
    rw [List.mapM_cons, Operation.run_bind, alone_bind]
    refine (keepClient_alone hclient).goal_mono ?_
    rintro now shared' b ⟨asked, hnow, ⟨fault, hkeeps, rfl, rfl⟩ | ⟨node, hkeeps, rfl, rfl⟩⟩
    · exact ⟨asked, [], some fault, hnow, .failed hkeeps, rfl, rfl⟩
    · -- the others are kept in the table that the first one leaves
      rw [Operation.after, Operation.run_bind, alone_bind]
      refine (ih hclients).goal_mono ?_
      rintro later after bs ⟨course, nodes, fault?, hlater, hupkeep, rfl, rfl⟩
      have hcourse : remotely later = remotely past ++ (asked ++ course) := by
        rw [hlater, hnow, List.append_assoc]
      cases fault? <;> exact ⟨_, node :: nodes, _, hcourse, .kept hkeeps hupkeep, rfl, rfl⟩

/-! ## A round -/

/-- The report on nodes that were observed and kept in a table. -/
def reportOf (table : NodeTable) (clients : List Client) (nodes : List Node) (now : Instant) :
    RefreshReport where
  stats := .ofNodes nodes now
  nodes
  writes := (table.outcomes nodes).countP (·.wrote)
  partitionsSeen := (clients.filter (·.kind = .partition)).length

/-- What a refresh comes to: a report if nothing failed, or the fault. -/
inductive Reports (table : NodeTable) (clients : List Client) (nodes : List Node) :
    Option Fault → Outcome RefreshReport → Prop where
  | completed (now : Instant) :
    Reports table clients nodes none (.ok (reportOf table clients nodes now))
  | failed (fault : Fault) : Reports table clients nodes (some fault) (.error fault)

theorem map_fst_kept (table : NodeTable) (nodes : List Node) :
    (nodes.zip ((table.outcomes nodes).map (·.wrote))).map (·.1) = nodes := by
  induction nodes generalizing table with
  | nil => rfl
  | cons node nodes ih => exact congrArg (node :: ·) (ih _)

/-- The writes that a report tells of are those of the table. -/
theorem length_wrote_kept (table : NodeTable) (nodes : List Node) :
    ((nodes.zip ((table.outcomes nodes).map (·.wrote))).filter (·.2)).length =
      (table.outcomes nodes).countP (·.wrote) := by
  induction nodes generalizing table with
  | nil => rfl
  | cons node nodes ih =>
    rw [NodeTable.outcomes, List.map_cons, List.zip_cons_cons, List.countP_cons, List.filter_cons,
      ← ih]
    dsimp only
    split <;> rfl

/-- The nodes of the inventory are asked and kept, and the rest stays as it is. -/
theorem refresh_alone :
    m.refresh.run.Alone task (fun now shared' outcome =>
      ∃ course clients nodes fault?, remotely now = remotely past ++ course ∧
        m.Round shared.store course clients nodes fault? ∧
        shared' = shared.withNodes (shared.store.nodes.keepAll nodes) ∧
        Reports shared.store.nodes clients nodes fault? outcome) past shared := by
  have hremote : (hear m.server inventoryQuestion Client.readAll).run.Uses
      (·.isRemote = true) :=
    (Uses.exec (by rfl)).andThen fun _ => uses_done
  have hinventory : (hear m.server inventoryQuestion Client.readAll).run.Alone task
      (fun now shared' outcome => shared' = shared ∧ ∃ course, now = past ++ course ∧
        ∃ reply, course = [⟨.run m.server inventoryQuestion, reply⟩] ∧
          outcome = heard Client.readAll reply) past shared :=
    (hear_leads _ _ _).alone hremote fun action ha => shared.answer_remote ha task
  have hasked (reply : Outcome String) :
      remotely (past ++ [⟨.run m.server inventoryQuestion, reply⟩]) =
        remotely past ++ [⟨.run m.server inventoryQuestion, reply⟩] :=
    remotely_append past _
  rw [refresh_eq, Operation.run_bind, alone_bind]
  refine hinventory.goal_mono ?_
  rintro now shared' (fault | clients) ⟨rfl, _, rfl, reply, rfl, hclients⟩
  · exact ⟨_, [], [], some fault, hasked reply, .failed hclients.symm, rfl, .failed fault⟩
  · obtain ⟨text, rfl, hread⟩ := heard_eq_ok_iff.mp hclients.symm
    have hbounded : ∀ client ∈ clients.filter (·.kind = .node), client.Bounded :=
      fun client hmem => Client.bounded_of_readAll hread client (List.mem_of_mem_filter hmem)
    rw [Operation.after, Operation.run_bind, alone_bind]
    refine (observeAll_alone hbounded).goal_mono ?_
    rintro later after observed ⟨course, nodes, fault?, hlater, hupkeep, rfl, rfl⟩
    rw [hasked, List.append_assoc] at hlater
    have hround := Round.surveyed hclients.symm hupkeep
    cases fault? with
    | some fault => exact ⟨_, clients, nodes, some fault, hlater, hround, rfl, .failed fault⟩
    | none =>
      refine (alone_outside rfl).mpr fun (now : Instant) => ?_
      refine ⟨_, clients, nodes, none, ?_, hround, rfl, ?_⟩
      · rw [remotely_append, hlater]
        exact List.append_nil _
      · rw [map_fst_kept, length_wrote_kept]
        exact .completed now

end Monitor

/-- The state after a refresh. What was observed is kept in any case. -/
def Shared.refreshed (shared : Shared) (nodes : List Node) : Outcome RefreshReport → Shared
  | .ok report => { shared.withNodes (shared.store.nodes.keepAll nodes) with
      cached := some report, generation := shared.generation + 1 }
  | .error _ => shared.withNodes (shared.store.nodes.keepAll nodes)

namespace Monitor

variable {m : Monitor}

/-- What a refresh with its publication does by itself. -/
theorem refreshAndPublish_alone :
    m.refreshAndPublish.run.Alone task (fun now shared' outcome =>
      ∃ course clients nodes fault?, remotely now = remotely past ++ course ∧
        m.Round shared.store course clients nodes fault? ∧
        Reports shared.store.nodes clients nodes fault? outcome ∧
        shared' = shared.refreshed nodes outcome) past shared := by
  rw [refreshAndPublish, Operation.run_bind, alone_bind]
  refine refresh_alone.goal_mono ?_
  rintro now shared' (fault | report) ⟨course, clients, nodes, fault?, hnow, hround, rfl, hends⟩
  · exact ⟨course, clients, nodes, fault?, hnow, hround, hends, rfl⟩
  · refine (alone_inside rfl).mpr ((alone_inside rfl).mpr ?_)
    refine ⟨course, clients, nodes, fault?, ?_, hround, hends, rfl⟩
    rw [← hnow]
    simp [remotely, Action.isRemote]

/-- An update that runs alone is one round. -/
theorem update_round (hfree : shared.refreshers = []) :
    m.update.run.Alone task (fun now shared' outcome =>
      ∃ clients nodes fault?, m.Round shared.store (remotely now) clients nodes fault? ∧
        Reports shared.store.nodes clients nodes fault? outcome ∧
        shared' = shared.refreshed nodes outcome) [] shared := by
  obtain ⟨store, names, refreshers, cached, generation⟩ := shared
  obtain rfl : refreshers = [] := hfree
  -- nobody else wants the guard, and nothing is counted in the meantime
  have hlock : (⟨store, names, [], cached, generation⟩ : Shared).answer task .lockRefresh =
      .reply () ⟨store, names, [task], cached, generation⟩ := by
    simp [Shared.answer, Shared.lockRefresh]
  have hcount (refreshers : List Nat) :
      (⟨store, names, refreshers, cached, generation⟩ : Shared).answer task .generation =
        .reply generation ⟨store, names, refreshers, cached, generation⟩ := rfl
  refine (alone_inside (hcount [])).mpr ((alone_inside hlock).mpr ?_)
  refine (alone_inside (hcount [task])).mpr ?_
  show ((if generation = generation then m.refreshAndPublish
    else _ : Operation RefreshReport).run >>= fun outcome =>
    Program.perform .unlockRefresh >>= fun _ => done outcome).Alone _ _ _ _
  rw [if_pos rfl, alone_bind]
  refine refreshAndPublish_alone.goal_mono ?_
  rintro now shared' outcome ⟨course, clients, nodes, fault?, hnow, hround, hends, rfl⟩
  refine (alone_inside rfl).mpr ⟨clients, nodes, fault?, ?_, hends, ?_⟩
  · have hcourse : remotely (now ++ [⟨.unlockRefresh, ()⟩]) = course := by
      rw [remotely_append, hnow]
      simp [remotely, Action.isRemote]
    exact hcourse.symm ▸ hround
  · cases outcome <;> rfl

end Monitor

open Monitor in
/-- An update that has run alone was one round. -/
theorem Tasks.Run.round {m : Monitor} {happenings : List Happening}
    {tasks : Tasks (Outcome RefreshReport)} {outcome : Outcome RefreshReport}
    (run : Tasks.Run ⟨shared, [m.update.run]⟩ happenings tasks) (hfree : shared.refreshers = [])
    (hdone : tasks.programs = [.done outcome]) :
    ∃ clients nodes fault?,
      m.Round shared.store (remotely (Tasks.own 0 happenings)) clients nodes fault? ∧
      Reports shared.store.nodes clients nodes fault? outcome ∧
      tasks.shared = shared.refreshed nodes outcome :=
  (run.alone (update_round hfree)).goal_of_done hdone

open Monitor in
/-- An update that goes well has asked all that there is to ask, and kept and summed the nodes that
it reports. -/
theorem Tasks.Run.kept {m : Monitor} {happenings : List Happening}
    {tasks : Tasks (Outcome RefreshReport)} {report : RefreshReport}
    (run : Tasks.Run ⟨shared, [m.update.run]⟩ happenings tasks) (hfree : shared.refreshers = [])
    (hdone : tasks.programs = [.done (.ok report)]) :
    (∃ clients, m.RefreshCourse (remotely (Tasks.own 0 happenings)) clients report.nodes none) ∧
      tasks.shared.store.nodes = shared.store.nodes.keepAll report.nodes ∧
      report.stats.totals = .ofNodes report.nodes := by
  obtain ⟨clients, nodes, fault?, hround, hreports, hstate⟩ := run.round hfree hdone
  cases hreports with
  | completed now => exact ⟨⟨clients, hround.refreshCourse⟩, by rw [hstate]; rfl, rfl⟩

/-! ## Updates with an inventory that is known

What an update does alone could be found by reduction, from the text of the inventory on. That takes
long, so the inventory is read beforehand. -/

/-- An update that goes on alone looks whether it is late, asks for the inventory, and goes on with
the nodes of it. -/
theorem Monitor.goOn_update (m : Monitor) (hosts : (action : Action) → Option action.Reply)
    (store : Store) {text : String} {clients : List Client}
    (hanswer : hosts (.run m.server inventoryQuestion) = some (.ok text))
    (hread : Client.readAll text.toList = .ok clients) :
    (⟨.ofStore store, [m.update.run]⟩ : Tasks (Outcome RefreshReport)).goOn hosts 0 =
      let asked := ((m.surveyAndPublish clients).run >>= fun outcome =>
        Program.perform .unlockRefresh >>= fun _ => .done outcome).goOn hosts 0
          { Shared.ofStore store with refreshers := [0] }
      (⟨0, .generation, (0 : Nat)⟩ :: ⟨0, .lockRefresh, ()⟩ :: ⟨0, .generation, (0 : Nat)⟩ ::
        ⟨0, .run m.server inventoryQuestion, .ok text⟩ :: asked.1, ⟨asked.2.1, [asked.2.2]⟩) := by
  -- up to the first question nothing depends on the hosts
  have hguarded : (⟨.ofStore store, [m.update.run]⟩ : Tasks (Outcome RefreshReport)).goOn hosts 0 =
      let asked := (m.refreshAndPublish.run >>= fun outcome =>
        Program.perform .unlockRefresh >>= fun _ => .done outcome).goOn hosts 0
          { Shared.ofStore store with refreshers := [0] }
      (⟨0, .generation, (0 : Nat)⟩ :: ⟨0, .lockRefresh, ()⟩ :: ⟨0, .generation, (0 : Nat)⟩ ::
        asked.1, ⟨asked.2.1, [asked.2.2]⟩) := rfl
  have hheard : heard Client.readAll (.ok text) = .ok clients :=
    heard_eq_ok_iff.mpr ⟨text, rfl, hread⟩
  rw [hguarded, refreshAndPublish_eq, Operation.run_bind, hear_run, act_bind, act_bind, goOn]
  simp only [Shared.answer, hanswer, done_bind, hheard, Operation.after]

/-! ## An inventory that lists a node twice -/

namespace Sample

/-- The node is listed with its processors, and then without. -/
def doubledInventory : String :=
  "<iux:client name=\"n1\"><iux:attr name=\"model\">nPar</iux:attr>
    <iux:attr name=\"ipaddress\">10.0.0.11</iux:attr><iux:attr name=\"cpus\">8</iux:attr>
  </iux:client><iux:client name=\"n2\"><iux:attr name=\"model\">nPar</iux:attr>
    <iux:attr name=\"ipaddress\">10.0.0.11</iux:attr></iux:client>"

set_option maxRecDepth 4000 in
/-- The clients that the inventory tells of. -/
theorem doubledInventory_read : Client.readAll doubledInventory.toList =
    .ok [⟨"n1", "nPar", "10.0.0.11", none, none, some 8⟩,
      ⟨"n2", "nPar", "10.0.0.11", none, none, none⟩] := by
  show Client.readAll (String.ofList _).toList = _
  rw [String.toList_ofList]
  decide +kernel

/-- How hosts and clock answer then. -/
def doubled : (action : Action) → Option action.Reply
  | .run _ command =>
    if command = Monitor.inventoryQuestion then some (.ok doubledInventory)
    else some (.ok (surveyOutput command))
  | .clock => some ⟨19782, 0, 0⟩
  | _ => none

/-- What is observed of the node. -/
def doubledNodes : List Node :=
  [⟨"10.0.0.11", none, "nPar", 8, 3, 0, 0, 500, 125⟩,
    ⟨"10.0.0.11", none, "nPar", 0, 0, 0, 0, 500, 125⟩]

/-- The report of such a refresh. -/
def doubledReport : RefreshReport :=
  ⟨.ofNodes doubledNodes ⟨19782, 0, 0⟩, doubledNodes, 2, 0⟩

/-- An update of the store of the small fleet, with nothing else going on. -/
def updating : Tasks (Outcome RefreshReport) :=
  ⟨.ofStore store, [controller.monitor.update.run]⟩

/-- It goes on to its end: what happens, and all tasks then. -/
def updated : List Happening × Tasks (Outcome RefreshReport) :=
  updating.goOn doubled 0

theorem updated_run : Tasks.Run updating updated.1 updated.2 :=
  Tasks.goOn_run doubled 0 updating

theorem updated_done : updated.2.programs = [.done (.ok doubledReport)] := by
  rw [updated, updating, Monitor.goOn_update _ doubled store rfl doubledInventory_read]
  exact Program.eq_done_of_results (by decide +kernel)

end Sample

end VparFleet
