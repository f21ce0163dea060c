import VparFleet.Proofs.Controller.Serving
import VparFleet.Proofs.Monitor.Guard
import VparFleet.Proofs.Monitor.Upkeep

/-!
# The effect of a refresh

On an open store that was written by the program, and with volume groups whose sizes fit, a refresh
keeps every node that it has observed, and nothing else. It fails only with a question that was not
answered or not in a way that can be read; then what was observed before stays kept, and the last
report stays as it was.

* `Upkeep.survey_of_fits`: the store lets every node be kept.
* `Refreshed`: what has become of everything.
* `update_alone_effect`: a whole update, for all answers of the hosts.
-/

namespace VparFleet

open Program Report Store

theorem Store.Accepts.of_sound {store : Store} {node : Node} (ho : store.isOpen = true)
    (hr : NodeTable.Readable store.nodes) (hs : node.Sound) : store.Accepts node where
  isOpen := ho
  readable row hrow := hr row (NodeTable.find?_eq_some hrow).1
  storable _ := hs.storable

namespace Monitor

variable {m : Monitor} {store : Store} {before after : Shared} {client : Client}
  {clients : List Client} {course : List Exchange} {nodes : List Node} {fault? : Option Fault}
  {outcome : Outcome RefreshReport}

/-- Nodes whose amounts fit are refused by no store whose rows can be read. -/
theorem Upkeep.survey_of_fits (h : m.Upkeep store clients course nodes fault?)
    (ho : store.isOpen = true) (hr : NodeTable.Readable store.nodes)
    (hclients : ∀ client ∈ clients, client.Bounded)
    (hfits : ∀ exchange ∈ course, m.Fitting exchange) :
    m.Survey clients course nodes fault? ∧ ∀ node ∈ nodes, node.Sound := by
  induction h with
  | done => exact ⟨.done, List.forall_mem_nil _⟩
  | failed h =>
    cases h with
    | unheard h => exact ⟨.failed h, List.forall_mem_nil _⟩
    | refused h hn fault =>
      -- a node that was read from fitting numbers is sound, so the store does not refuse it
      have hsound := h.sound (List.forall_mem_cons.mp hclients).1 hfits
      exact absurd (.of_sound ho hr hsound) hn
  | kept h rest ih =>
    obtain ⟨hclient, hclients⟩ := List.forall_mem_cons.mp hclients
    obtain ⟨hasked, hcourse⟩ := List.forall_mem_append.mp hfits
    have hsound := h.observes.1.sound hclient hasked
    -- and the table is still readable for the nodes that follow
    obtain ⟨hsurvey, hnodes⟩ := ih ho (hr.keep hsound.inRange) hclients hcourse
    exact ⟨.observed h.observes.1 hsurvey, List.forall_mem_cons.mpr ⟨hsound, hnodes⟩⟩

/-- A round whose numbers all fit is a refresh, and its nodes are sound. -/
theorem Round.refreshCourse_of_fits (h : m.Round store course clients nodes fault?)
    (ho : store.isOpen = true) (hr : NodeTable.Readable store.nodes)
    (hfits : ∀ exchange ∈ course, m.Fitting exchange) :
    m.RefreshCourse course clients nodes fault? ∧ ∀ node ∈ nodes, node.Sound := by
  cases h with
  | failed h => exact ⟨.failed h, List.forall_mem_nil _⟩
  | surveyed h hs =>
    obtain ⟨text, rfl, hread⟩ := heard_eq_ok_iff.mp h
    obtain ⟨hsurvey, hsound⟩ := hs.survey_of_fits ho hr
      (fun client hmem => Client.bounded_of_readAll hread client (List.mem_of_mem_filter hmem))
      (List.forall_mem_cons.mp hfits).2
    exact ⟨.surveyed h hsurvey, hsound⟩

/-- What has become of everything by a refresh that has asked hosts in one course. -/
structure Refreshed (m : Monitor) (before after : Shared) (course : List Exchange)
    (outcome : Outcome RefreshReport) (clients : List Client) (nodes : List Node)
    (fault? : Option Fault) : Prop where
  /-- The inventory was asked for and then the nodes, up to the first failure. -/
  asked : m.RefreshCourse course clients nodes fault?
  /-- Nobody else was asked. -/
  actions : course.map (·.action) <+:
    .run m.server inventoryQuestion :: m.questions (clients.filter (·.kind = .node))
  /-- What was observed fits the columns and passes the checks. -/
  accepted : ∀ node ∈ nodes,
    NodeRow.ofNode node = .ok (.of node) ∧ (NodeRow.of node).brokenCheck? = none
  reports : Reports before.store.nodes clients nodes fault? outcome
  state : after = before.refreshed nodes outcome

/-- So its effect is that of a refresh. -/
theorem Round.refreshed (h : m.Round before.store course clients nodes fault?)
    (ho : before.store.isOpen = true) (hr : NodeTable.Readable before.store.nodes)
    (hfits : ∀ exchange ∈ course, m.Fitting exchange)
    (hreports : Reports before.store.nodes clients nodes fault? outcome)
    (hstate : after = before.refreshed nodes outcome) :
    Refreshed m before after course outcome clients nodes fault? := by
  obtain ⟨hcourse, hsound⟩ := h.refreshCourse_of_fits ho hr hfits
  refine ⟨hcourse, hcourse.isPrefix, fun node hmem => ?_, hreports, hstate⟩
  have hs := hsound node hmem
  exact ⟨NodeRow.ofNode_of_sound hs, NodeRow.brokenCheck?_of hs.vcpusUsed hs.memoryUsed hs.diskUsed⟩

end Monitor

open Monitor

section Alone

variable {m : Monitor} {shared : Shared} {happenings : List Happening}
  {tasks : Tasks (Outcome RefreshReport)} {outcome : Outcome RefreshReport}

/-- An update that has run alone has refreshed. -/
theorem Tasks.Run.refreshed (run : Tasks.Run ⟨shared, [m.update.run]⟩ happenings tasks)
    (ho : shared.store.isOpen = true) (hw : NodeTable.Written shared.store.nodes)
    (hfree : shared.refreshers = []) (hfits : ∀ x ∈ happenings, m.Fitting x.exchange)
    (hdone : tasks.programs = [.done outcome]) :
    ∃ clients nodes fault?, Refreshed m shared tasks.shared (remotely (Tasks.own 0 happenings))
      outcome clients nodes fault? := by
  obtain ⟨clients, nodes, fault?, hround, hreports, hstate⟩ := run.round hfree hdone
  refine ⟨clients, nodes, fault?, hround.refreshed ho hw.readable ?_ hreports hstate⟩
  intro exchange hmem
  obtain ⟨x, hx, -, rfl⟩ := Tasks.exists_of_mem_own (List.mem_of_mem_filter hmem)
  exact hfits x hx

/-- An update that runs alone refreshes, and comes to an end whatever hosts answer. -/
theorem update_alone_effect (run : Tasks.Run ⟨shared, [m.update.run]⟩ happenings tasks)
    (ho : shared.store.isOpen = true) (hw : NodeTable.Written shared.store.nodes)
    (hfree : shared.refreshers = []) (hfits : ∀ x ∈ happenings, m.Fitting x.exchange) :
    (∃ rest last outcome, Tasks.Run tasks rest last ∧ last.programs = [.done outcome]) ∧
    ∀ outcome, tasks.programs = [.done outcome] →
      ∃ clients nodes fault?, Refreshed m shared tasks.shared
        (remotely (Tasks.own 0 happenings)) outcome clients nodes fault? :=
  ⟨(run.alone (update_round hfree)).ends, fun _ hdone => run.refreshed ho hw hfree hfits hdone⟩

end Alone

namespace Sample

set_option maxRecDepth 4000 in
/-- The clients that the inventory tells of. -/
theorem inventory_read : Client.readAll inventory.toList =
    .ok [⟨"n1", "Superdome2 nPar", "10.0.0.11", none, some 65536, some 8⟩,
      ⟨"web", "Virtual Partition", "", none, none, none⟩,
      ⟨"backup", "rx2800", "", none, none, none⟩] := by
  show Client.readAll (String.ofList _).toList = _
  rw [String.toList_ofList]
  decide +kernel

/-- The rows of the store are rows of nodes. -/
theorem store_written : NodeTable.Written store.nodes := by
  have hrow : NodeRow.ofNode ⟨"10.0.0.11", none, "rx2800", 8, 0, 65536, 0, 500, 0⟩ =
      .ok ⟨"10.0.0.11", none, "rx2800", 8, 0, 65536, 0, 500, 0⟩ := by decide
  exact .inserted .empty ⟨by decide, by decide, by decide, by decide, by decide, by decide⟩ hrow
    (by decide)

/-- The volume group that the node describes fits. -/
theorem surveyOutput_fits :
    VolumeGroup.Fits (surveyOutput (groupQuestion "/dev/vg00")).toList := by
  have houtput : surveyOutput (groupQuestion "/dev/vg00") =
      "PE Size (Mbytes) 64\nTotal PE 8000\nAlloc PE 2000\n" := by decide +kernel
  have hgroup : (Text.lines "PE Size (Mbytes) 64\nTotal PE 8000\nAlloc PE 2000\n".toList).foldlM
      VolumeGroup.readLine ⟨none, none, none⟩ = .ok ⟨some 64, some 8000, some 2000⟩ := by
    decide +kernel
  intro size extents allocated hread
  rw [houtput] at hread
  cases hgroup.symm.trans hread
  decide

/-- All that these hosts report fits its fields. -/
theorem surveyed_fitting {x : Happening} {tasks : Tasks (Outcome RefreshReport)}
    (hx : x ∈ (tasks.goOn surveyed 0).1) : controller.monitor.Fitting x.exchange := by
  rintro host text hexchange
  obtain ⟨task, action, reply⟩ := x
  cases hexchange
  have hreply := Tasks.goOn_outside surveyed 0 hx fun _ => rfl
  obtain rfl := Except.ok.inj (Option.some.inj hreply)
  exact surveyOutput_fits

end Sample

/-- The node of the small fleet has less free than the store says. One inventory is asked for, and
one node twice. -/
theorem update_alone_effect_sample :
    let alone : Tasks (Outcome RefreshReport) :=
      ⟨.ofStore Sample.store, [Sample.controller.monitor.update.run]⟩
    (alone.goOn Sample.surveyed 0).2.programs = [.done (.ok Sample.report)] ∧
      (Tasks.own 0 (alone.goOn Sample.surveyed 0).1).filterMap (·.action.command?) =
        [("10.0.0.1", "/opt/ignite/bin/ignite client list -m xml -l details"),
          ("10.0.0.11", "/opt/hpvm/bin/vparstatus -A"), ("10.0.0.11", "vgdisplay /dev/vg00")] ∧
      ∃ clients nodes fault?, Refreshed Sample.controller.monitor alone.shared
        (alone.goOn Sample.surveyed 0).2.shared
        (remotely (Tasks.own 0 (alone.goOn Sample.surveyed 0).1)) (.ok Sample.report)
        clients nodes fault? := by
  intro alone
  -- the inventory is read once, so that running the update does not read it again and again
  have hrun := Sample.controller.monitor.goOn_update Sample.surveyed Sample.store rfl
    Sample.inventory_read
  have hdone : (alone.goOn Sample.surveyed 0).2.programs = [.done (.ok Sample.report)] := by
    rw [hrun]
    exact Program.eq_done_of_results (by decide +kernel)
  have hasked : (Tasks.own 0 (alone.goOn Sample.surveyed 0).1).filterMap (·.action.command?) =
      [("10.0.0.1", "/opt/ignite/bin/ignite client list -m xml -l details"),
        ("10.0.0.11", "/opt/hpvm/bin/vparstatus -A"), ("10.0.0.11", "vgdisplay /dev/vg00")] := by
    rw [hrun]
    decide +kernel
  obtain ⟨-, hends⟩ := update_alone_effect (Tasks.goOn_run Sample.surveyed 0 alone) rfl
    Sample.store_written rfl fun x hx => Sample.surveyed_fitting hx
  exact ⟨hdone, hasked, hends _ hdone⟩

end VparFleet
