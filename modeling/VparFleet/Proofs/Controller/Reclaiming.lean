import VparFleet.Proofs.Controller.Exclusion
import VparFleet.Proofs.Controller.RemovalOutcome
import VparFleet.Proofs.Controller.SpawnEffect

/-!
# Placements that can be given up

A name with a placement takes no further spawn, and only a removal forgets placements. So whatever
the calls before have left behind, a removal has to be able to clear it away. It is, as long as some
node lists the partition as up: then nothing but a failed command, or a node that does not say that
the partition is down, keeps the placement. A partition that no node lists as up is not touched at
all, so its name stays taken.

* `Unbarred`, `Barred`: whether a name takes a spawn.
* `RemovalCourse.removed_of_listed`: when a removal is complete.
* `listed_placement_reclaimed`: the removal of any placement that calls have left, and what becomes
  of the name.
* `not_every_placement_reclaimed`: a partition that never came up keeps its placement.
-/

namespace VparFleet

open Store

variable {c : Controller} {p : Provisioner} {name host workload : String} {store store' : Store}
  {course steps : List Exchange} {outcome : Outcome DestroyOutcome} {placement : Placement}
  {shared : Shared}

/-! ## Names that take a spawn -/

/-- A spawn of a name that runs alone is refused for a placement. -/
def Barred (c : Controller) (name : String) (placement : Placement) (shared : Shared) : Prop :=
  ∀ request ip happenings tasks outcome, request.name = name → request.validate = .ok () →
    request.managementIp? c.networkLabel = some ip →
    Tasks.Run ⟨shared, [(c.spawn request).run]⟩ happenings tasks →
    tasks.programs = [.done outcome] →
    Refused (Tasks.own 0 happenings) outcome shared.store tasks.shared.store .invalidRequest
      (SpawnRequest.Flaw.alreadyPlaced name placement.node placement.workload).fault

/-- Whether a spawn of a name that runs alone goes to a node depends only on the room on the
nodes. -/
def Unbarred (c : Controller) (name : String) (shared : Shared) : Prop :=
  ∀ request ip nodes happenings tasks outcome, request.name = name → request.validate = .ok () →
    request.managementIp? c.networkLabel = some ip → shared.store.nodesAnswer = .ok nodes →
    Tasks.Run ⟨shared, [(c.spawn request).run]⟩ happenings tasks →
    tasks.programs = [.done outcome] →
    (∀ node, request.resources.choose nodes = some node →
      Spawned c request ip node (Tasks.own 0 happenings) outcome shared.store
        tasks.shared.store) ∧
    (request.resources.choose nodes = none →
      Refused (Tasks.own 0 happenings) outcome shared.store tasks.shared.store .notFound
        (Controller.noRoom request))

theorem barred_of_placed (hfree : shared.names.claims = [])
    (hplacement : shared.store.placementAnswer name = .ok (some placement)) :
    Barred c name placement shared := by
  rintro request ip happenings tasks outcome rfl hv hip run hdone
  exact (admitted_of_spawn run hfree hdone hv).1 _ (Controller.admission_of_placed hip hplacement)

theorem unbarred_of_free (hfree : shared.names.claims = [])
    (hplacement : shared.store.placementAnswer name = .ok none) : Unbarred c name shared := by
  rintro request ip nodes happenings tasks outcome rfl hv hip hnodes run hdone
  obtain ⟨hrefused, hspawned⟩ := admitted_of_spawn run hfree hdone hv
  have hadmission := Controller.admission_of_free hip hplacement
  rw [hnodes] at hadmission
  refine ⟨fun node hchoose => ?_, fun hchoose => ?_⟩
  · simp only [placeOutcome, hchoose] at hadmission
    exact hspawned ip node hadmission
  · simp only [placeOutcome, hchoose] at hadmission
    exact hrefused _ hadmission

/-! ## Complete removals -/

/-- Whether no command failed. -/
def Unfailing (course : List Exchange) : Prop :=
  ∀ host command fault, ⟨.run host command, .error fault⟩ ∉ course

/-- Whether a node says of a partition that it is down whenever it describes it. -/
def ReportsDown (host name : String) (course : List Exchange) : Prop :=
  ∀ report, ⟨.run host (Command.partitionDetail name), .ok report⟩ ∈ course →
    ∃ detail, Report.Detail.read report.toList = .ok detail ∧ detail.powerState.isDown = true

/-- Nothing but a failed command, or a partition that is not down, keeps a partition on its node. -/
theorem EngineCourse.removed_of_unfailing (h : EngineCourse p host name workload steps outcome)
    (hunfailing : Unfailing steps) (hdown : ReportsDown host name steps) :
    outcome = .ok .removed := by
  -- every other end has an answer that says why, and no answer of these hosts does
  cases h with
  | resetFailed => exact absurd (.head _) (hunfailing _ _ _)
  | stateUnread => exact absurd (.tail _ (.tail _ (.head _))) (hunfailing _ _ _)
  | stateMalformed hread =>
    obtain ⟨detail, hread', -⟩ := hdown _ (.tail _ (.tail _ (.head _)))
    exact nomatch hread.symm.trans hread'
  | notDown hread hstate =>
    obtain ⟨detail, hread', hstate'⟩ := hdown _ (.tail _ (.tail _ (.head _)))
    obtain rfl := Except.ok.inj (hread.symm.trans hread')
    exact nomatch hstate.symm.trans hstate'
  | definitionKept => exact absurd (List.mem_append_right _ (.head _)) (hunfailing _ _ _)
  | volumeKept => exact absurd (List.mem_append_right _ (.tail _ (.head _))) (hunfailing _ _ _)
  | removed => rfl

/-- A placed partition that some node lists is removed, if all commands are answered and its node
says that it is down. -/
theorem RemovalCourse.removed_of_listed (h : RemovalCourse c name store course outcome store')
    (hplacement : store.placementAnswer name = .ok (some placement)) (hlisted : Listed name course)
    (hunfailing : Unfailing course) (hdown : ReportsDown placement.node name course) :
    outcome = .ok .removed := by
  cases h with
  | nodesUnread =>
    obtain ⟨host, output, hmem, -⟩ := hlisted
    exact nomatch List.mem_singleton.mp hmem
  | scanFailed hnodes hscan =>
    obtain ⟨host, hmem⟩ := hscan.unanswered rfl
    exact absurd (List.mem_cons_of_mem _ hmem) (hunfailing host _ _)
  | notListed hnodes hscan hnot =>
    obtain ⟨host, output, hmem, hname⟩ := hlisted
    rcases List.mem_cons.mp hmem with heq | hmem
    · exact nomatch heq
    · exact absurd ((hscan.mem_running_iff rfl).mpr ⟨host, output, hmem, hname⟩) hnot
  | placementUnread hnodes hscan hmem hunread => exact nomatch hplacement.symm.trans hunread
  | notPlaced hnodes hscan hmem hnone => exact nomatch hplacement.symm.trans hnone
  | kept hnodes hscan hmem hplaced hsteps =>
    -- the engine worked on the node of the placement
    obtain rfl := Option.some.inj (Except.ok.inj (hplacement.symm.trans hplaced))
    refine hsteps.removed_of_unfailing (fun host command fault hmem => ?_) fun report hmem => ?_
    · exact hunfailing host command fault (List.mem_append_right _ (List.mem_cons_of_mem _ hmem))
    · exact hdown report (List.mem_append_right _ (List.mem_cons_of_mem _ hmem))
  | forgotten => rfl

/-- A removal that found the partition nowhere has sent nothing but summaries. -/
theorem RemovalCourse.summaries_of_notPresent
    (h : RemovalCourse c name store course outcome store') (ho : outcome = .ok .notPresent)
    (hmem : ⟨.run host command, reply⟩ ∈ course) : command = Command.partitionSummary := by
  rcases h.summaries_or_engine with ⟨hsummary, -, -⟩ | ⟨placed, steps, -, hsteps, -⟩
  · exact hsummary host command reply hmem
  · subst ho
    exact nomatch hsteps

/-- What is done under a lock, taking and giving it back apart. -/
theorem mem_locked_iff {exchange : Exchange} (h : exchange.action.isNameLock = false) :
    exchange ∈ ⟨.lockName name, ()⟩ :: course ++ [⟨.unlockName name, ()⟩] ↔ exchange ∈ course := by
  rw [List.mem_append, List.mem_cons, List.mem_singleton]
  constructor
  · rintro ((rfl | hmem) | rfl)
    · exact nomatch h
    · exact hmem
    · exact nomatch h
  · exact fun hmem => Or.inl (Or.inr hmem)

namespace Tasks

variable {calls : List Call} {past happenings : List Happening} {tasks : Tasks Call.Answer}
  {last : Tasks (Outcome DestroyOutcome)}

/-! ## After any calls -/

/-- When all calls have ended, nobody wants the lock on a name. -/
theorem Run.calls_idle (run : Run (c.serve store calls) past tasks)
    (hended : ∀ p ∈ tasks.programs, ∃ answer, p = .done answer) :
    tasks.shared.names.claims = [] := by
  refine run.locks_idle rfl (fun p hp => ?_) hended
  obtain ⟨call, -, rfl⟩ := List.mem_map.mp hp
  exact call.program_givesBack c

/-- When a removal that ran alone has ended, nobody wants the lock on a name. -/
theorem Run.removal_idle (removal : Run ⟨shared, [(c.destroy name).run]⟩ happenings last)
    (hfree : shared.names.claims = []) (hdone : last.programs = [.done outcome]) :
    last.shared.names.claims = [] := by
  refine removal.locks_idle hfree (fun p hp => ?_) fun p hp => ?_
  · rw [List.mem_singleton.mp hp]
    exact Controller.destroy_givesBack name
  · rw [hdone] at hp
    exact ⟨outcome, List.mem_singleton.mp hp⟩

/-- After any calls that started without placements and have ended, in whatever interleaving and
however hosts answered, the removal of a partition with a placement comes to an end. If some node
lists the partition, no command fails, and the node of the placement says that the partition is
down, the removal is complete, the placement is forgotten, and the name takes a spawn again. If all
nodes answer and none lists it, nothing happens, and the name stays barred. -/
theorem listed_placement_reclaimed (run : Run (c.serve store calls) past tasks)
    (hempty : store.placements = [])
    (hended : ∀ p ∈ tasks.programs, ∃ answer, p = .done answer)
    (hplacement : tasks.shared.store.placementAnswer name = .ok (some placement))
    (removal : Run ⟨tasks.shared, [(c.destroy name).run]⟩ happenings last) :
    (∃ rest final outcome, Run last rest final ∧ final.programs = [.done outcome]) ∧
    ∀ outcome, last.programs = [.done outcome] →
      let course := own 0 happenings
      (Listed name course → Unfailing course → ReportsDown placement.node name course →
        outcome = .ok .removed ∧ last.shared.store.placementAnswer name = .ok none ∧
        last.shared.store =
          { tasks.shared.store with
            placements := tasks.shared.store.placements.erase placement.workload } ∧
        Unbarred c name last.shared) ∧
      (Searched course → ¬Listed name course →
        outcome = .ok .notPresent ∧ last.shared.store = tasks.shared.store ∧
        (∀ host command reply, ⟨.run host command, reply⟩ ∈ course →
          command = Command.partitionSummary) ∧
        Barred c name placement last.shared) := by
  have hfree := run.calls_idle hended
  have hlonely := removal.alone (destroy_alone hfree)
  refine ⟨hlonely.ends, fun outcome hdone => ?_⟩
  have hfree' := removal.removal_idle hfree hdone
  obtain ⟨course, hown, hcourse⟩ := hlonely.goal_of_done hdone
  obtain ⟨hkept, hforgotten⟩ := hcourse.store_eq
  -- the lock is no part of what the conditions are about
  have hruns {host command : String} {reply : Outcome String} :
      (⟨.run host command, reply⟩ : Exchange) ∈ own 0 happenings ↔
        ⟨.run host command, reply⟩ ∈ course := by
    rw [hown]
    exact mem_locked_iff rfl
  have hlists {nodes : Outcome (List Node)} :
      (⟨.listNodes, nodes⟩ : Exchange) ∈ own 0 happenings ↔ ⟨.listNodes, nodes⟩ ∈ course := by
    rw [hown]
    exact mem_locked_iff rfl
  simp only [Listed, Unfailing, ReportsDown, Searched, hruns, hlists]
  constructor
  · intro hlisted hunfailing hdown
    have ho := hcourse.removed_of_listed hplacement hlisted hunfailing hdown
    obtain ⟨placed, hplaced, hstore⟩ := hforgotten ho
    obtain rfl := Option.some.inj (Except.ok.inj (hplacement.symm.trans hplaced))
    have hnone : last.shared.store.placementAnswer name = .ok none := by
      rw [hstore]
      exact placementAnswer_erase (run.placed hempty).partitions hplacement
    exact ⟨ho, hnone, hstore, unbarred_of_free hfree' hnone⟩
  · intro hsearched hnot
    have ho := hcourse.notPresent_iff.mpr ⟨hsearched, hnot⟩
    have hstore := hkept (by simp [ho])
    refine ⟨ho, hstore, fun host command reply hmem => ?_, ?_⟩
    · exact hcourse.summaries_of_notPresent ho (hruns.mp hmem)
    · exact barred_of_placed hfree' (hstore ▸ hplacement)

end Tasks

/-- After the spawn of `web` as the only call. It has failed at the start and left a placement. -/
def Sample.left : Tasks Call.Answer :=
  ((Sample.controller.serve Sample.store [.spawn (Sample.request "web" "shop")]).goOn
    Sample.hosts 0).2

/-- Every call of the run has come to its end. -/
theorem Sample.left_ended : ∀ p ∈ Sample.left.programs, ∃ answer, p = .done answer := by
  have hresults : ∀ p ∈ Sample.left.programs, p.result?.isSome = true := by decide +kernel
  intro p hp
  obtain ⟨answer, hanswer⟩ := Option.isSome_iff_exists.mp (hresults p hp)
  exact ⟨answer, Program.result?_eq_some_iff.mp hanswer⟩

namespace Tasks

/-- The node lists `web` as up, so its removal clears away what the spawn has left. -/
theorem listed_placement_reclaimed_sample :
    let alone : Tasks (Outcome DestroyOutcome) :=
      ⟨Sample.left.shared, [(Sample.controller.destroy "web").run]⟩
    let course := own 0 (alone.goOn Sample.hosts 0).1
    Listed "web" course ∧ Unfailing course ∧ ReportsDown "10.0.0.11" "web" course ∧
      (alone.goOn Sample.hosts 0).2.programs = [.done (.ok .removed)] ∧
      (alone.goOn Sample.hosts 0).2.shared.store.placementAnswer "web" = .ok none ∧
      Unbarred Sample.controller "web" (alone.goOn Sample.hosts 0).2.shared := by
  intro alone course
  have hdone : (alone.goOn Sample.hosts 0).2.programs = [.done (.ok .removed)] :=
    Program.eq_done_of_results (by decide +kernel)
  have hplacement : Sample.left.shared.store.placementAnswer "web" =
      .ok (some ⟨"shop", "web", "10.0.0.11", ⟨19782, 0, 0⟩⟩) := by decide +kernel
  obtain ⟨-, hends⟩ := listed_placement_reclaimed
    (goOn_run Sample.hosts 0 (Sample.controller.serve Sample.store _)) rfl Sample.left_ended
    hplacement (goOn_run Sample.hosts 0 alone)
  -- whatever was run was answered by the hosts of the small fleet
  have hreply {host command : String} {reply : Outcome String}
      (hmem : ⟨.run host command, reply⟩ ∈ course) : reply = .ok (Sample.output command) := by
    have hhosts := goOn_outside Sample.hosts 0 (mem_of_mem_own hmem) fun _ => rfl
    exact (Option.some.inj hhosts).symm
  have hlisted : Listed "web" course := by
    refine ⟨"10.0.0.11", Sample.output Command.partitionSummary, ?_, by decide +kernel⟩
    exact List.mem_of_getElem? (i := 2) rfl
  have hunfailing : Unfailing course := fun host command fault hmem => nomatch hreply hmem
  have hdown : ReportsDown "10.0.0.11" "web" course := by
    intro report hmem
    obtain rfl := Except.ok.inj (hreply hmem)
    exact ⟨_, rfl, rfl⟩
  obtain ⟨-, hnone, -, hunbarred⟩ := (hends _ hdone).1 hlisted hunfailing hdown
  exact ⟨hlisted, hunfailing, hdown, hdone, hnone, hunbarred⟩

end Tasks

/-- How the node of the small fleet answers when `web` is defined but never came up. -/
def Sample.downHosts : (action : Action) → Option action.Reply
  | .run _ command =>
    some (.ok (if command = Command.partitionDetail "web" then "Name: web\nRunState: DOWN\n"
      else "Num Name RunState State\n  1 web DOWN Inactive\n"))
  | .pause _ => some ()
  | _ => none

namespace Tasks

/-- Hosts that answer every command, and a node that says that the partition is down, are not enough
for a placement to be forgotten. -/
theorem not_every_placement_reclaimed :
    ¬∀ (c : Controller) (store : Store) (calls : List Call) (past : List Happening)
      (tasks : Tasks Call.Answer) (name : String) (placement : Placement)
      (hosts : (action : Action) → Option action.Reply) (outcome : Outcome DestroyOutcome),
      store.placements = [] → Run (c.serve store calls) past tasks →
      (∀ p ∈ tasks.programs, ∃ answer, p = .done answer) →
      tasks.shared.store.placementAnswer name = .ok (some placement) →
      (∀ host command, ∃ output, hosts (.run host command) = some (.ok output)) →
      (∃ report detail,
        hosts (.run placement.node (Command.partitionDetail name)) = some (.ok report) ∧
        Report.Detail.read report.toList = .ok detail ∧ detail.powerState.isDown = true) →
      (∀ span, hosts (.pause span) = some ()) →
      let removal : Tasks (Outcome DestroyOutcome) :=
        (goOn hosts 0 ⟨tasks.shared, [(c.destroy name).run]⟩).2
      removal.programs = [.done outcome] →
      outcome = .ok .removed ∧ removal.shared.store.placementAnswer name = .ok none := by
  intro hreclaimed
  let alone : Tasks (Outcome DestroyOutcome) :=
    ⟨Sample.left.shared, [(Sample.controller.destroy "web").run]⟩
  have hdone : (alone.goOn Sample.downHosts 0).2.programs = [.done (.ok .notPresent)] :=
    Program.eq_done_of_results (by decide +kernel)
  -- the spawn failed after its placement was recorded, so no node shows the partition as running
  obtain ⟨hremoved, -⟩ := hreclaimed Sample.controller Sample.store
    [.spawn (Sample.request "web" "shop")] _ Sample.left "web"
    ⟨"shop", "web", "10.0.0.11", ⟨19782, 0, 0⟩⟩ Sample.downHosts (.ok .notPresent) rfl
    (goOn_run Sample.hosts 0 _) Sample.left_ended (by decide +kernel)
    (fun _ _ => ⟨_, rfl⟩) ⟨_, _, rfl, rfl, rfl⟩ (fun _ => rfl) hdone
  exact nomatch hremoved

end Tasks

end VparFleet
