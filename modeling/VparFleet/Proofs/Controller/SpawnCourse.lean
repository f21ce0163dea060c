import VparFleet.Controller
import VparFleet.Proofs.Provisioning.ProvisionCourse
import VparFleet.Proofs.Tasks.Placements

/-!
# The course of a spawn

All ways in which a spawn can go when nothing else is under way. A request that cannot be placed is
refused before anything is done on a host. Otherwise the partition is defined on the node that was
chosen, and the placement is recorded between the definition and the first start, whatever becomes
of that.

* `Controller.admission`: what the store says about a request.
* `SpawnCourse`: the ways between taking the lock and giving it back.
* `spawnHeld_alone`: every spawn takes one of them.
-/

namespace VparFleet

open Store

/-! ## Admission -/

/-- Refuses a name for which a placement was found. -/
def freeOutcome (request : SpawnRequest) : Outcome (Option Placement) → Outcome Unit
  | .ok none => .ok ()
  | .ok (some placed) =>
    .error (SpawnRequest.Flaw.alreadyPlaced request.name placed.node placed.workload).fault
  | .error fault => .error fault

/-- The choice among the nodes that were read. -/
def placeOutcome (request : SpawnRequest) : Outcome (List Node) → Outcome Node
  | .ok nodes =>
    match request.resources.choose nodes with
    | some node => .ok node
    | none => .error (Controller.noRoom request)
  | .error fault => .error fault

/-- The management address and the node of a partition, or why it cannot be placed. -/
def Controller.admission (c : Controller) (request : SpawnRequest) (store : Store) :
    Outcome (String × Node) := do
  let ip ← c.needManagementIp request
  freeOutcome request (store.placementAnswer request.name)
  let node ← placeOutcome request store.nodesAnswer
  return (ip, node)

/-- Whether nothing is done on a host. -/
def Quiet (course : List Exchange) : Prop :=
  ∀ exchange ∈ course, exchange.action.isRemote = false

/-! ## Courses -/

/-- What a spawn does when the partition is defined. -/
def recorded (placement : Placement) : List Exchange :=
  [⟨.clock, placement.createdAt⟩, ⟨.recordPlacement placement, .ok ()⟩]

/-- Ways of a spawn between taking the lock and giving it back, with the outcome and the store that
is left. -/
inductive SpawnCourse (c : Controller) (request : SpawnRequest) (store : Store) :
    List Exchange → Outcome Partition → Store → Prop where
  /-- The partition cannot be placed. -/
  | refused {reads : List Exchange} {fault : Fault} (hq : Quiet reads)
      (hadmission : c.admission request store = .error fault) :
    SpawnCourse c request store reads (.error fault) store
  /-- The partition was not defined. -/
  | undefined {reads define : List Exchange} {ip : String} {node : Node} {fault : Fault}
      (hq : Quiet reads) (hadmission : c.admission request store = .ok (ip, node))
      (hdefine : Passage (c.provisioner.definePoints node.address request) define (some fault)) :
    SpawnCourse c request store (reads ++ define) (.error fault) store
  /-- The partition was defined, and its placement is recorded. -/
  | placed {reads define boot : List Exchange} {ip mac : String} {node : Node} {now : Instant}
      {outcome : Outcome Partition} (hq : Quiet reads)
      (hadmission : c.admission request store = .ok (ip, node))
      (hdefine : Passage (c.provisioner.definePoints node.address request) define none)
      (hboot : c.provisioner.BootCourse node.address request ip mac
        (c.provisioner.bringUpPoints node.address request ip mac) boot outcome) :
    SpawnCourse c request store
      (reads ++ (define ++
        (recorded ⟨request.resources.workload, request.name, node.address, now⟩ ++ boot)))
      outcome
      { store with
        placements := store.placements.record
          (.ofPlacement ⟨request.resources.workload, request.name, node.address, now⟩) }

/-! ## Every spawn takes one of these courses -/

section Walk

open Operation Program

variable {c : Controller} {request : SpawnRequest} {past : List Exchange} {shared : Shared}

/-- What a definition does by itself. -/
theorem definePartition_alone (p : Provisioner) (host : String) :
    (p.definePartition host request).run.Alone 0 (fun past' shared' outcome => shared' = shared ∧
      ∃ define, past' = past ++ define ∧
        Passage (p.definePoints host request) define (Outcome.fault? outcome) ∧
        ∀ defined, outcome = .ok defined →
          defined = ⟨⟨request.name, .defined⟩, p.rawPath request⟩) past shared :=
  Leads.alone (p.definePartition_takes host request) (p.definePartition_uses host request)
    fun _ ha => shared.answer_remote ha 0

/-- What bringing a defined partition up does by itself. -/
theorem bringUp_alone (p : Provisioner) (host ip : String) :
    (p.bringUp host request ip ⟨⟨request.name, .defined⟩, p.rawPath request⟩).run.Alone 0
      (fun past' shared' outcome => shared' = shared ∧ ∃ boot, past' = past ++ boot ∧ ∃ mac,
        p.BootCourse host request ip mac (p.bringUpPoints host request ip mac) boot outcome)
      past shared :=
  (p.bringUp_leads host request ip).alone (p.bringUp_uses host request ip _)
    fun _ ha => shared.answer_remote ha 0

/-- A name with a placement is refused. -/
theorem refusePlaced_alone :
    (Controller.refusePlaced request.name).run.Alone 0 (fun past' shared' outcome =>
      shared' = shared ∧
      past' = past ++ [⟨.findPlacement request.name,
        shared.store.placementAnswer request.name⟩] ∧
      outcome = freeOutcome request (shared.store.placementAnswer request.name)) past shared := by
  refine (alone_inside (shared.answer_findPlacement 0 request.name)).mpr ?_
  rcases shared.store.placementAnswer request.name with fault | _ | placed <;>
    exact ⟨rfl, rfl, rfl⟩

/-- The node is chosen among those of the registry. -/
theorem place_alone :
    (Controller.place request).run.Alone 0 (fun past' shared' outcome => shared' = shared ∧
      past' = past ++ [⟨.listNodes, shared.store.nodesAnswer⟩] ∧
      outcome = placeOutcome request shared.store.nodesAnswer) past shared := by
  refine (alone_inside (shared.answer_listNodes 0)).mpr ?_
  cases shared.store.nodesAnswer with
  | error fault => exact ⟨rfl, rfl, rfl⟩
  | ok nodes =>
    -- the choice is made without asking anybody
    show ((match request.resources.choose nodes with
      | some node => pure node
      | none => throw (Controller.noRoom request) : Operation Node).run).Alone _ _ _ _
    cases hchoose : request.resources.choose nodes with
    | none => exact ⟨rfl, rfl, by simp only [placeOutcome, hchoose]⟩
    | some node => exact ⟨rfl, rfl, by simp only [placeOutcome, hchoose]⟩

/-- What a spawn does by itself while it has its name. -/
theorem spawnHeld_alone :
    (c.spawnHeld request).run.Alone 0 (fun past' shared' outcome => ∃ course,
      past' = past ++ course ∧ SpawnCourse c request shared.store course outcome shared'.store)
      past shared := by
  rw [Controller.spawnHeld, run_bind, run_ofOutcome, done_bind]
  cases hip : c.needManagementIp request with
  | error fault =>
    have hadmission : c.admission request shared.store = .error fault := by
      simp only [Controller.admission, hip]
      rfl
    exact ⟨[], (List.append_nil past).symm, .refused nofun hadmission⟩
  | ok ip =>
  -- nobody may have a placement under the name
  rw [after, run_bind, alone_bind]
  refine refusePlaced_alone.goal_mono ?_
  rintro past' shared' outcome ⟨rfl, rfl, rfl⟩
  cases hfree : freeOutcome request (shared'.store.placementAnswer request.name) with
  | error fault =>
    have hadmission : c.admission request shared'.store = .error fault := by
      simp only [Controller.admission, hip, hfree]
      rfl
    exact ⟨_, rfl, .refused (by simp [Quiet, Action.isRemote]) hadmission⟩
  | ok _ =>
  -- a node is chosen among those that were read
  rw [after, run_bind, alone_bind]
  refine place_alone.goal_mono ?_
  rintro past' shared' outcome ⟨rfl, rfl, rfl⟩
  rw [List.append_assoc]
  have hadmission : c.admission request shared'.store =
      (placeOutcome request shared'.store.nodesAnswer).map (ip, ·) := by
    simp only [Controller.admission, hip, hfree]
    rfl
  have hquiet : Quiet ([⟨.findPlacement request.name,
      shared'.store.placementAnswer request.name⟩] ++
      [⟨.listNodes, shared'.store.nodesAnswer⟩]) := by
    simp [Quiet, Action.isRemote]
  cases hplace : placeOutcome request shared'.store.nodesAnswer with
  | error fault =>
    rw [hplace] at hadmission
    exact ⟨_, rfl, .refused hquiet hadmission⟩
  | ok node =>
  rw [hplace] at hadmission
  -- up to here nothing was done on a host
  rw [after, run_bind, alone_bind]
  refine (definePartition_alone c.provisioner node.address).goal_mono ?_
  rintro past' shared' outcome ⟨rfl, define, rfl, hdefine, hdefined⟩
  rw [List.append_assoc]
  rcases outcome with fault | defined
  · exact ⟨_, rfl, .undefined hquiet hadmission hdefine⟩
  obtain rfl := hdefined defined rfl
  -- the record, and everything after it
  refine (alone_outside rfl).mpr fun now => ?_
  -- the nodes were read, so the store is open
  have hopen : shared'.store.isOpen = true := by
    cases hnodes : shared'.store.nodesAnswer with
    | error fault =>
      rw [hnodes] at hplace
      exact nomatch hplace
    | ok nodes => exact isOpen_of_nodesAnswer hnodes
  refine (alone_inside (shared'.answer_recordPlacement 0 _ hopen)).mpr ?_
  refine (bringUp_alone c.provisioner node.address ip).goal_mono ?_
  rintro past' shared' outcome ⟨rfl, boot, rfl, mac, hboot⟩
  refine ⟨_, ?_, .placed hquiet hadmission hdefine hboot⟩
  simp only [List.append_assoc]
  rfl

end Walk

end VparFleet
