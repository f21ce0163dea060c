import VparFleet.Proofs.Controller.Calls
import VparFleet.Proofs.Tasks.Alone
import VparFleet.Proofs.Tasks.Placements

/-!
# Calls side by side

In every interleaving a call keeps its rule, so a call that has begun and not ended holds the lock
on its name, and no two such calls are for one name.

* `Run.rule`: what a call does next is allowed by its rule.
* `Run.holds_name`: a call in progress holds its name.
* `Run.same_call`: two calls in progress on one name are one call.
* `Sample`: a small fleet, and how its hosts answer.
-/

namespace VparFleet

section Serving

variable {c : Controller} {store : Store} {calls : List Call} {call : Call} {name : String}
  {past : List Exchange} {action : Action}

/-! ## What the rules have in common -/

namespace Call

/-- A lock is taken first. -/
theorem Rule.lockName (h : call.Rule c past (.lockName name)) :
    past = [] ∧ call.name? = some name := by
  cases call with
  | spawn request => exact ⟨h.1, congrArg some h.2.1.symm⟩
  | destroy other => exact ⟨h.1, congrArg some h.2.symm⟩
  | _ => exact nomatch h

/-- Everything else is done with the name held. -/
theorem Rule.held (h : call.Rule c past action) (hname : call.name? = some name)
    (hlock : ∀ other, action ≠ .lockName other) : held past = some name := by
  -- only spawns and removals have a name, and all that they do after taking it is done while it is
  -- held
  cases call with
  | spawn request =>
    obtain rfl := Option.some.inj hname
    cases action with
    | lockName other => exact absurd rfl (hlock other)
    | recordPlacement placement =>
      obtain ⟨nodes, node, output, report, now, -, -, -, rfl⟩ := h
      rfl
    | removePlacement workload => exact h.elim
    | _ => exact h.1
  | destroy other =>
    obtain rfl := Option.some.inj hname
    cases action with
    | lockName other => exact absurd rfl (hlock other)
    | recordPlacement placement => exact h.elim
    | _ => exact h.1
  | _ => exact nomatch hname

/-- Only a spawn records a placement. -/
theorem Rule.recording {placement : Placement} (h : call.Rule c past (.recordPlacement placement)) :
    ∃ request, call = .spawn request ∧ c.Recording request past placement := by
  cases call with
  | spawn request => exact ⟨request, rfl, h⟩
  | destroy other => exact h.elim
  | _ => exact nomatch h

/-- Only a removal removes a placement. -/
theorem Rule.removing {workload : String} (h : call.Rule c past (.removePlacement workload)) :
    ∃ name, call = .destroy name ∧ c.DestroyRule name past (.removePlacement workload) := by
  cases call with
  | spawn request => exact h.elim
  | destroy name => exact ⟨name, rfl, h⟩
  | _ => exact nomatch h

end Call

/-! ## Calls in a run -/

namespace Tasks

variable {happenings : List Happening} {tasks next : Tasks Call.Answer} {x : Happening} {i j : Nat}

theorem serve_programs (i : Nat) :
    (c.serve store calls).programs[i]? = calls[i]?.map (·.program c) :=
  List.getElem?_map

/-- What is left of a call keeps its rule. -/
theorem Run.left_obeys (run : Run (c.serve store calls) happenings tasks)
    (hc : calls[i]? = some call) :
    ∃ q, tasks.programs[i]? = some q ∧
      q.Obeys (call.Rule c) (fun _ _ => True) (own i happenings) := by
  refine run.obeys ?_ (call.program_obeys c)
  rw [serve_programs, hc]
  rfl

/-- Whoever acts is a call, and keeps its rule. -/
theorem Run.rule (run : Run (c.serve store calls) happenings tasks)
    (hs : Step tasks (some x) next) :
    ∃ call, calls[x.task]? = some call ∧ call.Rule c (own x.task happenings) x.action := by
  obtain ⟨k, hk, -⟩ := hs.acted
  have hlen : tasks.programs.length = calls.length := run.programs_length.trans (List.length_map _)
  have hi : x.task < calls.length := by
    rw [← hlen]
    exact (List.getElem?_eq_some_iff.mp hk).1
  obtain ⟨q, hq, hobeys⟩ := run.left_obeys (List.getElem?_eq_getElem hi)
  refine ⟨calls[x.task], List.getElem?_eq_getElem hi, ?_⟩
  rw [hk] at hq
  obtain rfl := Option.some.inj hq
  exact hobeys.1

/-- Whatever happens in a run is allowed to the call that does it. -/
theorem Run.rule_at {first second : List Happening}
    (run : Run (c.serve store calls) (first ++ x :: second) tasks) :
    ∃ call, calls[x.task]? = some call ∧ call.Rule c (own x.task first) x.action := by
  obtain ⟨before, after, hf, hs, -⟩ := run.split_at
  exact hf.rule hs

/-- A call that has begun and not ended holds its name. -/
theorem Run.holds_name (run : Run (c.serve store calls) happenings tasks)
    (hc : calls[i]? = some call) (hname : call.name? = some name) (hbegun : own i happenings ≠ [])
    (hend : ∀ a, tasks.programs[i]? ≠ some (.done a)) : held (own i happenings) = some name := by
  obtain ⟨q, hq, hobeys⟩ := run.left_obeys hc
  cases q with
  | done a => exact absurd hq (hend a)
  | act action k =>
    -- what it does next is no lock, because that would be its first action
    exact hobeys.1.held hname fun other ho => hbegun (ho ▸ hobeys.1).lockName.1

/-- Two calls that hold one name are one call. -/
theorem Run.same_call (run : Run (c.serve store calls) happenings tasks)
    (hi : held (own i happenings) = some name) (hj : held (own j happenings) = some name) :
    i = j :=
  run.held_unique rfl hi hj

end Tasks

end Serving

/-! ## A small fleet -/

namespace Sample

/-- The controller of the fleet. -/
def controller : Controller where
  monitor := ⟨"10.0.0.1", "/dev/vg00"⟩
  provisioner := {
    node := ⟨"/dev/vg00", "mgmt", "prod", "management", 30⟩
    server := ⟨"10.0.0.1", "boot.efi", "/etc/bootptab", "/var/clients", "us", "x", "disk0", "hpux"⟩
    prompt := .empty
    step := .ofSeconds 10
    boot := .ofSeconds 60 }
  networkLabel := "management"

/-- One node, and no placement. -/
def store : Store where
  nodes := [⟨"10.0.0.11", none, "rx2800", 8, 0, 65536, 0, 500, 0⟩]
  placements := []
  isOpen := true

/-- A request for a partition with a workload. -/
def request (name workload : String) : SpawnRequest where
  name := name
  resources := ⟨workload, 4096, 2, 20⟩
  image := "HP-UX B.11.31"
  fixedIps := [⟨"management", "10.0.1.5"⟩]
  gateway := "10.0.1.1"
  netmask := "255.255.255.0"

/-- What the node answers to a command: it runs a partition `web`, which is found down when asked
for, and has made the volume of the workload `shop`. A start is not acknowledged. -/
def output (command : String) : String :=
  if command = "/opt/hpvm/bin/vparstatus" then "Num Name RunState State\n  1 web UP Active\n"
  else if command = "/opt/hpvm/bin/vparstatus -p web -v" then "Name: web\nRunState: DOWN\n"
  else "created with character device /dev/vg00/rlv-shop"

/-- How hosts and clock answer. There are no consoles. -/
def hosts : (action : Action) → Option action.Reply
  | .run _ command => some (.ok (output command))
  | .pause _ => some ()
  | .clock => some ⟨19782, 0, 0⟩
  | _ => none

/-- A spawn and a removal of `web`, and a spawn of `db` for the same workload. -/
def calls : List Call :=
  [.spawn (request "web" "shop"), .destroy "web", .spawn (request "db" "shop")]

/-- Before any of the calls. -/
def start : Tasks Call.Answer :=
  controller.serve store calls

/-- After the spawn of `web`, which fails at the start but leaves a placement. -/
def placed : Tasks Call.Answer :=
  (start.goOn hosts 0).2

theorem placed_run : Tasks.Run start (start.goOn hosts 0).1 placed :=
  Tasks.goOn_run hosts 0 start

/-- The spawn and the removal of `web`, one after the other. -/
def history : List Happening :=
  (start.goOn hosts 0).1 ++ (placed.goOn hosts 1).1

/-- After both. -/
def removed : Tasks Call.Answer :=
  (placed.goOn hosts 1).2

theorem removed_run : Tasks.Run start history removed :=
  placed_run.append (Tasks.goOn_run hosts 1 placed)

/-! ## Its inventory -/

/-- The clients of the provisioning server: the node, a partition, and one of another kind. -/
def inventory : String :=
  "<iux:client name=\"n1\"><iux:attr name=\"model\">Superdome2 nPar</iux:attr>
    <iux:attr name=\"ipaddress\">10.0.0.11</iux:attr><iux:attr name=\"cpus\">8</iux:attr>
    <iux:attr name=\"memory\">67108864</iux:attr></iux:client>
  <iux:client name=\"web\"><iux:attr name=\"model\">Virtual Partition</iux:attr></iux:client>
  <iux:client name=\"backup\"><iux:attr name=\"model\">rx2800</iux:attr></iux:client>"

/-- What is answered to the commands of a refresh. -/
def surveyOutput (command : String) : String :=
  if command = "/opt/ignite/bin/ignite client list -m xml -l details" then inventory
  else if command = "/opt/hpvm/bin/vparstatus -A" then
    "[Available CPUs]: 5\n[Available Memory]: 40960 Mbytes\n"
  else if command = "vgdisplay /dev/vg00" then
    "PE Size (Mbytes) 64\nTotal PE 8000\nAlloc PE 2000\n"
  else ""

/-- How hosts and clock answer to a refresh. -/
def surveyed : (action : Action) → Option action.Reply
  | .run _ command => some (.ok (surveyOutput command))
  | .clock => some ⟨19782, 0, 0⟩
  | _ => none

/-- The node as it is observed then. -/
def observed : Node :=
  ⟨"10.0.0.11", none, "Superdome2 nPar", 8, 3, 65536, 24576, 500, 125⟩

/-- The report of such a refresh. Its node differs from the one in the store. -/
def report : RefreshReport where
  stats := .ofNodes [observed] ⟨19782, 0, 0⟩
  nodes := [observed]
  writes := 1
  partitionsSeen := 1

end Sample

end VparFleet
