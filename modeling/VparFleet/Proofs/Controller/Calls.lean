import VparFleet.Proofs.Controller.Removing
import VparFleet.Proofs.Controller.Spawning
import VparFleet.Proofs.Monitor.UpdateCourse

/-!
# Calls

What can be asked of a controller, as programs that run side by side. Calls that create or remove a
partition keep their own rules; all others leave locks and placements alone.

* `Call.program`, `Controller.serve`: calls as programs, and many of them side by side.
* `Call.program_obeys`: every call keeps its rule, whatever it is answered.
* `Call.program_givesBack`: every call gives back the lock that it took.
-/

namespace VparFleet

/-- What can be asked of a controller. -/
inductive Call where
  /-- Creates and boots a partition. -/
  | spawn (request : SpawnRequest)
  /-- Removes a partition. -/
  | destroy (name : String)
  /-- Asks for what the hosting node says about a partition. -/
  | inspect (name : String)
  /-- Asks for the running partitions. -/
  | list
  /-- Asks for their number. -/
  | count
  /-- Asks whether a partition runs. -/
  | exists? (name : String)
  /-- Asks for the statistics of the fleet. -/
  | stats (fresh : Bool)

namespace Call

/-- What a call ends with. -/
inductive Answer where
  /-- The end of a spawn. -/
  | spawned (outcome : Outcome Partition)
  /-- The end of a removal. -/
  | destroyed (outcome : Outcome DestroyOutcome)
  /-- What the hosting node says. -/
  | inspected (outcome : Outcome PartitionInfo)
  | listed (outcome : Outcome (List String))
  | counted (outcome : Outcome Nat)
  /-- Whether a partition runs. -/
  | found (outcome : Outcome Bool)
  /-- The statistics. -/
  | summed (outcome : Outcome FleetStats)

/-- The program of a call. -/
def program (c : Controller) : Call → Program Answer
  | spawn request => do return .spawned (← (c.spawn request).run)
  | destroy name => do return .destroyed (← (c.destroy name).run)
  | inspect name => do return .inspected (← (Controller.inspect name).run)
  | list => do return .listed (← Controller.list.run)
  | count => do return .counted (← Controller.count.run)
  | exists? name => do return .found (← (Controller.exists? name).run)
  | stats fresh => do return .summed (← (c.stats fresh).run)

/-- The partition that a call creates or removes. -/
def name? : Call → Option String
  | spawn request => some request.name
  | destroy name => some name
  | _ => none

end Call

/-- A controller that serves calls side by side, on a store. -/
def Controller.serve (c : Controller) (store : Store) (calls : List Call) : Tasks Call.Answer :=
  ⟨.ofStore store, calls.map (·.program c)⟩

/-! ## Rules -/

/-- Whether an action leaves locks and placements alone. -/
def Action.isReading : Action → Bool
  | .lockName _ => false
  | .unlockName _ => false
  | .recordPlacement _ => false
  | .removePlacement _ => false
  | _ => true

/-- What a call may do. -/
def Call.Rule (c : Controller) : Call → List Exchange → Action → Prop
  | .spawn request => c.SpawnRule request
  | .destroy name => c.DestroyRule name
  | _ => fun _ action => action.isReading = true

/-! ## Calls that only read -/

section Reading

open Program

theorem exec_reads (host command : String) :
    (Operation.exec host command).run.Uses (·.isReading) :=
  Uses.exec rfl

namespace Monitor

variable {m : Monitor}

theorem Surveys.isReading {action : Action} (h : m.Surveys action) : action.isReading = true := by
  cases h <;> rfl

/-- The refresh guard is no lock on a name. -/
theorem UpdateRule.isReading {past : List Exchange} {action : Action}
    (h : m.UpdateRule past action) : action.isReading = true := by
  cases h with
  | refreshes ho hc => exact (m.refresh_surveys.reaches hc).2.1.isReading
  | begins | waits | looksAgain | reads | keeps | counts | leaves => rfl

variable (m)

theorem update_reads : m.update.run.Uses (·.isReading) :=
  m.update_obeys.uses fun _ _ h => h.isReading

theorem stats_reads (fresh : Bool) : (m.stats fresh).run.Uses (·.isReading) := by
  have hupdate : (m.update >>= fun report => pure report.stats).run.Uses (·.isReading) :=
    m.update_reads.andThen fun _ => uses_done
  cases fresh with
  | true => exact hupdate
  | false =>
    refine Uses.andThen ⟨rfl, fun _ => uses_done⟩ fun known => ?_
    cases known with
    | none => exact hupdate
    | some report => exact uses_done

end Monitor

namespace Controller

theorem list_reads : list.run.Uses (·.isReading) := by
  refine list_uses.mono ?_
  rintro action (rfl | ⟨host, rfl⟩) <;> rfl

theorem inspect_reads (name : String) : (inspect name).run.Uses (·.isReading) := by
  refine Uses.andThen (Uses.andThen ⟨rfl, fun _ => uses_done⟩ fun placed => ?_) fun placement => ?_
  · cases placed <;> exact uses_done
  · refine Uses.andThen ?_ fun detail => ?_
    · exact (exec_reads _ _).andThen fun _ => uses_done
    · split <;> exact uses_done

end Controller

end Reading

namespace Call

open Program

/-- A call that only reads keeps its rule. -/
theorem reads_obeys {α : Type} {p : Program α} (h : p.Uses (·.isReading)) (past : List Exchange) :
    p.Obeys (fun _ action => action.isReading = true) (fun _ _ => True) past :=
  h.obeys (fun _ _ _ ha => ha) (fun _ _ _ _ _ => trivial) trivial

/-- Wrapping the result up does nothing more. -/
theorem andAnswer {α : Type} {p : Program α} {k : α → Answer}
    {rule : List Exchange → Action → Prop} {goal : List Exchange → α → Prop}
    (h : p.Obeys rule goal []) : (p >>= fun a => pure (k a)).Obeys rule (fun _ _ => True) [] :=
  obeys_bind.mpr (h.goal_mono fun _ _ _ => trivial)

/-- Every call keeps its rule. -/
theorem program_obeys (c : Controller) (call : Call) :
    (call.program c).Obeys (call.Rule c) (fun _ _ => True) [] := by
  cases call with
  | spawn request => exact andAnswer Controller.spawn_obeys
  | destroy name => exact andAnswer Controller.destroy_obeys
  | inspect name => exact andAnswer (reads_obeys (Controller.inspect_reads name) [])
  | list => exact andAnswer (reads_obeys Controller.list_reads [])
  | count =>
    exact andAnswer (reads_obeys (Controller.list_reads.andThen fun _ => uses_done) [])
  | exists? name =>
    exact andAnswer (reads_obeys (Controller.list_reads.andThen fun _ => uses_done) [])
  | stats fresh => exact andAnswer (reads_obeys (c.monitor.stats_reads fresh) [])

end Call

/-! ## Ends -/

section Ends

open Program

variable {c : Controller}

/-- A program that only reads takes no lock. -/
theorem reads_givesBack {α : Type} {p : Program α} (h : p.Uses (·.isReading)) : p.GivesBack := by
  refine h.obeys (fun _ _ _ _ => trivial) ?_ rfl
  intro past action reply hheld hreading
  rw [held_concat]
  cases action <;> first | exact hheld | exact nomatch hreading

theorem Program.GivesBack.map {α β : Type} {p : Program α} (h : p.GivesBack) (k : α → β) :
    (p >>= fun a => pure (k a)).GivesBack :=
  obeys_bind.mpr h

/-- Whatever becomes of a spawn, its name is free at the end. -/
theorem Controller.spawn_givesBack (request : SpawnRequest) : (c.spawn request).run.GivesBack := by
  rw [spawn, Operation.run_bind, Operation.run_ofOutcome, done_bind]
  cases request.validate with
  | error fault => exact rfl
  | ok _ => exact holding_givesBack _ _

theorem Controller.destroy_givesBack (name : String) : (c.destroy name).run.GivesBack :=
  holding_givesBack _ _

/-- Every call gives back the lock that it took. -/
theorem Call.program_givesBack (c : Controller) (call : Call) : (call.program c).GivesBack := by
  cases call with
  | spawn request => exact (Controller.spawn_givesBack request).map _
  | destroy name => exact (Controller.destroy_givesBack name).map _
  | inspect name => exact (reads_givesBack (Controller.inspect_reads name)).map _
  | list => exact (reads_givesBack Controller.list_reads).map _
  | count => exact (reads_givesBack (Controller.list_reads.andThen fun _ => uses_done)).map _
  | exists? name => exact (reads_givesBack (Controller.list_reads.andThen fun _ => uses_done)).map _
  | stats fresh => exact (reads_givesBack (c.monitor.stats_reads fresh)).map _

end Ends

end VparFleet
