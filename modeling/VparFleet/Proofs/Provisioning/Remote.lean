import VparFleet.Proofs.Program.Steps
import VparFleet.Provisioning.Provisioner
import VparFleet.Shared

/-!
# Remote work

Defining a partition and bringing it up is work on its node and on the provisioning server alone:
commands and one console conversation. It neither looks at the tables nor touches a lock.

* `Action.isRemote`: whether an action is one on a host.
* `networkBoot_uses`, `register_uses`: neither conversations nor registrations do anything else.
* `bringUp_uses`, `provision_uses`: nor does bringing a partition up, or all of a provisioning.
-/

namespace VparFleet

/-- The host and the command line of a command. -/
def Action.command? : Action → Option (String × String)
  | .run host command => some (host, command)
  | _ => none

/-- Whether an action is one on a host. -/
def Action.isRemote : Action → Bool
  | .run _ _ => true
  | .openConsole _ => true
  | .send _ _ => true
  | .waitForPrompt _ _ _ => true
  | .closeConsole _ => true
  | _ => false

/-- Nothing that tasks share has a part in it. -/
theorem Shared.answer_remote {action : Action} (h : action.isRemote = true) (shared : Shared)
    (task : Nat) : shared.answer task action = .outside := by
  cases action with
  | run | openConsole | send | waitForPrompt | closeConsole => rfl
  | _ => exact nomatch h

variable {α β : Type} {allowed : Action → Prop}

/-! ## Dialogues -/

/-- Whatever the stage is and whatever the answers are, every action is an allowed one. -/
def Dialogue.Uses (allowed : Action → Prop) (dialogue : Dialogue α) : Prop :=
  ∀ stage, (StateT.run (ExceptT.run dialogue) stage).Uses allowed

namespace Dialogue

theorem uses_ask {p : Program (Outcome α)} (h : p.Uses allowed) :
    Uses allowed (FirmwareConsole.ask p) :=
  fun _ => h.bind fun _ => Program.uses_done

theorem uses_pure (a : α) : Uses allowed (pure a : Dialogue α) :=
  fun _ => Program.uses_done

theorem uses_throw (fault : Fault) : Uses allowed (throw fault : Dialogue α) :=
  fun _ => Program.uses_done

theorem uses_get : Uses allowed (get : Dialogue ConsoleStage) :=
  fun _ => Program.uses_done

theorem uses_set (stage : ConsoleStage) : Uses allowed (set stage : Dialogue PUnit) :=
  fun _ => Program.uses_done

/-- What follows a dialogue adds what it does itself, in whatever stage it starts. -/
theorem Uses.andThen {dialogue : Dialogue α} {k : α → Dialogue β} (h : Uses allowed dialogue)
    (hk : ∀ a, Uses allowed (k a)) : Uses allowed (dialogue >>= k) := by
  intro stage
  rw [ExceptT.run_bind, StateT.run_bind]
  refine (h stage).bind fun result => ?_
  obtain ⟨outcome, stage⟩ := result
  cases outcome with
  | error fault => exact Program.uses_done
  | ok a => exact hk a stage

end Dialogue

/-! ## The firmware console -/

namespace FirmwareConsole

open Dialogue

variable (c : FirmwareConsole) (plan : BootPlan)

theorem require_uses (expected : ConsoleStage) : Uses (·.isRemote) (require expected) := by
  refine uses_get.andThen fun current => ?_
  split
  · exact uses_pure ()
  · exact uses_throw _

theorem sendShellLine_uses (line : String) : Uses (·.isRemote) (c.sendShellLine line) :=
  uses_ask (Program.uses_perform.mpr rfl)

theorem sendConsoleLine_uses (line : String) : Uses (·.isRemote) (c.sendConsoleLine line) :=
  uses_ask (Program.uses_perform.mpr rfl)

theorem sendKeys_uses (keys : List UInt8) : Uses (·.isRemote) (c.sendKeys keys) :=
  uses_ask (Program.uses_perform.mpr rfl)

theorem waitForPrompt_uses (limit : Span) : Uses (·.isRemote) (c.waitForPrompt limit) :=
  uses_ask (Program.uses_perform.mpr rfl)

theorem login_uses : Uses (·.isRemote) c.login :=
  (require_uses _).andThen fun _ => (c.waitForPrompt_uses _).andThen fun _ => uses_set _

theorem attach_uses : Uses (·.isRemote) (c.attach plan) :=
  (require_uses _).andThen fun _ =>
    (c.sendShellLine_uses _).andThen fun _ =>
    (c.waitForPrompt_uses _).andThen fun _ =>
    (c.sendConsoleLine_uses _).andThen fun _ =>
    (c.waitForPrompt_uses _).andThen fun _ =>
    (uses_set _).andThen fun _ => uses_pure _

/-- Asking for write access is talk on the console, whether it is asked for or not. -/
theorem ensureWritable_uses (banner : List Char) :
    Uses (·.isRemote) (c.ensureWritable banner) := by
  refine (require_uses _).andThen fun _ => ?_
  split
  · exact (c.sendKeys_uses _).andThen fun _ =>
      (c.sendConsoleLine_uses _).andThen fun _ =>
      (c.waitForPrompt_uses _).andThen fun _ => uses_set _
  · exact uses_set _

theorem configure_uses : Uses (·.isRemote) (c.configure plan) :=
  (require_uses _).andThen fun _ =>
    (c.sendConsoleLine_uses _).andThen fun _ =>
    (c.waitForPrompt_uses _).andThen fun _ =>
    (c.sendConsoleLine_uses _).andThen fun _ =>
    (c.waitForPrompt_uses _).andThen fun _ => uses_set _

theorem bootFromNetwork_uses : Uses (·.isRemote) (c.bootFromNetwork plan) :=
  (require_uses _).andThen fun _ =>
    (c.sendConsoleLine_uses _).andThen fun _ =>
    (c.waitForPrompt_uses _).andThen fun _ => uses_set _

/-- The whole conversation is talk on the console. -/
theorem drive_uses : Uses (·.isRemote) (c.drive plan) :=
  c.login_uses.andThen fun _ =>
    (c.attach_uses plan).andThen fun banner =>
    (c.ensureWritable_uses banner).andThen fun _ =>
    (c.configure_uses plan).andThen fun _ =>
    (c.bootFromNetwork_uses plan).andThen fun _ => uses_get

end FirmwareConsole

/-- A network boot does nothing but open, talk and close. -/
theorem networkBoot_uses (host : String) (plan : BootPlan) (prompt : Pattern) (step boot : Span) :
    (networkBoot host plan prompt step boot).run.Uses (·.isRemote) := by
  refine Program.Uses.andThen ⟨rfl, fun _ => Program.uses_done⟩ fun console => ?_
  -- lifted programs cannot fail, so the conversation and its end are walked through as programs
  refine Program.Uses.andThen (Program.Uses.bind ?_ fun _ => Program.uses_done) fun result => ?_
  · exact FirmwareConsole.drive_uses _ plan _
  · refine Program.Uses.andThen (Program.Uses.bind ?_ fun _ => Program.uses_done) fun _ => ?_
    · exact Program.uses_perform.mpr rfl
    · exact Program.uses_done

theorem exec_uses (host command : String) :
    (Operation.exec host command).run.Uses (·.isRemote) :=
  Program.Uses.exec rfl

theorem Registration.register_uses (registration : Registration) (server : ServerSettings) :
    (registration.register server).run.Uses (·.isRemote) :=
  Program.Uses.forM (fun _ => (exec_uses _ _).atStep.andThen fun _ => Program.uses_done) _

/-! ## Bringing a partition up -/

namespace Provisioner

variable (p : Provisioner) (host name : String)

theorem startAcknowledged_uses : (startAcknowledged host name).run.Uses (·.isRemote) := by
  refine Program.Uses.andThen ?_ fun started => ?_
  · exact (exec_uses _ _).andThen fun _ => Program.uses_done
  · cases started <;> exact Program.uses_done

theorem needManagementMac_uses : (p.needManagementMac host name).run.Uses (·.isRemote) := by
  refine Program.Uses.andThen ?_ fun mac => ?_
  · exact (exec_uses _ _).andThen fun _ => Program.uses_done
  · cases mac <;> exact Program.uses_done

theorem reach_uses (life : Lifecycle) (stage : Stage) :
    (reach life stage).run.Uses (·.isRemote) :=
  Program.uses_done

/-- Defining a partition is two commands on its node. -/
theorem definePartition_uses (request : SpawnRequest) :
    (p.definePartition host request).run.Uses (·.isRemote) := by
  refine Program.Uses.andThen (Program.Uses.atStep ?_) fun raw => ?_
  · refine (exec_uses _ _).andThen fun output => ?_
    dsimp only
    split <;> exact Program.uses_done
  · refine Program.Uses.andThen Program.uses_done fun life => ?_
    refine Program.Uses.andThen (Program.Uses.atStep ?_) fun _ => ?_
    · exact (exec_uses _ _).andThen fun _ => Program.uses_done
    · exact Program.Uses.andThen Program.uses_done fun _ => Program.uses_done

/-- Bringing a partition up is commands, and one console conversation. -/
theorem bringUp_uses (request : SpawnRequest) (ip : String) (defined : Defined) :
    (p.bringUp host request ip defined).run.Uses (·.isRemote) :=
  (startAcknowledged_uses host request.name).atStep.andThen fun _ =>
    (reach_uses _ _).andThen fun _ =>
    (p.needManagementMac_uses host request.name).atStep.andThen fun _ =>
    (Registration.register_uses _ _).atStep.andThen fun _ =>
    (reach_uses _ _).andThen fun _ =>
    (networkBoot_uses _ _ _ _ _).atStep.andThen fun _ =>
    (reach_uses _ _).andThen fun _ => Program.uses_done

theorem provision_uses (request : SpawnRequest) (ip : String) :
    (p.provision host request ip).run.Uses (·.isRemote) :=
  (p.definePartition_uses host request).andThen fun defined =>
    p.bringUp_uses host request ip defined

end Provisioner

end VparFleet
