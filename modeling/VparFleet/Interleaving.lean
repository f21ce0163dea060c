import VparFleet.Shared

/-!
# Interleavings

Tasks that run side by side may act in any order, and hosts may answer anything. A step is one
action of one task.

* `Tasks.Step`: what can happen next.
* `Tasks.Run`: what can happen, with the actions in the order in which they were answered.
* `Tasks.Run.append`: one run after another is a run.
-/

namespace VparFleet

/-- Tasks and what they share. -/
structure Tasks (α : Type) where
  /-- What they share. -/
  shared : Shared
  /-- What is left of their programs. -/
  programs : List (Program α)

/-- An action of a task, with its answer. -/
structure Happening where
  task : Nat
  action : Action
  reply : action.Reply

namespace Tasks

/-- One step: the next action of a task is answered, by what the tasks share or by the hosts in any
way, or it makes the task wait. -/
inductive Step {α : Type} : Tasks α → Option Happening → Tasks α → Prop where
  /-- An action on what the tasks share. -/
  | inside {tasks : Tasks α} {i : Nat} {action : Action} {next : action.Reply → Program α}
      {reply : action.Reply} {shared : Shared}
      (hp : tasks.programs[i]? = some (.act action next))
      (ha : tasks.shared.answer i action = .reply reply shared) :
      Step tasks (some ⟨i, action, reply⟩) ⟨shared, tasks.programs.set i (next reply)⟩
  /-- An action on a host or the clock. -/
  | outside {tasks : Tasks α} {i : Nat} {action : Action} {next : action.Reply → Program α}
      {reply : action.Reply}
      (hp : tasks.programs[i]? = some (.act action next))
      (ha : tasks.shared.answer i action = .outside) :
      Step tasks (some ⟨i, action, reply⟩)
        { tasks with programs := tasks.programs.set i (next reply) }
  /-- A task starts or goes on to wait. -/
  | wait {tasks : Tasks α} {i : Nat} {action : Action} {next : action.Reply → Program α}
      {shared : Shared}
      (hp : tasks.programs[i]? = some (.act action next))
      (ha : tasks.shared.answer i action = .wait shared) :
      Step tasks none { tasks with shared }

/-- Any number of steps. -/
inductive Run {α : Type} : Tasks α → List Happening → Tasks α → Prop where
  /-- No step. -/
  | stop (tasks : Tasks α) : Run tasks [] tasks
  /-- A step and what follows it. -/
  | step {tasks next last : Tasks α} {happening : Option Happening} {rest : List Happening}
      (hs : Step tasks happening next) (hr : Run next rest last) :
      Run tasks (happening.toList ++ rest) last

/-- A run may be taken up where another one stopped. -/
theorem Run.append {α : Type} {tasks between last : Tasks α} {first second : List Happening}
    (hf : Run tasks first between) (hs : Run between second last) :
    Run tasks (first ++ second) last := by
  induction hf with
  | stop => exact hs
  | step hstep _ ih =>
    rw [List.append_assoc]
    exact .step hstep (ih hs)

end Tasks

end VparFleet
