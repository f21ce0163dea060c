import Mathlib.Data.List.Forall2
import VparFleet.Proofs.Program.Steps
import VparFleet.Proofs.Tasks.Alone

/-!
# Courses

The exchanges of a program from its start to its end are its course. What holds of every course is
shown from the end of the program backwards, so that each part is looked at on its own; and a run in
any company has done a part of a course.

Many programs are one list of checkpoints: actions that have to go well one after the other. Such a
program takes its checkpoints in order up to the first that fails, and then ends with the fault of
that one, under the names that it bears there.

* `Program.Leads`: every course of a program meets a goal, whatever the answers are.
* `Run.leads`: what a task has done in a run can be completed to a course.
* `Leads.alone`, `exists_end`: a program that only acts on hosts, alone and in company.
* `Checkpoint`, `Passage`: lists of checkpoints, and the ways through them.
* `Passage.eq_none_iff`, `Passage.isPrefix`: where a way through the checkpoints stops.
* `Operation.Takes`: an operation takes a list of checkpoints.
-/

namespace VparFleet

variable {α β : Type}

/-! ## What holds of every course -/

namespace Program

/-- Whatever the answers are, the exchanges up to the end and the result meet the goal. -/
def Leads (goal : List Exchange → α → Prop) : Program α → Prop
  | done a => goal [] a
  | act action next =>
    ∀ reply, (next reply).Leads fun course a => goal (⟨action, reply⟩ :: course) a

variable {goal goal' : List Exchange → α → Prop} {past : List Exchange}

@[simp] theorem leads_done {a : α} : (done a).Leads goal ↔ goal [] a :=
  Iff.rfl

/-- What a program leads to may be said less exactly. -/
theorem Leads.mono {p : Program α} (h : p.Leads goal)
    (hg : ∀ course a, goal course a → goal' course a) : p.Leads goal' := by
  induction p generalizing goal goal' with
  | done a => exact hg _ _ h
  | act action next ih => exact fun reply => ih reply (h reply) fun course a => hg _ a

/-- A program that goes on leads to its course followed by that of what comes next. -/
theorem leads_bind {p : Program β} {k : β → Program α} :
    (p >>= k).Leads goal ↔
      p.Leads fun first b => (k b).Leads fun second a => goal (first ++ second) a := by
  induction p generalizing goal with
  | done b => exact Iff.rfl
  | act action next ih => exact forall_congr' fun reply => ih reply

/-- Every program can come to an end. -/
theorem Leads.exists_course {p : Program α} (h : p.Leads goal) : ∃ course a, goal course a := by
  induction p generalizing goal with
  | done a => exact ⟨[], a, h⟩
  | act action next ih =>
    obtain ⟨reply⟩ := action.exists_reply
    obtain ⟨course, a, hg⟩ := ih reply (h reply)
    exact ⟨_, a, hg⟩

/-- What is allowed in every course is all that is done. -/
theorem Leads.uses {p : Program α} {allowed : Action → Prop} (h : p.Leads goal)
    (ha : ∀ course a, goal course a → ∀ exchange ∈ course, allowed exchange.action) :
    p.Uses allowed := by
  induction p generalizing goal with
  | done a => exact trivial
  | act action next ih =>
    refine ⟨?_, fun reply => ih reply (h reply) fun course a hg exchange hmem =>
      ha _ a hg exchange (List.mem_cons_of_mem _ hmem)⟩
    -- the action is the first one of a course that comes to an end
    obtain ⟨reply⟩ := action.exists_reply
    obtain ⟨course, a, hg⟩ := (h reply).exists_course
    exact ha _ a hg _ List.mem_cons_self

/-- A goal of all courses is met after any past. -/
theorem Leads.obeys {p : Program α} (h : p.Leads goal) (past : List Exchange) :
    p.Obeys (fun _ _ => True)
      (fun now a => ∃ course, now = past ++ course ∧ goal course a) past := by
  -- the course grows at its front, the past at its end, so both are generalized
  induction p generalizing goal past with
  | done a => exact ⟨[], (List.append_nil past).symm, h⟩
  | act action next ih =>
    refine ⟨trivial, fun reply => (ih reply (h reply) _).goal_mono ?_⟩
    rintro now a ⟨course, rfl, hg⟩
    exact ⟨_, List.append_assoc .., hg⟩

/-- A program can always come to its end. -/
theorem Obeys.completed {p : Program α} {rule : List Exchange → Action → Prop}
    (h : p.Obeys rule goal past) :
    ∃ rest a, goal (past ++ rest) a ∧ ∀ b, p = done b → rest = [] ∧ b = a := by
  induction p generalizing past with
  | done a =>
    refine ⟨[], a, ?_, fun b hb => ⟨rfl, (Program.done.inj hb).symm⟩⟩
    rw [List.append_nil]
    exact h
  | act action next ih =>
    -- any answer leads on to some end
    obtain ⟨reply⟩ := action.exists_reply
    obtain ⟨rest, a, hg, -⟩ := ih reply (h.2 reply)
    rw [List.append_assoc] at hg
    exact ⟨_, a, hg, nofun⟩

end Program

namespace Tasks

variable {start tasks : Tasks α} {happenings : List Happening} {i : Nat} {p : Program α}
  {goal : List Exchange → α → Prop}

/-- In any company a task does a part of a course of its program, and all of it until it ends. -/
theorem Run.leads (run : Run start happenings tasks) (hp : start.programs[i]? = some p)
    (h : p.Leads goal) :
    ∃ rest a, goal (own i happenings ++ rest) a ∧
      ∀ b, tasks.programs[i]? = some (.done b) → rest = [] ∧ b = a := by
  obtain ⟨q, hq, hobeys⟩ := run.obeys hp (h.obeys [])
  obtain ⟨rest, a, ⟨course, hcourse, hg⟩, hdone⟩ := hobeys.completed
  rw [List.nil_append] at hcourse
  subst hcourse
  refine ⟨rest, a, hg, fun b hb => hdone b ?_⟩
  exact Option.some.inj (hq.symm.trans hb)

/-- A task that only acts on hosts and the clock can always go on to its end. -/
theorem exists_end {q : Program α} {allowed : Action → Prop}
    (hq : tasks.programs[i]? = some q) (hu : q.Uses allowed)
    (ho : ∀ action, allowed action → ∀ shared : Shared, shared.answer i action = .outside) :
    ∃ rest last a, Run tasks rest last ∧ last.programs[i]? = some (.done a) := by
  induction q generalizing tasks with
  | done a => exact ⟨[], tasks, a, .stop _, hq⟩
  | act action next ih =>
    obtain ⟨reply⟩ := action.exists_reply
    -- a reply of any kind is a step, for nothing that is shared has a say in it
    let next' : Tasks α := { tasks with programs := tasks.programs.set i (next reply) }
    have hs : Step tasks (some ⟨i, action, reply⟩) next' :=
      .outside hq (ho action hu.1 tasks.shared)
    have hq' : next'.programs[i]? = some (next reply) :=
      List.getElem?_set_self (List.getElem?_eq_some_iff.mp hq).1
    obtain ⟨rest, last, a, hr, hlast⟩ := ih reply hq' (hu.2 reply)
    exact ⟨_, last, a, .step hs hr, hlast⟩

/-- What is left of a task that does only certain actions does no others. -/
theorem Run.uses {allowed : Action → Prop} (run : Run start happenings tasks)
    (hp : start.programs[i]? = some p) (hu : p.Uses allowed) :
    ∃ q, tasks.programs[i]? = some q ∧ q.Uses allowed := by
  -- what is left of the task stays a program of allowed actions, step by step
  refine run.invariant (fun _ tasks => ∃ q, tasks.programs[i]? = some q ∧ q.Uses allowed)
    ⟨p, hp, hu⟩ ?_
  rintro past tasks happening next - ⟨q, hq, hu⟩ hs
  cases happening with
  | none =>
    rw [hs.waited]
    exact ⟨q, hq, hu⟩
  | some x =>
    obtain ⟨k, hk, hnext⟩ := hs.acted
    rw [hnext]
    by_cases hx : x.task = i
    · -- the task itself has acted, and goes on with the answer
      subst hx
      obtain rfl := Option.some.inj (hk.symm.trans hq)
      have hi := (List.getElem?_eq_some_iff.mp hk).1
      exact ⟨k x.reply, List.getElem?_set_self hi, hu.2 x.reply⟩
    · -- what other tasks do leaves this one where it is
      rw [List.getElem?_set_ne hx]
      exact ⟨q, hq, hu⟩

end Tasks

namespace Program

/-- A program that only acts on hosts and the clock meets its goal alone, and changes nothing that
is shared. -/
theorem Leads.alone {p : Program α} {goal : List Exchange → α → Prop} {allowed : Action → Prop}
    {task : Nat} {past : List Exchange} {shared : Shared} (h : p.Leads goal) (hu : p.Uses allowed)
    (ho : ∀ action, allowed action → shared.answer task action = .outside) :
    p.Alone task (fun now shared' a => shared' = shared ∧
      ∃ course, now = past ++ course ∧ goal course a) past shared := by
  induction p generalizing goal past with
  | done a => exact ⟨rfl, [], (List.append_nil past).symm, h⟩
  | act action next ih =>
    refine (alone_outside (ho action hu.1)).mpr fun reply => ?_
    refine (ih reply (h reply) (hu.2 reply)).goal_mono ?_
    rintro now shared' a ⟨rfl, course, rfl, hg⟩
    exact ⟨rfl, _, List.append_assoc .., hg⟩

end Program

/-! ## Checkpoints -/

/-- The fault of an outcome. -/
def Outcome.fault? : Outcome α → Option Fault
  | .ok _ => none
  | .error fault => some fault

@[simp] theorem Outcome.fault?_ok (a : α) : Outcome.fault? (.ok a) = none :=
  rfl

@[simp] theorem Outcome.fault?_error (fault : Fault) :
    Outcome.fault? (.error fault : Outcome α) = some fault :=
  rfl

/-- An action that has to go well. -/
structure Checkpoint where
  action : Action
  /-- The steps that a fault is reported under, the innermost first. -/
  names : List String
  /-- What is wrong with an answer, if anything. -/
  flaw? : action.Reply → Option Fault
  /-- What an answer tells that nothing is wrong with. -/
  tells : action.Reply → Prop

namespace Checkpoint

/-- A checkpoint as a part of a step. -/
def within (step : String) (point : Checkpoint) : Checkpoint :=
  { point with names := point.names ++ [step] }

/-- A command whose output may be found wanting. -/
def command (host command : String) (wants : String → Option Fault) : Checkpoint where
  action := .run host command
  names := []
  flaw? reply :=
    match reply with
    | .ok output => wants output
    | .error fault => some fault
  tells _ := True

/-- Whether a checkpoint is a command. -/
def IsCommand (point : Checkpoint) : Prop :=
  ∃ host command, point.action = .run host command

/-- Whether an exchange is the action of a checkpoint, and went well. -/
def Passed (point : Checkpoint) (exchange : Exchange) : Prop :=
  ∃ reply, exchange = ⟨point.action, reply⟩ ∧ point.flaw? reply = none ∧ point.tells reply

/-- Whether one of the checkpoints fails after all before it are passed, and is the last that is
tried. The fault is that of its answer under its names. -/
def FirstFailure (points : List Checkpoint) (course : List Exchange) (fault : Fault) : Prop :=
  ∃ passed point left reached reply cause,
    points = passed ++ point :: left ∧ course = reached ++ [⟨point.action, reply⟩] ∧
    List.Forall₂ Passed passed reached ∧ point.flaw? reply = some cause ∧
    fault.kind = cause.kind ∧
    fault.detail = String.join (point.names.reverse.map (· ++ ": ")) ++ cause.detail

end Checkpoint

/-- Ways through checkpoints, in their order and up to the first that fails. -/
inductive Passage : List Checkpoint → List Exchange → Option Fault → Prop where
  /-- All checkpoints are passed. -/
  | nil : Passage [] [] none
  /-- A checkpoint fails, and nothing comes after it. -/
  | failed {point : Checkpoint} {points : List Checkpoint} {reply : point.action.Reply}
      {fault : Fault} (hf : point.flaw? reply = some fault) :
    Passage (point :: points) [⟨point.action, reply⟩] (some (fault.atSteps point.names))
  /-- A checkpoint is passed, and the next one follows. -/
  | passed {point : Checkpoint} {points : List Checkpoint} {reply : point.action.Reply}
      {course : List Exchange} {fault? : Option Fault} (hf : point.flaw? reply = none)
      (hs : point.tells reply) (rest : Passage points course fault?) :
    Passage (point :: points) (⟨point.action, reply⟩ :: course) fault?

namespace Passage

variable {points points' : List Checkpoint} {course course' : List Exchange}
  {fault? : Option Fault} {fault : Fault}

/-- More checkpoints follow when all are passed. -/
theorem append (h : Passage points course none) (h' : Passage points' course' fault?) :
    Passage (points ++ points') (course ++ course') fault? := by
  -- the induction is on a passage with any ending; one that fails is ruled out by its ending
  generalize hnone : (none : Option Fault) = ending at h
  induction h with
  | nil => exact h'
  | failed hf => exact nomatch hnone
  | passed hf hs rest ih => exact .passed hf hs (ih hnone)

/-- No more checkpoints follow when one has failed. -/
theorem append_failed (h : Passage points course (some fault)) (points' : List Checkpoint) :
    Passage (points ++ points') course (some fault) := by
  generalize hsome : some fault = ending at h ⊢
  induction h with
  | nil => exact nomatch hsome
  | failed hf => exact .failed hf
  | passed hf hs rest ih => exact .passed hf hs (ih hsome)

/-- As parts of a step, checkpoints fail under its name too. -/
theorem within (step : String) (h : Passage points course fault?) :
    Passage (points.map (·.within step)) course (fault?.map (·.atStep step)) := by
  induction h with
  | nil => exact .nil
  | @failed point points reply fault hf =>
    have hnames : (fault.atSteps point.names).atStep step
        = fault.atSteps (point.within step).names := by
      simp [Fault.atSteps, Checkpoint.within]
    rw [List.map_cons, Option.map_some, hnames]
    exact .failed hf
  | passed hf hs rest ih =>
    rw [List.map_cons]
    exact .passed hf hs ih

/-- The actions are those of the first checkpoints. -/
theorem isPrefix (h : Passage points course fault?) :
    course.map (·.action) <+: points.map (·.action) := by
  induction h with
  | nil => exact List.prefix_rfl
  | failed hf => exact List.cons_prefix_cons.mpr ⟨rfl, List.nil_prefix⟩
  | passed hf hs rest ih => exact List.cons_prefix_cons.mpr ⟨rfl, ih⟩

/-- A passage has done a part of what its checkpoints say, from the first on. -/
theorem filterMap_isPrefix (h : Passage points course fault?) (f : Action → Option α) :
    course.filterMap (f ·.action) <+: points.filterMap (f ·.action) := by
  have hprefix := h.isPrefix.filterMap f
  rw [List.filterMap_map, List.filterMap_map] at hprefix
  exact hprefix

/-- When all checkpoints are passed, the actions are all of theirs. -/
theorem map_action (h : Passage points course none) :
    course.map (·.action) = points.map (·.action) := by
  generalize hnone : (none : Option Fault) = ending at h
  induction h with
  | nil => rfl
  | failed hf => exact nomatch hnone
  | passed hf ht rest ih => exact congrArg _ (ih hnone)

/-- A passage without a fault has done all of it. -/
theorem filterMap_eq (h : Passage points course none) (f : Action → Option α) :
    course.filterMap (f ·.action) = points.filterMap (f ·.action) := by
  have heq := congrArg (List.filterMap f) h.map_action
  rw [List.filterMap_map, List.filterMap_map] at heq
  exact heq

/-- All that is done on a passage is the action of a checkpoint. -/
theorem exists_point (h : Passage points course fault?) {exchange : Exchange}
    (hmem : exchange ∈ course) : ∃ point ∈ points, exchange.action = point.action := by
  have hactions : exchange.action ∈ points.map (·.action) :=
    h.isPrefix.subset (List.mem_map_of_mem hmem)
  obtain ⟨point, hpoint, haction⟩ := List.mem_map.mp hactions
  exact ⟨point, hpoint, haction.symm⟩

/-- There is no fault exactly when every checkpoint is passed. -/
theorem eq_none_iff (h : Passage points course fault?) :
    fault? = none ↔ List.Forall₂ Checkpoint.Passed points course := by
  induction h with
  | nil => exact iff_of_true rfl .nil
  | @failed point points reply fault hf =>
    -- the answer that fails the checkpoint is the one that would have to pass it
    refine iff_of_false nofun fun hall => ?_
    obtain ⟨reply', heq, hpassed, -⟩ := (List.forall₂_cons.mp hall).1
    obtain rfl := eq_of_heq (Exchange.mk.inj heq).2
    exact nomatch hf.symm.trans hpassed
  | @passed point points reply course fault? hf hs rest ih =>
    rw [List.forall₂_cons, ih]
    exact (and_iff_right ⟨reply, rfl, hf, hs⟩).symm

/-- When all checkpoints are passed, every exchange passes one. -/
theorem exists_passed (h : Passage points course none) {exchange : Exchange}
    (hmem : exchange ∈ course) : ∃ point ∈ points, point.Passed exchange := by
  have hall := h.eq_none_iff.mp rfl
  clear h
  induction hall with
  | nil => exact nomatch hmem
  | @cons point first points course hfirst hrest ih =>
    rcases List.mem_cons.mp hmem with rfl | hmem
    · exact ⟨point, List.mem_cons_self, hfirst⟩
    · obtain ⟨other, hother, hpassed⟩ := ih hmem
      exact ⟨other, List.mem_cons_of_mem point hother, hpassed⟩

/-- When all checkpoints are passed, every one is passed by an exchange. -/
theorem exists_passing (h : Passage points course none) {point : Checkpoint}
    (hmem : point ∈ points) : ∃ exchange ∈ course, point.Passed exchange := by
  have hall := h.eq_none_iff.mp rfl
  clear h
  induction hall with
  | nil => exact nomatch hmem
  | @cons first exchange points course hfirst hrest ih =>
    rcases List.mem_cons.mp hmem with rfl | hmem
    · exact ⟨exchange, List.mem_cons_self, hfirst⟩
    · obtain ⟨other, hother, hpassed⟩ := ih hmem
      exact ⟨other, List.mem_cons_of_mem exchange hother, hpassed⟩

/-- A fault is that of the first checkpoint that fails. -/
theorem firstFailure (h : Passage points course fault?) (hfault : fault? = some fault) :
    Checkpoint.FirstFailure points course fault := by
  induction h with
  | nil => exact nomatch hfault
  | @failed point points reply cause hf =>
    obtain rfl := Option.some.inj hfault
    exact ⟨[], point, points, [], reply, cause, rfl, rfl, .nil, hf, Fault.atSteps_kind _ _,
      Fault.atSteps_detail _ _⟩
  | @passed point points reply course fault? hf ht rest ih =>
    -- what fails later is still the first failure with a checkpoint more that is passed before it
    obtain ⟨passed, failing, left, reached, answer, cause, rfl, rfl, hall, hrest⟩ := ih hfault
    refine ⟨point :: passed, failing, left, ⟨point.action, reply⟩ :: reached, answer, cause, rfl,
      rfl, ?_, hrest⟩
    exact List.forall₂_cons.mpr ⟨⟨reply, rfl, hf, ht⟩, hall⟩

end Passage

/-! ## Operations that take checkpoints -/

namespace Operation

variable {points points' : List Checkpoint} {post : α → Prop} {post' : β → Prop}

/-- Whatever the answers are, the checkpoints are taken, and if all are passed, something holds of
the result. -/
def Takes (points : List Checkpoint) (post : α → Prop) (op : Operation α) : Prop :=
  op.run.Leads fun course outcome =>
    Passage points course (Outcome.fault? outcome) ∧ ∀ a, outcome = .ok a → post a

/-- Nothing is done but what the checkpoints say. -/
theorem Takes.uses {op : Operation α} (h : op.Takes points post) :
    op.run.Uses fun action => ∃ point ∈ points, action = point.action :=
  Program.Leads.uses h fun _ _ hcourse _ hmem => hcourse.1.exists_point hmem

/-- What follows a step is only done with results that the step can have. -/
theorem uses_andThen {op : Operation α} {k : α → Operation β} {allowed : Action → Prop}
    (h : op.run.Uses allowed)
    (hp : op.run.Leads fun _ outcome => ∀ a, outcome = .ok a → post a)
    (hk : ∀ a, post a → (k a).run.Uses allowed) : (op >>= k).run.Uses allowed := by
  rw [run_bind]
  -- the two facts go down the program together, so the induction is on the bare program
  have go (p : Program (Outcome α)) (h : p.Uses allowed)
      (hp : p.Leads fun _ outcome => ∀ a, outcome = .ok a → post a) :
      (p >>= after k).Uses allowed := by
    induction p with
    | done outcome =>
      cases outcome with
      | error fault => exact trivial
      -- only an end without a fault is followed by the next step, and there the result is known
      | ok a => exact hk a (hp a rfl)
    | act action next ih => exact ⟨h.1, fun reply => ih reply (h.2 reply) (hp reply)⟩
  exact go op.run h hp

/-- An operation that does nothing passes no checkpoints. -/
theorem takes_ok {a : α} {op : Operation α} (h : op.run = .done (.ok a)) (hp : post a) :
    op.Takes [] post := by
  rw [Takes, h]
  refine ⟨.nil, fun b hb => ?_⟩
  obtain rfl := Except.ok.inj hb
  exact hp

/-- An operation that fails ends where it failed; one that succeeds goes on. -/
theorem leads_andThen {op : Operation α} {k : α → Operation β}
    {mid : List Exchange → Outcome α → Prop} {goal : List Exchange → Outcome β → Prop}
    (h : op.run.Leads mid)
    (hk : ∀ course a, mid course (.ok a) →
      (k a).run.Leads fun course' => goal (course ++ course'))
    (he : ∀ course fault, mid course (.error fault) → goal course (.error fault)) :
    (op >>= k).run.Leads goal := by
  rw [run_bind, Program.leads_bind]
  refine h.mono fun course outcome hm => ?_
  cases outcome with
  | error fault =>
    -- nothing follows a fault, so the whole course is that of the first step
    have hgoal := he course fault hm
    rw [← List.append_nil course] at hgoal
    exact hgoal
  | ok a => exact hk course a hm

/-- Checkpoints in a row are passed one after the other. -/
theorem Takes.bind {op : Operation α} {k : α → Operation β} (h : op.Takes points post)
    (hk : ∀ a, post a → (k a).Takes points' post') :
    (op >>= k).Takes (points ++ points') post' := by
  refine leads_andThen h ?_ ?_
  · rintro course a ⟨hpassage, hpost⟩
    refine (hk a (hpost a rfl)).mono fun course' outcome h' => ?_
    exact ⟨hpassage.append h'.1, h'.2⟩
  · rintro course fault ⟨hpassage, -⟩
    exact ⟨hpassage.append_failed points', nofun⟩

/-- A step puts its name on all checkpoints inside. -/
theorem Takes.atStep {op : Operation α} (step : String) (h : op.Takes points post) :
    (op.atStep step).Takes (points.map (·.within step)) post := by
  rw [Takes, run_atStep, Program.leads_bind]
  refine h.mono fun course outcome hp => ?_
  obtain ⟨hpassage, hpost⟩ := hp
  rw [Program.leads_done, List.append_nil]
  -- the result is the same, and only a fault is renamed
  cases outcome with
  | error fault => exact ⟨hpassage.within step, nofun⟩
  | ok a => exact ⟨hpassage.within step, fun b hb => hpost b hb⟩

/-- A command whose output is looked at by a check. -/
theorem takes_command {host command : String} {k : String → Operation α}
    {wants : String → Option Fault}
    (hk : ∀ output, match wants output with
      | some fault => (k output).run = .done (.error fault)
      | none => ∃ a, (k output).run = .done (.ok a) ∧ post a) :
    (exec host command >>= k).Takes [.command host command wants] post := by
  intro reply
  rcases reply with fault | output
  · exact ⟨.failed rfl, nofun⟩
  have hk := hk output
  show ((k output).run).Leads _
  -- the check of the output decides how the operation goes on
  cases hwants : wants output with
  | some fault =>
    rw [hwants] at hk
    rw [hk]
    exact ⟨.failed hwants, nofun⟩
  | none =>
    rw [hwants] at hk
    obtain ⟨a, ha, hpost⟩ := hk
    rw [ha]
    refine ⟨.passed hwants trivial .nil, fun b hb => ?_⟩
    obtain rfl := Except.ok.inj hb
    exact hpost

/-- Operations one after the other, each with a checkpoint. -/
theorem takes_forM {k : α → Operation PUnit} {point : α → Checkpoint}
    (hk : ∀ a, (k a).Takes [point a] fun _ => True) (list : List α) :
    (list.forM k).Takes (list.map point) fun _ => True := by
  induction list with
  | nil => exact ⟨.nil, fun _ _ => trivial⟩
  | cons a list ih => exact (hk a).bind fun _ _ => ih

end Operation

end VparFleet
