import VparFleet.Interleaving
import VparFleet.Proofs.Program.Rule

/-!
# Histories of tasks

In a run every task has done a part of its program, and what it did is what is left of the run when
the other tasks' happenings are taken out. So a rule that a program keeps holds of every happening
of its task, whatever the other tasks do in between.

* `Tasks.own`: what one task has done.
* `Run.invariant`: what every step keeps holds after every run.
* `Run.split`: a run passes through a state after each of its happenings.
* `Run.obeys`, `Run.keeps`: a task keeps the rule of its program.
* `Run.not_done`: a task that acts later has not ended.
-/

namespace VparFleet

/-- The action of a happening with its answer. -/
def Happening.exchange (happening : Happening) : Exchange :=
  ⟨happening.action, happening.reply⟩

/-- A happening is its task and its exchange. -/
theorem Happening.eq_of_exchange {x : Happening} {action : Action} {reply : action.Reply}
    (h : x.exchange = ⟨action, reply⟩) : x = ⟨x.task, action, reply⟩ := by
  obtain ⟨task, action', reply'⟩ := x
  injection h with haction hreply
  subst haction
  obtain rfl := eq_of_heq hreply
  rfl

namespace Tasks

/-- What a task has done, in order. -/
def own (task : Nat) (happenings : List Happening) : List Exchange :=
  (happenings.filter (·.task = task)).map (·.exchange)

@[simp] theorem own_nil (task : Nat) : own task [] = [] :=
  rfl

@[simp] theorem own_append (task : Nat) (first second : List Happening) :
    own task (first ++ second) = own task first ++ own task second := by
  simp [own]

theorem own_cons_self (x : Happening) (rest : List Happening) :
    own x.task (x :: rest) = x.exchange :: own x.task rest := by
  simp [own]

theorem own_cons_ne {task : Nat} {x : Happening} (h : x.task ≠ task) (rest : List Happening) :
    own task (x :: rest) = own task rest := by
  simp [own, h]

theorem mem_own {task : Nat} {happenings : List Happening} {x : Happening}
    (h : x ∈ happenings) (ht : x.task = task) : x.exchange ∈ own task happenings :=
  List.mem_map_of_mem (List.mem_filter.mpr ⟨h, by simpa using ht⟩)

/-- What a task has done was a happening of it. -/
theorem exists_of_mem_own {task : Nat} {happenings : List Happening} {exchange : Exchange}
    (h : exchange ∈ own task happenings) :
    ∃ x ∈ happenings, x.task = task ∧ x.exchange = exchange := by
  obtain ⟨x, hx, rfl⟩ := List.mem_map.mp h
  obtain ⟨hx, ht⟩ := List.mem_filter.mp hx
  exact ⟨x, hx, by simpa using ht, rfl⟩

/-- The same, for an action with its answer. -/
theorem mem_of_mem_own {task : Nat} {happenings : List Happening} {action : Action}
    {reply : action.Reply} (h : ⟨action, reply⟩ ∈ own task happenings) :
    ⟨task, action, reply⟩ ∈ happenings := by
  obtain ⟨x, hx, rfl, hexchange⟩ := exists_of_mem_own h
  rw [← Happening.eq_of_exchange hexchange]
  exact hx

/-- An exchange in what a task has done is a happening of it, and cuts the history in two. -/
theorem exists_split_of_own {task : Nat} {happenings : List Happening} {action : Action}
    {reply : action.Reply} {before after : List Exchange}
    (h : own task happenings = before ++ ⟨action, reply⟩ :: after) :
    ∃ first second, happenings = first ++ ⟨task, action, reply⟩ :: second ∧
      own task first = before ∧ own task second = after := by
  obtain ⟨kept, rest, hfilter, rfl, hrest⟩ := List.map_eq_append_iff.mp h
  obtain ⟨x, tail, rfl, hx, rfl⟩ := List.map_eq_cons_iff.mp hrest
  obtain ⟨first, later, rfl, rfl, hlater⟩ := List.filter_eq_append_iff.mp hfilter
  obtain ⟨skipped, second, rfl, hskipped, htask, rfl⟩ := List.filter_eq_cons_iff.mp hlater
  obtain rfl : x.task = task := by simpa using htask
  -- what is skipped are happenings of other tasks
  have hnone : skipped.filter (·.task = x.task) = [] :=
    List.filter_eq_nil_iff.mpr hskipped
  refine ⟨first ++ skipped, second, ?_, ?_, rfl⟩
  · rw [Happening.eq_of_exchange hx, List.append_assoc]
  · rw [own, List.filter_append, hnone, List.append_nil]
variable {α : Type} {start tasks next last : Tasks α}
  {past happenings first second rest : List Happening} {x : Happening} {task : Nat}

/-! ## Steps -/

/-- Who acts goes on with the answer; the other tasks stay where they are. -/
theorem Step.acted (h : Step tasks (some x) next) :
    ∃ k, tasks.programs[x.task]? = some (.act x.action k) ∧
      next.programs = tasks.programs.set x.task (k x.reply) := by
  cases h with
  | inside hp ha => exact ⟨_, hp, rfl⟩
  | outside hp ha => exact ⟨_, hp, rfl⟩

/-- Who waits stays where it is. -/
theorem Step.waited (h : Step tasks none next) : next.programs = tasks.programs := by
  cases h with
  | wait hp ha => rfl

/-! ## Runs -/

/-- What every step keeps, for all that has happened before it, holds after every run. -/
theorem Run.invariant (holds : List Happening → Tasks α → Prop)
    (run : Run start happenings last) (hstart : holds [] start)
    (hstep : ∀ past tasks happening next, Run start past tasks → holds past tasks →
      Step tasks happening next → holds (past ++ happening.toList) next) :
    holds happenings last := by
  -- the run is read from its start, so the past has to grow along it
  have go {tasks last : Tasks α} {rest : List Happening} (hr : Run tasks rest last) :
      ∀ past, Run start past tasks → holds past tasks → holds (past ++ rest) last := by
    induction hr with
    | stop tasks =>
      intro past _ h
      rw [List.append_nil]
      exact h
    | step hs _ ih =>
      intro past hr h
      have hr' := hr.append (.step hs (.stop _))
      rw [List.append_nil] at hr'
      rw [← List.append_assoc]
      exact ih _ hr' (hstep past _ _ _ hr h hs)
  exact go run [] (.stop _) hstart

/-- A run of two parts has come to some state in between. -/
theorem Run.split (run : Run start (first ++ second) last) :
    ∃ tasks, Run start first tasks ∧ Run tasks second last := by
  generalize hall : first ++ second = happenings at run
  induction run generalizing first with
  | stop tasks =>
    obtain ⟨rfl, rfl⟩ := List.append_eq_nil_iff.mp hall
    exact ⟨tasks, .stop _, .stop _⟩
  | @step tasks next last happening rest hs hr ih =>
    cases first with
    | nil =>
      rw [List.nil_append] at hall
      exact ⟨tasks, .stop _, hall ▸ .step hs hr⟩
    | cons x first =>
      cases happening with
      | none =>
        -- who waits leaves no happening, so the wait belongs to the first part
        obtain ⟨between, hf, hr⟩ := ih hall
        exact ⟨between, .step hs hf, hr⟩
      | some y =>
        obtain ⟨rfl, hrest⟩ := List.cons.inj hall
        obtain ⟨between, hf, hr⟩ := ih hrest
        exact ⟨between, .step hs hf, hr⟩

/-- A happening is the step of its task from the state that the run had come to, maybe after some
waiting. -/
theorem Run.split_at (run : Run start (first ++ x :: second) last) :
    ∃ tasks next, Run start first tasks ∧ Step tasks (some x) next ∧ Run next second last := by
  obtain ⟨tasks, hf, hr⟩ := run.split
  clear run
  generalize hall : x :: second = happenings at hr
  induction hr with
  | stop tasks => exact nomatch hall
  | @step tasks next last happening rest hs hr ih =>
    cases happening with
    | none =>
      -- a wait before the happening is a part of what comes before
      have hf' := hf.append (.step hs (.stop _))
      rw [Option.toList_none, List.append_nil, List.append_nil] at hf'
      exact ih hf' hall
    | some y =>
      obtain ⟨rfl, rfl⟩ := List.cons.inj hall
      exact ⟨tasks, next, hf, hs, hr⟩

/-- No step adds a program or takes one away. -/
theorem Run.programs_length (run : Run start happenings last) :
    last.programs.length = start.programs.length := by
  refine run.invariant (fun _ tasks => tasks.programs.length = start.programs.length) rfl ?_
  rintro past tasks happening next - hlen hs
  cases happening with
  | none => rw [hs.waited, hlen]
  | some x =>
    obtain ⟨k, -, hnext⟩ := hs.acted
    rw [hnext, List.length_set, hlen]

/-- Who has done something is one of the tasks. -/
theorem Run.lt_length_of_own (run : Run start happenings last) (h : own task happenings ≠ []) :
    task < start.programs.length := by
  obtain ⟨exchange, hmem⟩ := List.exists_mem_of_ne_nil _ h
  obtain ⟨x, hx, rfl, -⟩ := exists_of_mem_own hmem
  obtain ⟨first, second, rfl⟩ := List.append_of_mem hx
  obtain ⟨tasks, next, hf, hs, -⟩ := run.split_at
  obtain ⟨k, hk, -⟩ := hs.acted
  rw [← hf.programs_length]
  exact (List.getElem?_eq_some_iff.mp hk).1

/-! ## Rules -/

variable {p : Program α} {rule : List Exchange → Action → Prop} {goal : List Exchange → α → Prop}

/-- What is left of a program keeps its rule after what its task has done. -/
theorem Run.obeys (run : Run start happenings last) (hp : start.programs[task]? = some p)
    (ho : p.Obeys rule goal []) :
    ∃ q, last.programs[task]? = some q ∧ q.Obeys rule goal (own task happenings) := by
  refine run.invariant (fun past tasks =>
    ∃ q, tasks.programs[task]? = some q ∧ q.Obeys rule goal (own task past)) ⟨p, hp, ho⟩ ?_
  rintro past tasks happening next - ⟨q, hq, hobeys⟩ hs
  cases happening with
  | none =>
    rw [Option.toList_none, List.append_nil, hs.waited]
    exact ⟨q, hq, hobeys⟩
  | some x =>
    obtain ⟨k, hk, hnext⟩ := hs.acted
    rw [hnext, Option.toList_some, own_append]
    -- the task itself goes on along its program
    by_cases hx : x.task = task
    · subst hx
      rw [hk] at hq
      obtain rfl := Option.some.inj hq
      rw [own_cons_self, own_nil]
      refine ⟨k x.reply, ?_, hobeys.2 x.reply⟩
      rw [List.getElem?_set_self (List.getElem?_eq_some_iff.mp hk).1]
    · -- what other tasks do leaves this one where it is
      rw [own_cons_ne hx, own_nil, List.append_nil, List.getElem?_set_ne hx]
      exact ⟨q, hq, hobeys⟩

/-- Every happening of a task is allowed by the rule of its program. -/
theorem Run.keeps (run : Run start past tasks) (hs : Step tasks (some x) next)
    (hp : start.programs[x.task]? = some p) (ho : p.Obeys rule goal []) :
    rule (own x.task past) x.action := by
  obtain ⟨q, hq, hobeys⟩ := run.obeys hp ho
  obtain ⟨k, hk, -⟩ := hs.acted
  rw [hk] at hq
  obtain rfl := Option.some.inj hq
  exact hobeys.1

/-- The same, in the middle of a run. -/
theorem Run.keeps_at (run : Run start (first ++ x :: second) last)
    (hp : start.programs[x.task]? = some p) (ho : p.Obeys rule goal []) :
    rule (own x.task first) x.action := by
  obtain ⟨tasks, next, hf, hs, -⟩ := run.split_at
  exact hf.keeps hs hp ho

/-- A task that has ended does nothing more. -/
theorem Run.not_done (run : Run tasks happenings last) (hx : x ∈ happenings) (a : α) :
    tasks.programs[x.task]? ≠ some (.done a) := by
  intro hdone
  obtain ⟨before, after, rfl⟩ := List.append_of_mem hx
  -- a program that has ended keeps the rule that allows nothing
  have hkeeps : (Program.done a).Obeys (fun _ _ => False) (fun _ _ => True) [] := trivial
  exact run.keeps_at hdone hkeeps

end Tasks

end VparFleet
