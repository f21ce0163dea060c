import VparFleet.Proofs.Tasks.History

/-!
# Tasks that run alone

A task that runs alone meets no state but what it has made itself. So what it does can be walked
through together with what is shared, and what holds at the end of the walk holds at the end of
every run; a task that never waits comes to an end.

* `Program.Alone`: a program never waits, and meets a goal with whatever hosts and clock answer.
* `alone_bind`, `alone_inside`, `alone_outside`: how to walk through a program.
* `Run.alone`: what was walked through holds of every run.
* `answers`: what hosts have answered; `Lonely.ends_with`: whatever they answer, there is an end.
* `goOn`: what a task does alone with hosts that answer in one way; `goOn_run`: a run of all tasks.
-/

namespace VparFleet

/-- An action may be answered so, with what is shared afterwards. -/
def Shared.Answers (shared : Shared) (task : Nat) (action : Action) (reply : action.Reply)
    (after : Shared) : Prop :=
  shared.answer task action = .reply reply after ∨
    shared.answer task action = .outside ∧ after = shared

namespace Program

variable {α β : Type} {task : Nat} {past : List Exchange} {shared shared' : Shared}

/-- Whatever hosts and the clock answer, a program that runs alone never waits, and the goal is met
at the end. -/
def Alone (task : Nat) (goal : List Exchange → Shared → α → Prop) :
    Program α → List Exchange → Shared → Prop
  | done a, past, shared => goal past shared a
  | act action next, past, shared =>
    (∀ waiting, shared.answer task action ≠ .wait waiting) ∧
      ∀ reply after, shared.Answers task action reply after →
        (next reply).Alone task goal (past ++ [⟨action, reply⟩]) after

variable {goal goal' : List Exchange → Shared → α → Prop}

/-- A program in two parts is walked through in two parts. -/
theorem alone_bind {p : Program β} {k : β → Program α} :
    (p >>= k).Alone task goal past shared ↔
      p.Alone task (fun past shared b => (k b).Alone task goal past shared) past shared := by
  induction p generalizing past shared with
  | done b => exact Iff.rfl
  | act action next ih =>
    refine and_congr_right fun _ => forall_congr' fun reply => ?_
    exact forall_congr' fun after => imp_congr_right fun _ => ih reply

/-- A goal may be said less exactly. -/
theorem Alone.goal_mono {p : Program α} (h : p.Alone task goal past shared)
    (hg : ∀ past shared a, goal past shared a → goal' past shared a) :
    p.Alone task goal' past shared := by
  induction p generalizing past shared with
  | done a => exact hg _ _ _ h
  | act action next ih => exact ⟨h.1, fun reply after ha => ih reply (h.2 reply after ha)⟩

/-- An action on what is shared has one answer. -/
theorem alone_inside {action : Action} {next : action.Reply → Program α} {reply : action.Reply}
    (ha : shared.answer task action = .reply reply shared') :
    (act action next).Alone task goal past shared ↔
      (next reply).Alone task goal (past ++ [⟨action, reply⟩]) shared' := by
  constructor
  · rintro ⟨-, h⟩
    exact h reply shared' (Or.inl ha)
  · intro h
    refine ⟨fun waiting hw => (nomatch ha.symm.trans hw), ?_⟩
    rintro other after (ho | ⟨ho, -⟩)
    · -- there is only one answer
      injection ha.symm.trans ho with hr hs
      rw [← hr, ← hs]
      exact h
    · exact nomatch ha.symm.trans ho

/-- An action on a host or the clock has any answer and changes nothing that is shared. -/
theorem alone_outside {action : Action} {next : action.Reply → Program α}
    (ha : shared.answer task action = .outside) :
    (act action next).Alone task goal past shared ↔
      ∀ reply, (next reply).Alone task goal (past ++ [⟨action, reply⟩]) shared := by
  constructor
  · rintro ⟨-, h⟩ reply
    exact h reply shared (Or.inr ⟨ha, rfl⟩)
  · intro h
    refine ⟨fun waiting hw => (nomatch ha.symm.trans hw), ?_⟩
    rintro reply after (ho | ⟨-, rfl⟩)
    · exact nomatch ha.symm.trans ho
    · exact h reply

end Program

/-! ## Answers of hosts -/

/-- What a host has answered to a command, if an exchange is one. -/
def Exchange.answer? : Exchange → Option (Outcome String)
  | ⟨.run _ _, answer⟩ => some answer
  | _ => none

/-- What hosts have answered to commands, in order. -/
def answers (past : List Exchange) : List (Outcome String) :=
  past.filterMap Exchange.answer?

theorem answers_append (first second : List Exchange) :
    answers (first ++ second) = answers first ++ answers second :=
  List.filterMap_append

/-- What is answered by what is shared is no answer of a host. -/
theorem Exchange.answer?_inside {task : Nat} {action : Action} {reply : action.Reply}
    {shared after : Shared} (ha : shared.answer task action = .reply reply after) :
    answer? ⟨action, reply⟩ = none := by
  cases action with
  | run host command => exact nomatch ha
  | _ => rfl

/-- Two lists agree as far as both go. -/
def Compatible {α : Type} (as bs : List α) : Prop :=
  as <+: bs ∨ bs <+: as

theorem compatible_cons {α : Type} {a b : α} {as bs : List α} :
    Compatible (a :: as) (b :: bs) ↔ a = b ∧ Compatible as bs := by
  rw [Compatible, Compatible, List.cons_prefix_cons, List.cons_prefix_cons, eq_comm (a := b),
    ← and_or_left]

/-- An action may be answered with the next text of a script, or with anything if there is none or
it is no command. -/
theorem Action.exists_reply_along (action : Action) (script : List (Outcome String)) :
    ∃ (reply : action.Reply) (script' : List (Outcome String)), ∀ later,
      Compatible (answers later) script' →
        Compatible (answers (⟨action, reply⟩ :: later)) script := by
  obtain ⟨any⟩ := action.exists_reply
  -- only commands take an answer from the script
  cases action with
  | run host command =>
    cases script with
    | nil => exact ⟨any, [], fun _ _ => Or.inr List.nil_prefix⟩
    | cons answer script =>
      exact ⟨answer, script, fun _ hlater => compatible_cons.mpr ⟨rfl, hlater⟩⟩
  | _ => exact ⟨any, script, fun _ hlater => hlater⟩

namespace Tasks

variable {α : Type} {p : Program α} {goal : List Exchange → Shared → α → Prop}
  {past happenings : List Happening} {shared : Shared} {tasks next : Tasks α}
  {happening : Option Happening}

/-- A task that runs alone, has come as far as this, and will meet its goal. -/
def Lonely (goal : List Exchange → Shared → α → Prop) (past : List Happening) (tasks : Tasks α) :
    Prop :=
  ∃ p, tasks.programs = [p] ∧ p.Alone 0 goal (own 0 past) tasks.shared

/-- A step of the only task goes on with the walk. -/
theorem Lonely.step (h : Lonely goal past tasks) (hs : Step tasks happening next) :
    Lonely goal (past ++ happening.toList) next := by
  obtain ⟨p, hp, hlonely⟩ := h
  -- there is only one task, so it is the one that acts
  have hone {i : Nat} {q : Program α} (hq : tasks.programs[i]? = some q) : i = 0 ∧ q = p := by
    rw [hp] at hq
    obtain ⟨hi, rfl⟩ := List.getElem?_eq_some_iff.mp hq
    obtain rfl : i = 0 := by simpa using hi
    exact ⟨rfl, rfl⟩
  -- the task was answered inside or outside; it never waits
  cases hs with
  | @inside i action k reply shared hq ha =>
    obtain ⟨rfl, rfl⟩ := hone hq
    refine ⟨k reply, by rw [hp]; rfl, ?_⟩
    rw [Option.toList_some, own_append]
    exact hlonely.2 reply shared (Or.inl ha)
  | @outside i action k reply hq ha =>
    obtain ⟨rfl, rfl⟩ := hone hq
    refine ⟨k reply, by rw [hp]; rfl, ?_⟩
    rw [Option.toList_some, own_append]
    exact hlonely.2 reply tasks.shared (Or.inr ⟨ha, rfl⟩)
  | @wait i action k shared hq ha =>
    obtain ⟨rfl, rfl⟩ := hone hq
    exact absurd ha (hlonely.1 shared)

/-- What was walked through holds of every run. -/
theorem Run.alone (run : Run ⟨shared, [p]⟩ happenings tasks) (h : p.Alone 0 goal [] shared) :
    Lonely goal happenings tasks :=
  run.invariant (Lonely goal) ⟨p, rfl, h⟩ fun _ _ _ _ _ hold hs => hold.step hs

/-- At the end the goal is met. -/
theorem Lonely.goal_of_done {a : α} (h : Lonely goal past tasks)
    (hdone : tasks.programs = [.done a]) : goal (own 0 past) tasks.shared a := by
  obtain ⟨p, hp, hlonely⟩ := h
  obtain rfl := List.singleton_inj.mp (hp.symm.trans hdone)
  exact hlonely

/-- A task that never waits comes to an end, whatever hosts answer to its commands. -/
theorem Lonely.ends_with (h : Lonely goal past tasks) (script : List (Outcome String)) :
    ∃ rest last a, Run tasks rest last ∧ last.programs = [.done a] ∧
      Compatible (answers (own 0 rest)) script := by
  obtain ⟨p, hp, hlonely⟩ := h
  -- the induction is on what is left of the program, so the past is any
  generalize own 0 past = done at hlonely
  induction p generalizing tasks done script with
  | done a => exact ⟨[], tasks, a, .stop _, hp, Or.inl List.nil_prefix⟩
  | act action k ih =>
    have hp' : tasks.programs[0]? = some (.act action k) := by rw [hp]; rfl
    -- one step, and what follows it
    have go {reply : action.Reply} {next : Tasks α} (script' : List (Outcome String))
        (hs : Step tasks (some ⟨0, action, reply⟩) next) (hnext : next.programs = [k reply])
        (ha : tasks.shared.Answers 0 action reply next.shared)
        (hscript : ∀ later, Compatible (answers later) script' →
          Compatible (answers (⟨action, reply⟩ :: later)) script) :
        ∃ rest last a, Run tasks rest last ∧ last.programs = [.done a] ∧
          Compatible (answers (own 0 rest)) script := by
      obtain ⟨rest, last, a, hr, hlast, hrest⟩ := ih reply script' hnext _ (hlonely.2 reply _ ha)
      exact ⟨_, last, a, .step hs hr, hlast, hscript _ hrest⟩
    have hone {shared : Shared} {reply : action.Reply} :
        (⟨shared, tasks.programs.set 0 (k reply)⟩ : Tasks α).programs = [k reply] := by
      rw [hp]
      rfl
    -- what is shared answers, or hosts do as the script says
    cases ha : tasks.shared.answer 0 action with
    | reply reply shared =>
      refine go script (.inside hp' ha) hone (Or.inl ha) fun later hlater => ?_
      rw [answers, List.filterMap_cons_none (Exchange.answer?_inside ha)]
      exact hlater
    | wait shared => exact absurd ha (hlonely.1 shared)
    | outside =>
      obtain ⟨reply, script', hscript⟩ := action.exists_reply_along script
      exact go script' (.outside hp' ha) hone (Or.inr ⟨ha, rfl⟩) hscript

/-- A task that never waits comes to an end. -/
theorem Lonely.ends (h : Lonely goal past tasks) :
    ∃ rest last a, Run tasks rest last ∧ last.programs = [.done a] := by
  obtain ⟨rest, last, a, hr, hlast, -⟩ := h.ends_with []
  exact ⟨rest, last, a, hr, hlast⟩

/-! ## Going on alone -/

end Tasks

/-- What a task does while no other one acts and the hosts and the clock answer as they do, up to an
action that they do not answer: what happens, what is shared then, and what is left of the
program. -/
def Program.goOn {α : Type} (hosts : (action : Action) → Option action.Reply) (task : Nat) :
    Program α → Shared → List Happening × Shared × Program α
  | done a, shared => ([], shared, done a)
  | act action next, shared =>
    match shared.answer task action, hosts action with
    | .reply reply shared, _ =>
      let (rest, last) := (next reply).goOn hosts task shared
      (⟨task, action, reply⟩ :: rest, last)
    | .outside, some reply =>
      let (rest, last) := (next reply).goOn hosts task shared
      (⟨task, action, reply⟩ :: rest, last)
    | _, _ => ([], shared, act action next)

/-- What a program that has come to its end ends with. -/
def Program.result? {α : Type} : Program α → Option α
  | done a => some a
  | act _ _ => none

theorem Program.result?_eq_some_iff {α : Type} {p : Program α} {a : α} :
    p.result? = some a ↔ p = .done a := by
  cases p <;> simp [result?]

/-- When all results are known, all programs have come to their ends. -/
theorem Program.eq_map_done_of_results {α : Type} {programs : List (Program α)} (results : List α)
    (h : programs.map Program.result? = results.map some) : programs = results.map .done := by
  induction results generalizing programs with
  | nil => exact List.map_eq_nil_iff.mp h
  | cons a results ih =>
    obtain ⟨p, rest, rfl, hp, hrest⟩ := List.map_eq_cons_iff.mp h
    rw [ih hrest, Program.result?_eq_some_iff.mp hp, List.map_cons]

theorem Program.eq_done_of_results {α : Type} {programs : List (Program α)} {a : α}
    (h : programs.map Program.result? = [some a]) : programs = [.done a] :=
  Program.eq_map_done_of_results [a] h

namespace Tasks

variable (hosts : (action : Action) → Option action.Reply) (i : Nat)

/-- One task goes on alone: what happens, and all tasks then. -/
def goOn (tasks : Tasks α) : List Happening × Tasks α :=
  match tasks.programs[i]? with
  | none => ([], tasks)
  | some p =>
    let (happenings, shared, p) := p.goOn hosts i tasks.shared
    (happenings, ⟨shared, tasks.programs.set i p⟩)

/-- What a task does alone is done by it. -/
theorem goOn_task (tasks : Tasks α) : ∀ x ∈ (tasks.goOn hosts i).1, x.task = i := by
  have go (p : Program α) (shared : Shared) : ∀ x ∈ (p.goOn hosts i shared).1, x.task = i := by
    induction p generalizing shared with
    | done a => exact fun x hx => nomatch hx
    | act action next ih =>
      unfold Program.goOn
      split
      · exact List.forall_mem_cons.mpr ⟨rfl, ih _ _⟩
      · exact List.forall_mem_cons.mpr ⟨rfl, ih _ _⟩
      · exact fun x hx => nomatch hx
  unfold goOn
  split
  · exact fun x hx => nomatch hx
  · exact go _ _

/-- What is up to hosts and clock is answered as they do. -/
theorem goOn_outside {tasks : Tasks α} {x : Happening} (hx : x ∈ (tasks.goOn hosts i).1)
    (ho : ∀ shared : Shared, shared.answer i x.action = .outside) :
    hosts x.action = some x.reply := by
  have go (p : Program α) (shared : Shared) (hx : x ∈ (p.goOn hosts i shared).1) :
      hosts x.action = some x.reply := by
    induction p generalizing shared with
    | done a => exact nomatch hx
    | act action next ih =>
      unfold Program.goOn at hx
      split at hx
      · next reply shared' ha =>
        rcases List.mem_cons.mp hx with rfl | hx
        · -- what is shared never answers such an action
          exact nomatch ha.symm.trans (ho shared)
        · exact ih _ _ hx
      · next reply ha hreply =>
        rcases List.mem_cons.mp hx with rfl | hx
        · exact hreply
        · exact ih _ _ hx
      · exact nomatch hx
  unfold goOn at hx
  split at hx
  · exact nomatch hx
  · exact go _ _ hx

/-- What a task does alone is a run of all tasks. -/
theorem goOn_run (tasks : Tasks α) : Run tasks (tasks.goOn hosts i).1 (tasks.goOn hosts i).2 := by
  -- a task that does nothing stays where it is
  have stay {p : Program α} {shared : Shared} {programs : List (Program α)}
      (hp : programs[i]? = some p) : Run ⟨shared, programs⟩ [] ⟨shared, programs.set i p⟩ := by
    obtain ⟨hi, rfl⟩ := List.getElem?_eq_some_iff.mp hp
    rw [List.set_getElem_self]
    exact .stop _
  have go (p : Program α) (shared : Shared) (programs : List (Program α))
      (hp : programs[i]? = some p) :
      Run ⟨shared, programs⟩ (p.goOn hosts i shared).1
        ⟨(p.goOn hosts i shared).2.1, programs.set i (p.goOn hosts i shared).2.2⟩ := by
    induction p generalizing shared programs with
    | done a => exact stay hp
    | act action next ih =>
      have hi := (List.getElem?_eq_some_iff.mp hp).1
      have hrest (reply : action.Reply) (shared' : Shared) :=
        ih reply shared' (programs.set i (next reply)) (List.getElem?_set_self hi)
      simp only [List.set_set] at hrest
      unfold Program.goOn
      split
      · next reply shared' ha => exact .step (.inside hp ha) (hrest reply shared')
      · next _ _ reply ha _ =>
        have hs : Step ⟨shared, programs⟩ (some ⟨i, action, reply⟩)
            ⟨shared, programs.set i (next reply)⟩ := .outside hp ha
        exact .step hs (hrest reply shared)
      · exact stay hp
  -- a task that is not there does nothing
  unfold goOn
  split
  · exact .stop _
  · next p hp => exact go p tasks.shared tasks.programs hp

end Tasks

end VparFleet
