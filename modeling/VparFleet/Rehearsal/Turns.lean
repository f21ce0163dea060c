import VparFleet.Rehearsal.Scene

/-!
# Turns

Programs that run side by side take turns: one action a turn, in the order in which they became
able to act. The clock moves on when nobody can act at the present moment.

* `Steps`, `steps_wf`: a list of programs of which one is replaced by what follows its next action
  gets smaller, so programs can take turns only so often.
* `runTurns`: lets programs take turns until none can go on.
* `runAll`, `runAlone`: runs programs from the start.
-/

namespace VparFleet

namespace Program

/-- Whether a program is what follows the first action of another. -/
def Follows {α : Type} (q p : Program α) : Prop :=
  ∃ action next reply, p = act action next ∧ q = next reply

/-- A program cannot go on for ever: every action leads to one of its own continuations. -/
theorem follows_wf {α : Type} : WellFounded (@Follows α) := by
  refine ⟨fun p => ?_⟩
  induction p with
  | done a =>
    refine ⟨_, fun q h => ?_⟩
    obtain ⟨_, _, _, h, -⟩ := h
    cases h
  | act action next ih =>
    refine ⟨_, fun q h => ?_⟩
    obtain ⟨_, _, reply, h, rfl⟩ := h
    cases h
    exact ih reply

end Program

namespace Rehearsal

/-- One program of a list goes on by one action. -/
inductive Steps {α : Type} : List (Program α) → List (Program α) → Prop where
  /-- The first one. -/
  | head {q p : Program α} {ps : List (Program α)} (h : q.Follows p) : Steps (q :: ps) (p :: ps)
  /-- A later one. -/
  | tail {p : Program α} {qs ps : List (Program α)} (h : Steps qs ps) : Steps (p :: qs) (p :: ps)

/-- Neither can a list of programs, of which one goes on at a time. -/
theorem steps_wf {α : Type} : WellFounded (@Steps α) := by
  refine ⟨fun ps => ?_⟩
  induction ps with
  | nil => exact ⟨_, fun _ h => nomatch h⟩
  | cons p ps ih =>
    induction Program.follows_wf.apply p generalizing ps with
    | intro p _ ihp =>
      induction ih with
      | intro ps hps ihps =>
        refine ⟨_, fun qs h => ?_⟩
        cases h with
        | head h => exact ihp _ h _ ⟨_, hps⟩
        | tail h => exact ihps _ h

/-- Going on with one program is a step of all. -/
theorem steps_set {α : Type} {ps : List (Program α)} {i : Nat} {action : Action}
    {next : action.Reply → Program α} (h : ps[i]? = some (.act action next))
    (reply : action.Reply) : Steps (ps.set i (next reply)) ps := by
  induction ps generalizing i with
  | nil => simp at h
  | cons p ps ih =>
    cases i with
    | zero =>
      simp only [List.getElem?_cons_zero, Option.some.injEq] at h
      exact .head ⟨action, next, reply, h, rfl⟩
    | succ i => exact .tail (ih (by simpa using h))

/-- A task that can act, and from when on. -/
structure Turn where
  /-- The moment. -/
  wake : Nat
  task : Nat
  deriving DecidableEq, Repr

/-- The turn that comes first, and the others: the earliest one, of several the one that has been in
the list for longest. -/
def earliest? : List Turn → Option (Turn × List Turn)
  | [] => none
  | turn :: turns =>
    match earliest? turns with
    | none => some (turn, [])
    | some (first, others) =>
      if first.wake < turn.wake then some (first, turn :: others) else some (turn, turns)

/-- The turn that is taken is no longer among the others. -/
theorem length_earliest? {turns others : List Turn} {turn : Turn}
    (h : earliest? turns = some (turn, others)) : others.length < turns.length := by
  induction turns generalizing turn others with
  | nil => simp [earliest?] at h
  | cons t ts ih =>
    simp only [earliest?] at h
    split at h
    · simp only [Option.some.injEq, Prod.mk.injEq] at h
      simp [← h.2]
    · rename_i hs
      have := ih hs
      split at h
      all_goals
        simp only [Option.some.injEq, Prod.mk.injEq] at h
        rw [← h.2]
        simp only [List.length_cons]
        omega

/-- Moves the clock on. -/
def Scene.advanceTo (scene : Scene) (time : Nat) : Scene :=
  { scene with now := max scene.now time }

/-- Lets programs take turns until none can go on. Tasks that wait for another one may try again
after any action. -/
def runTurns {α : Type} (scene : Scene) (programs : List (Program α)) (ready : List Turn)
    (waiting : List Nat) : List (Program α) × Scene :=
  match _he : earliest? ready with
  | none => (programs, scene)
  | some (turn, others) =>
    let scene := scene.advanceTo turn.wake
    match _hp : programs[turn.task]? with
    | some (.act action next) =>
      match scene.answer turn.task action with
      -- The action may have set a waiting task free, so all of them get another turn.
      | (some answer, scene) =>
        runTurns scene (programs.set turn.task (next answer.reply))
          (others ++ waiting.map (Turn.mk scene.now)
            ++ [⟨scene.now + answer.delay, turn.task⟩]) []
      | (none, scene) => runTurns scene programs others (waiting ++ [turn.task])
    | _ => runTurns scene programs others waiting
termination_by
  (WellFounded.wrap steps_wf programs, ready.length)
decreasing_by
  · exact Prod.Lex.left _ _ (steps_set _hp _)
  · exact Prod.Lex.right _ (length_earliest? _he)
  · exact Prod.Lex.right _ (length_earliest? _he)

/-- The result of a program that has ended. -/
def result? {α : Type} : Program α → Option α
  | .done a => some a
  | .act _ _ => none

/-- Runs programs side by side. A program has no result if it waits for ever. -/
def runAll {α : Type} (scene : Scene) (programs : List (Program α)) : List (Option α) × Scene :=
  let turns := (List.range programs.length).map (Turn.mk scene.now)
  let (ended, scene) := runTurns scene programs turns []
  (ended.map result?, scene)

/-- Runs one program. -/
def runAlone {α : Type} (scene : Scene) (program : Program α) : Option α × Scene :=
  let (results, scene) := runAll scene [program]
  (results.head?.join, scene)

end Rehearsal

end VparFleet
