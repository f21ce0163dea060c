import VparFleet.Proofs.Tasks.Alone

/-!
# Calls made one after the other

Calls on the tables ask neither hosts nor the clock, so a task that makes them alone comes to its
end in one way. A call that fails does not keep the next one from being made. If every call does to
the tables what it does to some simpler state, then so do all of them, in whatever order they come.

* `Program.Ends`: what a program that runs alone ends with, and what is shared then.
* `inTurn`: the program of some calls.
* `Follows`: a course of calls that each do what they have to do to a simpler state.
* `inTurn_follows`: from one call to any number of them.
-/

namespace VparFleet

namespace Program

variable {α β : Type} {shared middle after : Shared} {a : α} {b : β}

/-- While no other task acts and neither hosts nor the clock are asked, a program ends so. -/
def Ends (p : Program α) (shared : Shared) (a : α) (after : Shared) : Prop :=
  (p.goOn (fun _ => none) 0 shared).2 = (after, .done a)

theorem ends_done : (done a).Ends shared a shared :=
  rfl

/-- An action that is answered inside leads on to what is left of the program. -/
theorem ends_act {action : Action} {next : action.Reply → Program α} {reply : action.Reply}
    (ha : shared.answer 0 action = .reply reply middle) :
    (act action next).Ends shared a after ↔ (next reply).Ends middle a after := by
  unfold Ends
  rw [goOn, ha]

/-- A program in two parts ends as its second part does. -/
theorem Ends.bind {p : Program β} {k : β → Program α} (hp : p.Ends shared b middle)
    (hk : (k b).Ends middle a after) : (p >>= k).Ends shared a after := by
  induction p generalizing shared with
  | done c =>
    obtain ⟨rfl, h⟩ := Prod.mk.inj hp
    injection h with h
    rw [done_bind, h]
    exact hk
  | act action next ih =>
    unfold Ends at hp
    rw [goOn] at hp
    rw [act_bind]
    -- the first part has ended, so every action of it was answered inside
    split at hp
    · next reply shared' ha => exact (ends_act ha).mpr (ih reply hp)
    · next h => cases h
    · cases hp

end Program

section Calls

variable {Call : Type} {Result : Call → Type}

/-- A call with its outcome. -/
structure Ended (Result : Call → Type) where
  call : Call
  outcome : Outcome (Result call)

/-- Makes calls one after the other, whether they fail or not. -/
def inTurn (operation : (call : Call) → Operation (Result call)) :
    List Call → Program (List (Ended Result))
  | [] => .done []
  | call :: calls => do
    let outcome ← (operation call).run
    let rest ← inTurn operation calls
    return ⟨call, outcome⟩ :: rest

variable {World : Type}

/-- Calls lead from one state to another, and each does there what it has to do. -/
inductive Follows (meets : World → Ended Result → World → Prop) :
    World → List (Ended Result) → World → Prop where
  | stop (world : World) : Follows meets world [] world
  | step {world middle last : World} {x : Ended Result} {past : List (Ended Result)}
      (hx : meets world x middle) (hrest : Follows meets middle past last) :
      Follows meets world (x :: past) last

/-- If every call does what it has to do, all of them do, and they come to an end. -/
theorem inTurn_follows {operation : (call : Call) → Operation (Result call)} {calls : List Call}
    {meets : World → Ended Result → World → Prop} {holds : World → Shared → Prop}
    (hstep : ∀ call ∈ calls, ∀ world shared, holds world shared →
      ∃ outcome middle after, (operation call).run.Ends shared outcome after ∧
        meets world ⟨call, outcome⟩ middle ∧ holds middle after)
    {world : World} {shared : Shared} (h : holds world shared) :
    ∃ past last after, (inTurn operation calls).Ends shared past after ∧
      past.map (·.call) = calls ∧ Follows meets world past last ∧ holds last after := by
  induction calls generalizing world shared with
  | nil => exact ⟨[], world, shared, Program.ends_done, rfl, .stop world, h⟩
  | cons call calls ih =>
    obtain ⟨hfirst, hrest⟩ := List.forall_mem_cons.mp hstep
    obtain ⟨outcome, middle, between, hends, hmeets, hholds⟩ := hfirst world shared h
    obtain ⟨past, last, after, hpast, hcalls, hfollows, hlast⟩ := ih hrest hholds
    refine ⟨⟨call, outcome⟩ :: past, last, after, ?_, ?_, .step hmeets hfollows, hlast⟩
    · -- the first call ends, then the others, and nothing comes after them
      exact hends.bind (hpast.bind Program.ends_done)
    · rw [List.map_cons, hcalls]

end Calls

end VparFleet
