import VparFleet.Controller
import VparFleet.Proofs.Program.Steps
import VparFleet.Proofs.Tasks.Locks

/-!
# Work under a lock

The calls that create or remove a partition hold the lock on its name from their first action to
their last.

* `Controller.holding_obeys`: a rule of what is done under a lock is a rule of the whole.
* `Controller.holding_givesBack`: at the end the lock is given back.
* `Controller.held_run`: commands leave the lock held.
-/

namespace VparFleet.Controller

open Operation Program

variable {α : Type} {rule : List Exchange → Action → Prop}
  {mid goal : List Exchange → Outcome α → Prop} {past : List Exchange} {name : String}

/-- The lock is taken first and given back last. -/
theorem holding_obeys {operation : Operation α} (hl : rule [] (.lockName name))
    (h : operation.run.Obeys rule mid [⟨.lockName name, ()⟩])
    (hu : ∀ past outcome, mid past outcome →
      rule past (.unlockName name) ∧ goal (past ++ [⟨.unlockName name, ()⟩]) outcome) :
    (holding name operation).run.Obeys rule goal [] := by
  refine ⟨hl, fun reply => ?_⟩
  show (operation.run >>= fun outcome =>
    Program.perform (.unlockName name) >>= fun _ => done outcome).Obeys rule goal _
  rw [obeys_bind]
  refine h.goal_mono fun past outcome hmid => ?_
  exact ⟨(hu past outcome hmid).1, fun reply => (hu past outcome hmid).2⟩

/-- What is done under a lock gives it back, whatever it is. -/
theorem holding_givesBack (name : String) (operation : Operation α) :
    (holding name operation).run.GivesBack := by
  -- nothing is asked of the operation itself
  have hfree (p : Program (Outcome α)) (past : List Exchange) :
      p.Obeys (fun _ _ => True) (fun _ _ => True) past := by
    induction p generalizing past with
    | done a => exact trivial
    | act action next ih => exact ⟨trivial, fun reply => ih reply _⟩
  refine holding_obeys trivial (hfree _ _) fun past outcome _ => ⟨trivial, ?_⟩
  rw [held_concat]
  rfl

/-- A command leaves the lock held. -/
theorem held_run {host command : String} {reply : (Action.run host command).Reply}
    (hh : held past = some name) : held (past ++ [⟨.run host command, reply⟩]) = some name := by
  rw [held_concat]
  exact hh

end VparFleet.Controller
