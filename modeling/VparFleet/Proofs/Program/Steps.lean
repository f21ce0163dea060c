import VparFleet.Proofs.Program.Rule

/-!
# Walking through operations

An operation is a program whose result may be a fault, and a fault ends it. The lemmas here say what
is left to show after each way of putting operations together, so that a rule or a goal is shown
piece by piece.

* `Operation.after`: goes on with the result, or ends with the fault.
* `obeys_run_bind`: shows a rule of two steps from rules of either.
* `Uses.andThen`, `Uses.mapM`, `Uses.forM`: what is put together from allowed actions does no
  others.
-/

namespace VparFleet

variable {α β : Type}

namespace Operation

/-- How a program goes on after an operation: with the result, or not at all. -/
def after (k : α → Operation β) : Outcome α → Program (Outcome β)
  | .ok a => (k a).run
  | .error fault => .done (.error fault)

/-- An operation in two parts goes on from the outcome of the first one. -/
@[simp] theorem run_bind (op : Operation α) (k : α → Operation β) :
    (op >>= k).run = op.run >>= after k := by
  rw [ExceptT.run_bind]
  -- both sides go on from an outcome, and agree on either kind of it
  congr 1
  funext outcome
  cases outcome <;> rfl

@[simp] theorem run_ofOutcome (outcome : Outcome α) : (ofOutcome outcome).run = .done outcome :=
  rfl

@[simp] theorem run_atStep (step : String) (op : Operation α) :
    (op.atStep step).run = op.run >>= fun outcome => .done (Outcome.atStep step outcome) :=
  rfl

/-- What is taken before an operation is given back after it, whatever its outcome is. -/
@[simp] theorem run_between (take giveBack : Program Unit) (op : Operation α) :
    (between take giveBack op).run =
      take >>= fun _ => op.run >>= fun outcome => giveBack >>= fun _ => .done outcome :=
  rfl

end Operation

namespace Program

open Operation

variable {rule : List Exchange → Action → Prop} {goal : List Exchange → Outcome β → Prop}
  {past : List Exchange} {allowed : Action → Prop}

/-- A step keeps the rule and meets what the next step starts from; a fault of it ends the whole. -/
theorem obeys_run_bind (mid : List Exchange → Outcome α → Prop) {op : Operation α}
    {k : α → Operation β} (h : op.run.Obeys rule mid past)
    (hk : ∀ past a, mid past (.ok a) → (k a).run.Obeys rule goal past)
    (he : ∀ past fault, mid past (.error fault) → goal past (.error fault)) :
    (op >>= k).run.Obeys rule goal past := by
  rw [run_bind, obeys_bind]
  -- what the first step meets at its end is where the second one starts
  refine h.goal_mono fun past outcome hm => ?_
  cases outcome with
  | error fault => exact he past fault hm
  | ok a => exact hk past a hm

/-- The same for a step with a name, which changes nothing but the fault. -/
theorem obeys_run_atStep_bind (mid : List Exchange → Outcome α → Prop) {step : String}
    {op : Operation α} {k : α → Operation β} (h : op.run.Obeys rule mid past)
    (hk : ∀ past a, mid past (.ok a) → (k a).run.Obeys rule goal past)
    (he : ∀ past fault, mid past (.error fault) → goal past (.error (fault.atStep step))) :
    (op.atStep step >>= k).run.Obeys rule goal past := by
  rw [run_bind, run_atStep, obeys_bind, obeys_bind]
  refine h.goal_mono fun past outcome hm => ?_
  cases outcome with
  | error fault => exact he past fault hm
  | ok a => exact hk past a hm

/-! ## Operations that do only certain actions -/

/-- What follows a step adds what it does itself; a fault adds nothing. -/
theorem Uses.andThen {op : Operation α} {k : α → Operation β} (h : op.run.Uses allowed)
    (hk : ∀ a, (k a).run.Uses allowed) : (op >>= k).run.Uses allowed := by
  rw [run_bind]
  refine h.bind fun outcome => ?_
  cases outcome with
  | error fault => exact uses_done
  | ok a => exact hk a

theorem Uses.atStep {step : String} {op : Operation α} (h : op.run.Uses allowed) :
    (op.atStep step).run.Uses allowed := by
  rw [run_atStep]
  exact h.bind fun _ => uses_done

/-- An operation between taking and giving back may use all three. -/
theorem Uses.between {take giveBack : Program Unit} {op : Operation α} (ht : take.Uses allowed)
    (h : op.run.Uses allowed) (hg : giveBack.Uses allowed) :
    (Operation.between take giveBack op).run.Uses allowed := by
  rw [run_between]
  exact ht.bind fun _ => h.bind fun _ => hg.bind fun _ => uses_done

theorem Uses.exec {host command : String} (h : allowed (.run host command)) :
    (Operation.exec host command).run.Uses allowed :=
  ⟨h, fun _ => uses_done⟩

/-- What every member uses is all that a list of them uses. -/
theorem Uses.mapM {k : α → Operation β} (hk : ∀ a, (k a).run.Uses allowed) (list : List α) :
    (list.mapM k).run.Uses allowed := by
  induction list with
  | nil =>
    rw [List.mapM_nil]
    exact uses_done
  | cons a list ih =>
    rw [List.mapM_cons]
    exact (hk a).andThen fun b => ih.andThen fun bs => uses_done

theorem Uses.forM {k : α → Operation PUnit} (hk : ∀ a, (k a).run.Uses allowed) (list : List α) :
    (list.forM k).run.Uses allowed := by
  induction list with
  | nil => exact uses_done
  | cons a list ih => exact (hk a).andThen fun _ => ih

end Program

end VparFleet
