import VparFleet.Proofs.Program.Steps

/-!
# How far a program has come

Where a rule that is stated by hand would only repeat a program, the program itself says what it may
do: after a course of exchanges it does what is left of it then.

* `Program.Reaches`: what is left of a program after a course.
* `Program.obeys_reaches`: a program does what is left of it.
* `Uses.reaches`: a program of certain actions has done no others.
-/

namespace VparFleet.Program

variable {α : Type} {p q : Program α} {course : List Exchange}

/-- Answered as in a course, a program goes on as another one. -/
inductive Reaches : Program α → List Exchange → Program α → Prop where
  /-- Nothing has been done yet. -/
  | here (p : Program α) : Reaches p [] p
  /-- One action and what follows it. -/
  | step {action : Action} {next : action.Reply → Program α} {reply : action.Reply}
      {course : List Exchange} {q : Program α} (h : Reaches (next reply) course q) :
    Reaches (act action next) (⟨action, reply⟩ :: course) q

theorem Reaches.concat {action : Action} {next : action.Reply → Program α}
    (h : p.Reaches course (act action next)) (reply : action.Reply) :
    p.Reaches (course ++ [⟨action, reply⟩]) (next reply) := by
  generalize hq : act action next = q at h
  induction h with
  | here p =>
    subst hq
    exact .step (.here _)
  | step h ih => exact .step (ih hq)

/-- After every course a program does what is left of it. -/
theorem obeys_reaches (p : Program α) (past : List Exchange) :
    p.Obeys
      (fun now action => ∃ course next, now = past ++ course ∧ p.Reaches course (act action next))
      (fun now a => ∃ course, now = past ++ course ∧ p.Reaches course (done a)) past := by
  -- the induction is on what is left, so the course before it is generalized
  have go (q : Program α) (course : List Exchange) (h : p.Reaches course q) :
      q.Obeys
        (fun now action => ∃ course next,
          now = past ++ course ∧ p.Reaches course (act action next))
        (fun now a => ∃ course, now = past ++ course ∧ p.Reaches course (done a))
        (past ++ course) := by
    induction q generalizing course with
    | done a => exact ⟨course, rfl, h⟩
    | act action next ih =>
      refine ⟨⟨course, next, rfl, h⟩, fun reply => ?_⟩
      rw [List.append_assoc]
      exact ih reply _ (h.concat reply)
  have hstart := go p [] (.here p)
  rw [List.append_nil] at hstart
  exact hstart

/-- A program of allowed actions has done only such, and does no others. -/
theorem Uses.reaches {allowed : Action → Prop} (h : p.Uses allowed) (hr : p.Reaches course q) :
    (∀ exchange ∈ course, allowed exchange.action) ∧ q.Uses allowed := by
  induction hr with
  | here p => exact ⟨nofun, h⟩
  | @step action next reply course q _ ih =>
    obtain ⟨hcourse, hq⟩ := ih (h.2 reply)
    exact ⟨List.forall_mem_cons.mpr ⟨h.1, hcourse⟩, hq⟩

end VparFleet.Program
