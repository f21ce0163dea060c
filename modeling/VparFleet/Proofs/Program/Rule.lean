import VparFleet.Program

/-!
# Programs that keep a rule

What a program does next depends on the answers it has had. A rule says what may be done after which
exchanges, whatever the answers were; a goal says what holds of all exchanges and the result at the
end. Both are shown by walking through the program once, and hold in every interleaving with other
programs, because a program sees nothing of those but the answers.

* `Program.Obeys`: a program keeps a rule and meets a goal.
* `Program.obeys_bind`: a program in two parts keeps a rule when the second part does, after
  whatever the first one meets.
* `Program.Uses`: a program does nothing but certain actions.
* `Uses.obeys`: a part of a program that does only such actions keeps every rule that allows them
  and is not disturbed by them.
-/

namespace VparFleet

/-- Every action can be answered. -/
theorem Action.exists_reply (action : Action) : Nonempty action.Reply := by
  cases action with
  | run | openConsole | send | waitForPrompt | closeConsole | listNodes | findNode | addNode
  | updateNode | findPlacement | recordPlacement | removePlacement =>
    exact ⟨.error ⟨.timeout, ""⟩⟩
  | pause | lockName | unlockName | lockRefresh | unlockRefresh | publish | bumpGeneration =>
    exact ⟨()⟩
  | clock => exact ⟨⟨0, 0, 0⟩⟩
  | generation => exact ⟨(0 : Nat)⟩
  | cached => exact ⟨none⟩

/-- An action with its answer. -/
structure Exchange where
  action : Action
  reply : action.Reply

namespace Program

variable {α β : Type} {rule rule' : List Exchange → Action → Prop}
  {goal goal' : List Exchange → α → Prop} {past : List Exchange}

/-- Whatever the answers are, every action keeps the rule and the goal is met at the end. -/
def Obeys (rule : List Exchange → Action → Prop) (goal : List Exchange → α → Prop) :
    Program α → List Exchange → Prop
  | done a, past => goal past a
  | act action next, past =>
    rule past action ∧ ∀ reply, (next reply).Obeys rule goal (past ++ [⟨action, reply⟩])

@[simp] theorem obeys_act {action : Action} {next : action.Reply → Program α} :
    (act action next).Obeys rule goal past ↔
      rule past action ∧ ∀ reply, (next reply).Obeys rule goal (past ++ [⟨action, reply⟩]) :=
  Iff.rfl

/-- A program in two parts keeps a rule when the second part does after the first one. -/
@[simp] theorem obeys_bind {p : Program β} {k : β → Program α} :
    (p >>= k).Obeys rule goal past ↔
      p.Obeys rule (fun past b => (k b).Obeys rule goal past) past := by
  induction p generalizing past with
  | done b => exact Iff.rfl
  | act action next ih =>
    -- the first action is that of the first part, and what follows it is the induction's
    rw [act_bind, obeys_act, obeys_act]
    exact and_congr_right fun _ => forall_congr' fun reply => ih reply

/-- A rule may be said less exactly. -/
theorem Obeys.mono {p : Program α} (h : p.Obeys rule goal past)
    (hr : ∀ past action, rule past action → rule' past action)
    (hg : ∀ past a, goal past a → goal' past a) : p.Obeys rule' goal' past := by
  induction p generalizing past with
  | done a => exact hg _ _ h
  | act action next ih => exact ⟨hr _ _ h.1, fun reply => ih reply (h.2 reply)⟩

/-- A goal may be said less exactly, with the rule as it is. -/
theorem Obeys.goal_mono {p : Program α} (h : p.Obeys rule goal past)
    (hg : ∀ past a, goal past a → goal' past a) : p.Obeys rule goal' past :=
  h.mono (fun _ _ hr => hr) hg

/-! ## Programs that do only certain actions -/

/-- Whatever the answers are, every action is an allowed one. -/
def Uses (allowed : Action → Prop) : Program α → Prop
  | done _ => True
  | act action next => allowed action ∧ ∀ reply, (next reply).Uses allowed

variable {allowed allowed' : Action → Prop}

@[simp] theorem uses_done {a : α} : (done a).Uses allowed :=
  trivial

@[simp] theorem uses_pure {a : α} : (pure a : Program α).Uses allowed :=
  trivial

@[simp] theorem uses_perform {action : Action} :
    (perform action).Uses allowed ↔ allowed action := by
  simp [perform, Uses]

/-- What both parts of a program use is all that it uses. -/
theorem Uses.bind {p : Program β} {k : β → Program α} (hp : p.Uses allowed)
    (hk : ∀ b, (k b).Uses allowed) : (p >>= k).Uses allowed := by
  induction p with
  | done b => exact hk b
  | act action next ih => exact ⟨hp.1, fun reply => ih reply (hp.2 reply)⟩

/-- What a program uses may be said less exactly. -/
theorem Uses.mono {p : Program α} (h : p.Uses allowed)
    (ha : ∀ action, allowed action → allowed' action) : p.Uses allowed' := by
  induction p with
  | done a => trivial
  | act action next ih => exact ⟨ha _ h.1, fun reply => ih reply (h.2 reply)⟩

/-- A program of allowed actions keeps a rule that allows them as long as something holds of the
exchanges so far, if no allowed action puts an end to that. -/
theorem Uses.obeys {p : Program α} {holds : List Exchange → Prop} (h : p.Uses allowed)
    (hr : ∀ past action, holds past → allowed action → rule past action)
    (hs : ∀ past action reply, holds past → allowed action → holds (past ++ [⟨action, reply⟩]))
    (hp : holds past) : p.Obeys rule (fun past _ => holds past) past := by
  induction p generalizing past with
  | done a => exact hp
  | act action next ih =>
    exact ⟨hr _ _ hp h.1, fun reply => ih reply (h.2 reply) (hs _ _ reply hp h.1)⟩

/-- What a rule allows at some time is all that is done. -/
theorem Obeys.uses {p : Program α} (h : p.Obeys rule goal past)
    (ha : ∀ past action, rule past action → allowed action) : p.Uses allowed := by
  induction p generalizing past with
  | done a => trivial
  | act action next ih => exact ⟨ha _ _ h.1, fun reply => ih reply (h.2 reply)⟩

end Program

end VparFleet
