import VparFleet.Proofs.Monitor.Guard
import VparFleet.Proofs.Monitor.Surveying
import VparFleet.Proofs.Program.Reaches

/-!
# What an update does

An update looks at the count, waits for the guard, and looks again. If a refresh was counted in
between it returns the kept report; otherwise it refreshes on its own, keeps and counts the report,
and gives the guard back in any case.

* `UpdateRule`, `UpdateEnd`: what an update does next, and what it ends with.
* `update_obeys`: an update keeps its rule.
* `UpdateRule.guard`: that is the rule of the guard.
-/

namespace VparFleet

namespace Monitor

/-- The first exchanges of an update: the count before the guard and that under it. -/
def looks (seen now : Nat) : List Exchange :=
  [⟨.generation, seen⟩, ⟨.lockRefresh, ()⟩, ⟨.generation, now⟩]

/-- The exchanges before an update refreshes on its own. -/
inductive Opening : List Exchange → Prop where
  /-- No refresh was counted while it waited. -/
  | unchanged (seen : Nat) : Opening (looks seen seen)
  /-- There is no report in spite of the count. -/
  | unkept {seen now : Nat} (h : now ≠ seen) : Opening (looks seen now ++ [⟨.cached, none⟩])

variable (m : Monitor)

/-- What an update has done when it gives the guard back, and what it ends with. -/
inductive UpdateEnd : List Exchange → Outcome RefreshReport → Prop where
  /-- The kept report is returned. -/
  | reused {seen now : Nat} {report : RefreshReport} (h : now ≠ seen) :
    UpdateEnd (looks seen now ++ [⟨.cached, some report⟩]) (.ok report)
  /-- Its own refresh has failed. -/
  | failed {opening cycle : List Exchange} {fault : Fault} (ho : Opening opening)
      (hc : m.refresh.run.Reaches cycle (.done (.error fault))) :
    UpdateEnd (opening ++ cycle) (.error fault)
  /-- Its own refresh has succeeded, and the report is kept and counted. -/
  | completed {opening cycle : List Exchange} {report : RefreshReport} (ho : Opening opening)
      (hc : m.refresh.run.Reaches cycle (.done (.ok report))) :
    UpdateEnd (opening ++ cycle ++ [⟨.publish report, ()⟩, ⟨.bumpGeneration, ()⟩]) (.ok report)

/-- What an update does after which exchanges. -/
inductive UpdateRule : List Exchange → Action → Prop where
  | begins : UpdateRule [] .generation
  | waits (seen : Nat) : UpdateRule [⟨.generation, seen⟩] .lockRefresh
  | looksAgain (seen : Nat) : UpdateRule [⟨.generation, seen⟩, ⟨.lockRefresh, ()⟩] .generation
  | reads {seen now : Nat} (h : now ≠ seen) : UpdateRule (looks seen now) .cached
  | refreshes {opening cycle : List Exchange} {action : Action}
      {next : action.Reply → Program (Outcome RefreshReport)} (ho : Opening opening)
      (hc : m.refresh.run.Reaches cycle (.act action next)) : UpdateRule (opening ++ cycle) action
  | keeps {opening cycle : List Exchange} {report : RefreshReport} (ho : Opening opening)
      (hc : m.refresh.run.Reaches cycle (.done (.ok report))) :
    UpdateRule (opening ++ cycle) (.publish report)
  | counts {opening cycle : List Exchange} {report : RefreshReport} (ho : Opening opening)
      (hc : m.refresh.run.Reaches cycle (.done (.ok report))) :
    UpdateRule (opening ++ cycle ++ [⟨.publish report, ()⟩]) .bumpGeneration
  | leaves {past : List Exchange} {outcome : Outcome RefreshReport}
      (h : m.UpdateEnd past outcome) : UpdateRule past .unlockRefresh

/-- At the end the guard was given back, and nothing was done after that. -/
def UpdateDone (past : List Exchange) (outcome : Outcome RefreshReport) : Prop :=
  ∃ before, past = before ++ [⟨.unlockRefresh, ()⟩] ∧ m.UpdateEnd before outcome

/-! ## The program keeps the rule -/

open Program

/-- A cycle obeys the rule, and ends published and counted or not at all. -/
theorem refreshAndPublish_obeys {opening : List Exchange} (ho : Opening opening) :
    m.refreshAndPublish.run.Obeys m.UpdateRule m.UpdateEnd opening := by
  have hrefresh : m.refresh.run.Obeys m.UpdateRule
      (fun past outcome => ∃ cycle, past = opening ++ cycle ∧
        m.refresh.run.Reaches cycle (.done outcome)) opening := by
    refine (m.refresh.run.obeys_reaches opening).mono ?_ fun _ _ h => h
    rintro past action ⟨cycle, next, rfl, hc⟩
    exact .refreshes ho hc
  refine obeys_run_bind _ hrefresh ?_ ?_
  · -- a refresh that made a report is followed by its publication and its count
    rintro past report ⟨cycle, rfl, hc⟩
    refine ⟨.keeps ho hc, fun _ => ⟨.counts ho hc, fun _ => ?_⟩⟩
    rw [List.append_assoc]
    exact UpdateEnd.completed ho hc
  · rintro past fault ⟨cycle, rfl, hc⟩
    exact UpdateEnd.failed ho hc

/-- What an update does under the guard, if it has seen a count before. -/
theorem update_body_obeys (seen : Nat) :
    (do
      let current ← Operation.generation
      if current = seen then m.refreshAndPublish
      else
        match ← Operation.cached with
        | some report => return report
        | none => m.refreshAndPublish : Operation RefreshReport).run.Obeys m.UpdateRule m.UpdateEnd
      [⟨.generation, seen⟩, ⟨.lockRefresh, ()⟩] := by
  refine ⟨.looksAgain seen, fun (now : Nat) => ?_⟩
  show (if now = seen then m.refreshAndPublish
    else Operation.cached >>= fun known => match known with
      | some report => pure report
      | none => m.refreshAndPublish : Operation RefreshReport).run.Obeys _ _ (looks seen now)
  -- the count decides between a cycle of one's own and the report that is known
  split
  · next h =>
    subst h
    exact m.refreshAndPublish_obeys (.unchanged now)
  · next h =>
    refine ⟨.reads h, fun known => ?_⟩
    cases known with
    | some report => exact .reused h
    | none => exact m.refreshAndPublish_obeys (.unkept h)

/-- What is done under the guard keeps the rule if the whole does. -/
theorem underGuard_obeys {α : Type} {operation : Operation α}
    {rule : List Exchange → Action → Prop} {mid goal : List Exchange → Outcome α → Prop}
    {past : List Exchange} (hl : rule past .lockRefresh)
    (h : operation.run.Obeys rule mid (past ++ [⟨.lockRefresh, ()⟩]))
    (hu : ∀ past outcome, mid past outcome →
      rule past .unlockRefresh ∧ goal (past ++ [⟨.unlockRefresh, ()⟩]) outcome) :
    (Operation.between (.perform .lockRefresh) (.perform .unlockRefresh) operation).run.Obeys
      rule goal past := by
  refine ⟨hl, fun _ => ?_⟩
  show (operation.run >>= fun outcome =>
    Program.perform .unlockRefresh >>= fun _ => done outcome).Obeys rule goal _
  rw [obeys_bind]
  -- the guard is given back whatever the outcome is
  refine h.goal_mono fun past outcome hmid => ?_
  exact ⟨(hu past outcome hmid).1, fun _ => (hu past outcome hmid).2⟩

/-- Every update obeys the rule from its beginning. -/
theorem update_obeys : m.update.run.Obeys m.UpdateRule m.UpdateDone [] := by
  refine ⟨.begins, fun (seen : Nat) => ?_⟩
  exact underGuard_obeys (.waits seen) (m.update_body_obeys seen) fun past outcome h =>
    ⟨.leaves h, past, rfl, h⟩

/-! ## The rule of the guard -/

variable {m} {opening cycle past : List Exchange} {outcome : Outcome RefreshReport}
  {action : Action}

/-- A refresh has nothing to do with the guard. -/
theorem Surveys.not_refreshing (h : m.Surveys action) : action.isRefreshing = false := by
  cases h <;> rfl

theorem Opening.guards (h : Opening opening) :
    VparFleet.guards opening = true ∧ uncounted opening = none := by
  cases h <;> exact ⟨rfl, rfl⟩

/-- During its own refresh an update holds the guard and has kept no report. -/
theorem Opening.guards_cycle {q : Program (Outcome RefreshReport)} (h : Opening opening)
    (hc : m.refresh.run.Reaches cycle q) :
    VparFleet.guards (opening ++ cycle) = true ∧ uncounted (opening ++ cycle) = none := by
  have hcycle : ∀ exchange ∈ cycle, exchange.action.isRefreshing = false :=
    fun exchange hmem => ((m.refresh_surveys.reaches hc).1 exchange hmem).not_refreshing
  rw [guards_append hcycle, uncounted_append hcycle]
  exact h.guards

/-- A report that was just kept is the one that is not counted yet. -/
theorem Opening.guards_kept {report : RefreshReport} (h : Opening opening)
    (hc : m.refresh.run.Reaches cycle (.done (.ok report))) :
    VparFleet.guards (opening ++ cycle ++ [⟨.publish report, ()⟩]) = true ∧
      uncounted (opening ++ cycle ++ [⟨.publish report, ()⟩]) = some report := by
  rw [guards_concat, uncounted_concat]
  exact ⟨(h.guards_cycle hc).1, rfl⟩

/-- At its end it still has the guard, and nothing to count. -/
theorem UpdateEnd.guards (h : m.UpdateEnd past outcome) :
    VparFleet.guards past = true ∧ uncounted past = none := by
  cases h with
  | reused => exact ⟨rfl, rfl⟩
  | failed ho hc => exact ho.guards_cycle hc
  | completed ho hc =>
    rw [List.append_cons, guards_concat, uncounted_concat, guards_concat]
    exact ⟨(ho.guards_cycle hc).1, rfl⟩

/-- The rule of an update is one of the guard. -/
theorem UpdateRule.guard (h : m.UpdateRule past action) : GuardRule past action := by
  cases h with
  | begins | waits | looksAgain | reads => exact trivial
  | refreshes ho hc =>
    have hsurvey := (m.refresh_surveys.reaches hc).2.1
    cases hsurvey <;> exact trivial
  | keeps ho hc => exact ho.guards_cycle hc
  | counts ho hc =>
    obtain ⟨hguards, hcounting⟩ := ho.guards_kept hc
    exact ⟨hguards, hcounting ▸ nofun⟩
  | leaves h => exact h.guards

/-! ## Read backwards -/

/-- The known report is read only after a cycle was counted in the meantime. -/
theorem UpdateRule.of_cached (h : m.UpdateRule past .cached) :
    ∃ seen now, now ≠ seen ∧ past = looks seen now := by
  cases h with
  | reads h => exact ⟨_, _, h, rfl⟩
  | refreshes ho hc => exact nomatch (m.refresh_surveys.reaches hc).2.1

/-- A cycle is counted right after its report was published. -/
theorem UpdateRule.of_bump (h : m.UpdateRule past .bumpGeneration) :
    ∃ opening cycle report, Opening opening ∧ m.refresh.run.Reaches cycle (.done (.ok report)) ∧
      past = opening ++ cycle ++ [⟨.publish report, ()⟩] := by
  cases h with
  | counts ho hc => exact ⟨_, _, _, ho, hc, rfl⟩
  | refreshes ho hc => exact nomatch (m.refresh_surveys.reaches hc).2.1

/-- A report is published right after the refresh that made it. -/
theorem UpdateRule.of_publish {report : RefreshReport} (h : m.UpdateRule past (.publish report)) :
    ∃ opening cycle, Opening opening ∧ m.refresh.run.Reaches cycle (.done (.ok report)) ∧
      past = opening ++ cycle := by
  cases h with
  | keeps ho hc => exact ⟨_, _, ho, hc, rfl⟩
  | refreshes ho hc => exact nomatch (m.refresh_surveys.reaches hc).2.1

/-- What a refresh does, an update does in its own refresh. -/
theorem UpdateRule.of_surveys (h : m.UpdateRule past action) (hs : m.Surveys action) :
    ∃ opening cycle q, Opening opening ∧ m.refresh.run.Reaches cycle q ∧
      past = opening ++ cycle := by
  cases h with
  | begins | waits | looksAgain | reads | keeps | counts | leaves => exact nomatch hs
  | refreshes ho hc => exact ⟨_, _, _, ho, hc, rfl⟩

end Monitor

end VparFleet
