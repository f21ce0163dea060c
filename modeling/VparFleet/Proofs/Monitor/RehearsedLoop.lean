import VparFleet.Rehearsal.RefreshLoop

/-!
# Rehearsed loops

A rehearsed loop is a refresh loop whose rounds last as long as the hosts take.

* `le_now_runTurns`: programs never turn back the clock.
* `refreshUntil_course`: the moments at which a rehearsed loop refreshes, and its end.
-/

namespace VparFleet.Rehearsal

variable {α : Type}

/-- Answers come at once: waiting is what the turns are for. -/
theorem now_answer (scene : Scene) (task : Nat) (action : Action) :
    (scene.answer task action).2.now = scene.now := by
  unfold Scene.answer
  split
  · rfl
  · rfl
  · split
    · rfl
    · simp only [Scene.atOnce, Scene.openConsole]
      split <;> rfl
    · simp only [Scene.atOnce, Scene.send]
      split <;> rfl
    · simp only [Scene.waitFor]
      split <;> rfl
    · simp only [Scene.atOnce, Scene.close]
      split <;> rfl
    · rfl
    · rfl
    · rfl

theorem le_now_advanceTo (scene : Scene) (time : Nat) : scene.now ≤ (scene.advanceTo time).now :=
  Nat.le_max_left _ _

/-- The clock is never turned back. -/
theorem le_now_runTurns (scene : Scene) (programs : List (Program α)) (ready : List Turn)
    (waiting : List Nat) : scene.now ≤ (runTurns scene programs ready waiting).2.now := by
  -- an answer leaves the clock as it is, so it only moves on to the next turn
  fun_induction runTurns scene programs ready waiting with
  | case1 scene programs ready waiting hnone => exact Nat.le_refl _
  | case2 scene programs ready waiting turn others hturn moved action next hp answer answered
      hanswer ih =>
    have hnow : answered.now = moved.now := by rw [← now_answer moved turn.task action, hanswer]
    have hattach : waiting.attach.map (fun waiting => Turn.mk answered.now waiting.1)
        = waiting.map (Turn.mk answered.now) := by simp
    rw [hattach, hnow] at ih
    rw [hnow]
    exact Nat.le_trans (le_now_advanceTo scene turn.wake) ih
  | case3 scene programs ready waiting turn others hturn moved action next hp answered hanswer ih =>
    have hnow : answered.now = moved.now := by rw [← now_answer moved turn.task action, hanswer]
    exact Nat.le_trans (le_now_advanceTo scene turn.wake) (hnow ▸ ih)
  | case4 scene programs ready waiting turn others hturn moved hdone ih =>
    exact Nat.le_trans (le_now_advanceTo scene turn.wake) ih

theorem le_now_refreshAt (monitor : Monitor) (scene : Scene) (started : Nat) :
    started ≤ (refreshAt monitor scene started).now :=
  Nat.le_trans (Nat.le_max_right scene.now started)
    (le_now_runTurns (scene.advanceTo started) _ _ _)

/-! ## Rehearsed loops -/

open RefreshLoop

/-- A rehearsed loop is a loop whose rounds last as long as the hosts take, and which prefers what
it has been told to: it refreshes at these moments, one after the other, and its clock stands at
the end of the loop. -/
theorem refreshUntil_course (monitor : Monitor) (cancel : Nat) (ticker : Ticker) (scene : Scene)
    (preferences : List Preference) (hperiod : 0 < ticker.period) :
    let loop : RefreshLoop := ⟨ticker, scene.now⟩
    let after := refreshUntil monitor cancel ticker scene preferences
    ∃ rounds : List Round,
      (∀ round ∈ rounds, round.preference ∈ .cancellation :: preferences) ∧
      after =
        ((loop.starts (some cancel) rounds).foldl (refreshAt monitor) scene).advanceTo cancel ∧
      loop.endsAt? (some cancel) rounds = some after.now := by
  have hlasting (scene : Scene) (started : Nat) :
      started + ((refreshAt monitor scene started).now - started)
        = (refreshAt monitor scene started).now :=
    Nat.add_sub_cancel' (le_now_refreshAt monitor scene started)
  have htold (preferences : List Preference) :
      preferences.headD .cancellation ∈ Preference.cancellation :: preferences := by
    cases preferences <;> simp
  fun_induction refreshUntil monitor cancel ticker scene preferences with
  | case1 ticker scene preferences started hstart _ ih =>
    obtain ⟨rounds, hpreferences, hafter, hend⟩ := ih (by rwa [Ticker.period_next])
    refine ⟨⟨preferences.headD .cancellation, (refreshAt monitor scene started).now - started,
      .ok ()⟩ :: rounds, ?_, ?_, ?_⟩
    · refine List.forall_mem_cons.mpr ⟨htold preferences, fun round hmem => ?_⟩
      -- what is left of the preferences is among those the loop has been told
      refine List.cons_subset_cons _ ?_ (hpreferences round hmem)
      split
      · exact List.Subset.refl _
      · exact (List.tail_sublist preferences).subset
    · simp only [starts, hstart, afterRefresh, hlasting, List.foldl_cons]
      exact hafter
    · simp only [endsAt?, hstart, afterRefresh, hlasting]
      exact hend
  | case2 ticker scene preferences started hstart hnot => exact absurd hperiod hnot
  | case3 ticker scene preferences hstart =>
    refine ⟨[⟨preferences.headD .cancellation, 0, .ok ()⟩],
      List.forall_mem_singleton.mpr (htold preferences), ?_, ?_⟩
    · rw [starts, hstart]
      rfl
    · rw [endsAt?, hstart]
      rfl

end VparFleet.Rehearsal
