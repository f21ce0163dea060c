import VparFleet.Monitor.Loop
import VparFleet.Monitor.Refresh
import VparFleet.Rehearsal.Turns

/-!
# Rehearsing the refresh loop

The loop with a monitor, on a scene: how long a refresh takes follows from what the hosts do. What
the loop takes up when a tick and the cancellation are both there follows from nothing: the
rehearsal is told, choice by choice, and takes up the cancellation when it is not.

* `refreshAt`: one refresh.
* `refreshUntil`: refreshes until the loop takes up the cancellation.
-/

namespace VparFleet.Rehearsal

/-- Refreshes at a moment. -/
def refreshAt (monitor : Monitor) (scene : Scene) (started : Nat) : Scene :=
  (runAlone (scene.advanceTo started) monitor.update.run).2

/-- Refreshes until the loop takes up the cancellation. A preference is used up by each tick that is
there together with the cancellation. -/
def refreshUntil (monitor : Monitor) (cancel : Nat) (ticker : Ticker) (scene : Scene)
    (preferences : List Preference := []) : Scene :=
  match _h : RefreshLoop.nextStart? ⟨ticker, scene.now⟩ (some cancel)
      (preferences.headD .cancellation) with
  | some started =>
    if _hp : 0 < ticker.period then
      refreshUntil monitor cancel (ticker.next started) (refreshAt monitor scene started)
        (if started < cancel then preferences else preferences.tail)
    else scene.advanceTo cancel
  | none => scene.advanceTo cancel
termination_by preferences.length + (cancel - ticker.deadline)
decreasing_by
  have hdue := RefreshLoop.eq_due_of_nextStart? _h
  have hn := ticker.deadline_lt_next started _hp
  simp only [Ticker.due] at hdue
  split
  · omega
  · -- the loop has been told to prefer this tick, and that preference is used up
    have htick := RefreshLoop.eq_tick_of_nextStart? _h (by omega)
    cases preferences with
    | nil => cases htick
    | cons preference preferences => simp only [List.tail_cons, List.length_cons]; omega

end VparFleet.Rehearsal
