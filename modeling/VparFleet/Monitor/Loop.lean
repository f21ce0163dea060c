import VparFleet.Fault
import VparFleet.Monitor.Ticker

/-!
# The refresh loop

The loop waits for a tick or for its cancellation, whatever comes first, and refreshes on a tick. A
refresh that has begun is always finished, and how it ends changes nothing for the loop. When a tick
and the cancellation are both there, the loop may take up either.

* `RefreshLoop.nextStart?`: when the next refresh starts, if one does.
* `RefreshLoop.starts`, `RefreshLoop.endsAt?`: when all refreshes start and when the loop ends, as
  far as the rounds are given.
* `eq_due_of_nextStart?`: a cancellation moves no refresh to another moment.
* `eq_tick_of_nextStart?`: what starts after the cancellation has been preferred to it.
-/

namespace VparFleet

/-- What a loop takes up when a tick and the cancellation are both there. -/
inductive Preference where
  | tick
  | cancellation
  deriving DecidableEq, Repr

/-- One round of a loop. -/
structure Round where
  /-- What the loop takes up first. -/
  preference : Preference
  /-- How long the refresh of the round lasts, in milliseconds. -/
  lasting : Nat
  /-- How the refresh ends. -/
  outcome : Outcome Unit

/-- A loop between two refreshes. -/
structure RefreshLoop where
  /-- When the next refresh is due. -/
  ticker : Ticker
  now : Nat
  deriving DecidableEq, Repr

namespace RefreshLoop

/-- A loop that starts now. -/
def start (period now : Nat) : RefreshLoop := ⟨.start period now, now⟩

/-- When the next refresh starts. Nothing means that the loop ends instead, at the cancellation or,
when that is past, at once. -/
def nextStart? (loop : RefreshLoop) (cancel : Option Nat) (preference : Preference) : Option Nat :=
  let tick := loop.ticker.due loop.now
  match cancel with
  | none => some tick
  | some cancel =>
    let stop := max loop.now cancel
    if tick < stop ∨ tick = stop ∧ preference = .tick then some tick else none

/-- The loop after a refresh that started at a moment and took a while. -/
def afterRefresh (loop : RefreshLoop) (started lasting : Nat) : RefreshLoop :=
  ⟨loop.ticker.next started, started + lasting⟩

/-- When the refreshes start, round by round. -/
def starts (loop : RefreshLoop) (cancel : Option Nat) : List Round → List Nat
  | [] => []
  | round :: rounds =>
    match loop.nextStart? cancel round.preference with
    | some started => started :: (loop.afterRefresh started round.lasting).starts cancel rounds
    | none => []

/-- When the loop ends: at the cancellation or, when that is past, at the end of a refresh. Nothing
means that it goes on after these rounds. -/
def endsAt? (loop : RefreshLoop) (cancel : Option Nat) : List Round → Option Nat
  | [] => none
  | round :: rounds =>
    match loop.nextStart? cancel round.preference with
    | some started => (loop.afterRefresh started round.lasting).endsAt? cancel rounds
    | none => cancel.map (max loop.now)

/-- A cancellation may keep a refresh from starting, but it moves none to another moment. -/
theorem eq_due_of_nextStart? {loop : RefreshLoop} {cancel : Option Nat} {preference : Preference}
    {started : Nat} (h : loop.nextStart? cancel preference = some started) :
    started = loop.ticker.due loop.now := by
  cases cancel with
  | none => exact (Option.some.inj h).symm
  | some cancel =>
    simp only [nextStart?, Option.ite_none_right_eq_some, Option.some.injEq] at h
    exact h.2.symm

/-- What starts although the cancellation is there is a tick that has been preferred to it. -/
theorem eq_tick_of_nextStart? {loop : RefreshLoop} {cancel : Nat} {preference : Preference}
    {started : Nat} (h : loop.nextStart? (some cancel) preference = some started)
    (hlate : cancel ≤ started) : preference = .tick := by
  simp only [nextStart?, Option.ite_none_right_eq_some, Option.some.injEq] at h
  obtain ⟨hbefore | ⟨-, htick⟩, hstarted⟩ := h
  · simp only [Ticker.due] at hbefore hstarted
    omega
  · exact htick

end RefreshLoop

end VparFleet
