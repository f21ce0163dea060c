/-!
# Tickers

A ticker says when the next refresh is due. The first is due at once. A tick that is taken much too
late moves all later ones.

* `deadline_next`, `deadline_lt_next`: the next deadline, which is later.
-/

namespace VparFleet

/-- When something that happens again and again is due, in milliseconds. -/
structure Ticker where
  /-- The time between two ticks. -/
  period : Nat
  /-- When the next tick is due. -/
  deadline : Nat
  deriving DecidableEq, Repr

namespace Ticker

/-- A ticker whose first tick is due at once. -/
def start (period now : Nat) : Ticker := ⟨period, now⟩

/-- How late a tick may be taken without moving the later ones. -/
def tolerance : Nat := 5

/-- When a tick can be taken by somebody who is there from `now` on. -/
def due (ticker : Ticker) (now : Nat) : Nat :=
  max now ticker.deadline

/-- The ticker after a tick has been taken. -/
def next (ticker : Ticker) (taken : Nat) : Ticker :=
  if taken ≤ ticker.deadline + tolerance then
    { ticker with deadline := ticker.deadline + ticker.period }
  else { ticker with deadline := taken + ticker.period }

/-- Up to the tolerance the deadlines keep their distance; after a later tick a whole period passes.
-/
theorem deadline_next (ticker : Ticker) (taken : Nat) :
    (ticker.next taken).deadline =
      if taken ≤ ticker.deadline + tolerance then ticker.deadline + ticker.period
      else taken + ticker.period := by
  unfold next
  split <;> rfl

theorem period_next (ticker : Ticker) (taken : Nat) :
    (ticker.next taken).period = ticker.period := by
  unfold next
  split <;> rfl

/-- Deadlines only ever move forward. -/
theorem deadline_lt_next (ticker : Ticker) (taken : Nat) (hp : 0 < ticker.period) :
    ticker.deadline < (ticker.next taken).deadline := by
  unfold next
  split
  · simp only
    omega
  · simp only [tolerance] at *
    omega

end Ticker

end VparFleet
