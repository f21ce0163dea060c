import Mathlib.Data.List.Chain
import VparFleet.Monitor.Loop

/-!
# When refreshes start

A loop that nobody cancels refreshes again and again. A refresh starts when its tick is due, or at
the end of the refresh before it when that is later. When it starts decides when the next tick is
due; how long it lasts decides when the loop is there for that tick; how it ends decides nothing.

* `Refreshed`, `refreshes`: the refreshes of a loop that nobody cancels.
* `Follows`, `refreshes_isChain`: how one refresh leads to the next.
* `Follows.ended_le`, `Follows.spaced`, `Follows.spaced_of_late`: two refreshes in a row.
* `starts_congr`: only how long refreshes last matters.
* `refreshes_spaced`: all of that, for any rounds.
-/

namespace VparFleet.RefreshLoop

variable {loop : RefreshLoop} {period : Nat}

/-! ## Refreshes -/

/-- A refresh of a loop that nobody cancels. -/
structure Refreshed where
  /-- From when on the loop was there for the tick: the start of the loop, or the end of the refresh
  before. -/
  free : Nat
  /-- When the tick was due. -/
  deadline : Nat
  round : Round

namespace Refreshed

/-- When the refresh starts. -/
def started (refresh : Refreshed) : Nat :=
  max refresh.free refresh.deadline

/-- When the refresh ends, well or not. -/
def ended (refresh : Refreshed) : Nat :=
  refresh.started + refresh.round.lasting

theorem free_le_started (refresh : Refreshed) : refresh.free ≤ refresh.started :=
  Nat.le_max_left _ _

theorem deadline_le_started (refresh : Refreshed) : refresh.deadline ≤ refresh.started :=
  Nat.le_max_right _ _

theorem started_le_ended (refresh : Refreshed) : refresh.started ≤ refresh.ended :=
  Nat.le_add_right _ _

end Refreshed

/-- The next refresh of a loop that nobody cancels. -/
def coming (loop : RefreshLoop) (round : Round) : Refreshed :=
  ⟨loop.now, loop.ticker.deadline, round⟩

/-- The refreshes of a loop that nobody cancels, one for each round. -/
def refreshes (loop : RefreshLoop) : List Round → List Refreshed
  | [] => []
  | round :: rounds =>
    loop.coming round
      :: (loop.afterRefresh (loop.coming round).started round.lasting).refreshes rounds

/-- There is one refresh for each round. -/
theorem map_round_refreshes (loop : RefreshLoop) (rounds : List Round) :
    (loop.refreshes rounds).map Refreshed.round = rounds := by
  induction rounds generalizing loop with
  | nil => rfl
  | cons round rounds ih =>
    rw [refreshes, List.map_cons, ih]
    rfl

/-- Without a cancellation all refreshes start. -/
theorem starts_none (loop : RefreshLoop) (rounds : List Round) :
    loop.starts none rounds = (loop.refreshes rounds).map Refreshed.started := by
  induction rounds generalizing loop with
  | nil => rfl
  | cons round rounds ih =>
    rw [refreshes, List.map_cons, ← ih]
    rfl

/-! ## From one refresh to the next -/

/-- How a refresh leads to the next one: the loop is there again at its end, and the next tick is
due a period after the tick of the refresh, or a period after its start if that was late. -/
structure Follows (period : Nat) (earlier later : Refreshed) : Prop where
  free : later.free = earlier.ended
  deadline : later.deadline =
    if earlier.started ≤ earlier.deadline + Ticker.tolerance then earlier.deadline + period
    else earlier.started + period

/-- Every refresh follows the one before. -/
theorem refreshes_isChain (loop : RefreshLoop) (rounds : List Round) :
    (loop.refreshes rounds).IsChain (Follows loop.ticker.period) := by
  induction rounds generalizing loop with
  | nil => exact .nil
  | cons round rounds ih =>
    -- the loop after the first refresh has the same period
    have hrest := ih (loop.afterRefresh (loop.coming round).started round.lasting)
    rw [afterRefresh, Ticker.period_next] at hrest
    cases rounds with
    | nil => exact .singleton _
    | cons next rounds => exact .cons_cons ⟨rfl, Ticker.deadline_next _ _⟩ hrest

/-- A refresh is the first one of the loop, or it follows the one before. -/
theorem first_or_follows {refresh : Refreshed} {rounds : List Round} {before after : List Refreshed}
    (h : loop.refreshes rounds = before ++ refresh :: after) :
    (before = [] ∧ refresh.free = loop.now ∧ refresh.deadline = loop.ticker.deadline) ∨
      ∃ earlier, before.getLast? = some earlier ∧ Follows loop.ticker.period earlier refresh := by
  obtain rfl | ⟨before, earlier, rfl⟩ := before.eq_nil_or_concat'
  · -- nothing is before the first refresh, so it starts with the loop
    left
    cases rounds with
    | nil => cases h
    | cons round rounds =>
      obtain ⟨rfl, -⟩ := List.cons.inj h
      exact ⟨rfl, rfl, rfl⟩
  · right
    -- any other one is next to the last before it
    have hchain := loop.refreshes_isChain rounds
    rw [h, List.append_assoc] at hchain
    exact ⟨earlier, List.getLast?_concat,
      List.isChain_iff_forall_rel_of_append_cons_cons.mp hchain rfl⟩

namespace Follows

variable {earlier later : Refreshed}

/-- The next refresh starts when its tick is due and the one before has ended. -/
theorem started_eq (h : Follows period earlier later) :
    later.started = max later.deadline earlier.ended := by
  rw [Refreshed.started, h.free, Nat.max_comm]

theorem ended_le (h : Follows period earlier later) : earlier.ended ≤ later.started :=
  h.free ▸ later.free_le_started

/-- The next tick is due a period after the start, but for the lateness that moves no tick. -/
theorem deadline_bounds (h : Follows period earlier later) :
    earlier.started + period ≤ later.deadline + Ticker.tolerance ∧
      later.deadline ≤ earlier.started + period := by
  have hdue := earlier.deadline_le_started
  have hdeadline := h.deadline
  split at hdeadline <;> omega

/-- So two starts are a period apart, but for that lateness. -/
theorem spaced (h : Follows period earlier later) :
    earlier.started + period ≤ later.started + Ticker.tolerance :=
  h.deadline_bounds.1.trans (Nat.add_le_add_right later.deadline_le_started _)

/-- After a late start a whole period passes. -/
theorem spaced_of_late (h : Follows period earlier later)
    (hlate : earlier.deadline + Ticker.tolerance < earlier.started) :
    earlier.started + period ≤ later.started := by
  have hdue := later.deadline_le_started
  have hdeadline := h.deadline
  rw [if_neg (Nat.not_le.mpr hlate)] at hdeadline
  exact hdeadline ▸ hdue

end Follows

/-- Whether a refresh has ended when another one starts. -/
def Before (earlier later : Refreshed) : Prop :=
  earlier.ended ≤ later.started

instance : Trans Before Before Before where
  trans {_ middle _} h h' := (Nat.le_trans h middle.started_le_ended).trans h'

/-- No two refreshes overlap. -/
theorem refreshes_pairwise (loop : RefreshLoop) (rounds : List Round) :
    (loop.refreshes rounds).Pairwise Before :=
  ((refreshes_isChain loop rounds).imp fun _ _ h => h.ended_le).pairwise

/-- Only how long the refreshes last matters for when they start. -/
theorem starts_congr (loop : RefreshLoop) {rounds others : List Round}
    (h : others.map Round.lasting = rounds.map Round.lasting) :
    loop.starts none others = loop.starts none rounds := by
  induction rounds generalizing loop others with
  | nil => rw [List.map_eq_nil_iff.mp h]
  | cons round rounds ih =>
    obtain ⟨other, others, rfl⟩ : ∃ other rest, others = other :: rest := by
      cases others with
      | nil => cases h
      | cons other rest => exact ⟨other, rest, rfl⟩
    obtain ⟨hfirst, hrest⟩ := List.cons.inj h
    simp only [starts, nextStart?, hfirst, ih _ hrest]

/-! ## All refreshes -/

/-- A loop that nobody cancels has a refresh for every round, whatever becomes of the refreshes. The
first one starts at once, and each later one when its tick is due and the one before has ended. So
no two overlap, two starts are a period apart but for the lateness that moves no tick, and after a
start that was later a whole period passes. The starts are the same for all rounds that last as
long. -/
theorem refreshes_spaced (period now : Nat) (rounds : List Round) :
    let loop := start period now
    let refreshes := loop.refreshes rounds
    loop.starts none rounds = refreshes.map Refreshed.started ∧
      refreshes.map Refreshed.round = rounds ∧
      (∀ first, refreshes.head? = some first → first.deadline = now ∧ first.started = now) ∧
      refreshes.IsChain (fun earlier later =>
        later.deadline = (if earlier.started ≤ earlier.deadline + 5 then earlier.deadline + period
          else earlier.started + period) ∧
        later.started = max later.deadline earlier.ended ∧
        earlier.started + period ≤ later.started + 5 ∧
        (earlier.deadline + 5 < earlier.started → earlier.started + period ≤ later.started)) ∧
      refreshes.Pairwise (fun earlier later => earlier.ended ≤ later.started) ∧
      ∀ others : List Round, others.map Round.lasting = rounds.map Round.lasting →
        loop.starts none others = loop.starts none rounds := by
  refine ⟨starts_none _ _, map_round_refreshes _ _, fun first hfirst => ?_, ?_,
    refreshes_pairwise _ _, fun others => starts_congr _⟩
  · cases rounds with
    | nil => cases hfirst
    | cons round rounds =>
      obtain rfl := Option.some.inj hfirst
      exact ⟨rfl, Nat.max_self now⟩
  · -- all the spacing is between one refresh and the next
    exact (refreshes_isChain _ _).imp fun _ _ h =>
      ⟨h.deadline, h.started_eq, h.spaced, h.spaced_of_late⟩

/-- A loop with a period of a second whose first refresh lasts for two and a half, and whose third
one is a little late. -/
def unevenRounds : List Round :=
  [⟨.tick, 2500, .ok ()⟩, ⟨.tick, 1003, .error ⟨.connectivity, "connection refused"⟩⟩,
    ⟨.tick, 10, .ok ()⟩, ⟨.tick, 0, .ok ()⟩]

theorem refreshes_spaced_sample :
    let loop := start 1000 0
    loop.starts none unevenRounds = [0, 2500, 3503, 4500] ∧
      (∀ refresh ∈ (loop.refreshes unevenRounds)[1]?, refresh.deadline + 5 < refresh.started) ∧
      loop.starts none (unevenRounds.map fun round => { round with outcome := .ok () }) =
        loop.starts none unevenRounds := by
  obtain ⟨hstarts, -, -, -, -, hcongr⟩ := refreshes_spaced 1000 0 unevenRounds
  exact ⟨hstarts.trans (by decide), by decide, hcongr _ (by decide)⟩

end VparFleet.RefreshLoop
