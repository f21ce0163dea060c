import VparFleet.Proofs.Monitor.RefreshTimes

/-!
# Cancelling the refresh loop

A cancellation moves no refresh, it only decides which one is the last. The loop sees it when it is
between two refreshes. If no tick is due then, the loop ends. If one is, the loop may as well take
up the tick: then a refresh starts although the cancellation is there, and at its end the same
question comes up again.

* `IsCancelled`, `exists_cut`: the refreshes up to the cancellation.
* `IsContested`: a tick that is due when the loop sees the cancellation.
* `Cut`: which refreshes start, and how the others are kept from that.
* `starts_until_cancelled`: the course of a cancelled loop.
* `not_always_last`: a refresh that starts after the cancellation.
-/

namespace VparFleet

namespace RefreshLoop

variable {loop : RefreshLoop} {cancel now period : Nat} {refresh : Refreshed}
  {rounds : List Round}

/-! ## The refreshes up to the cancellation -/

namespace Refreshed

/-- Whether the loop takes up the cancellation in place of the tick of a refresh. -/
def IsCancelled (cancel : Nat) (refresh : Refreshed) : Prop :=
  max refresh.free cancel < refresh.started ∨
    max refresh.free cancel = refresh.started ∧ refresh.round.preference = .cancellation

/-- Whether the tick of a refresh is due when the loop is there for it, and the cancellation has
come while the loop was not. -/
def IsContested (cancel : Nat) (refresh : Refreshed) : Prop :=
  cancel < refresh.free ∧ refresh.deadline ≤ refresh.free

theorem started_of_isContested (h : refresh.IsContested cancel) :
    refresh.started = refresh.free :=
  Nat.max_eq_left h.2

/-- A refresh that is not cancelled starts before the cancellation, or its tick is taken up as soon
as the cancellation is there. -/
theorem not_isCancelled_iff :
    ¬refresh.IsCancelled cancel ↔ refresh.started < cancel ∨
      refresh.started = max refresh.free cancel ∧ refresh.round.preference = .tick := by
  have hfree := refresh.free_le_started
  unfold IsCancelled
  cases refresh.round.preference <;> simp <;> omega

/-- A refresh starts after the cancellation exactly if it is contested. -/
theorem lt_started_iff (h : ¬refresh.IsCancelled cancel) :
    cancel < refresh.started ↔ refresh.IsContested cancel := by
  have hdue := refresh.deadline_le_started
  constructor
  · intro hlate
    rcases not_isCancelled_iff.mp h with hbefore | ⟨hstarted, -⟩
    · omega
    · exact ⟨by omega, by omega⟩
  · intro hcontested
    exact started_of_isContested hcontested ▸ hcontested.1

/-- A contested refresh that is not cancelled has been preferred. -/
theorem preference_of_isContested (h : ¬refresh.IsCancelled cancel)
    (hcontested : refresh.IsContested cancel) : refresh.round.preference = .tick := by
  rcases not_isCancelled_iff.mp h with hbefore | ⟨-, htick⟩
  · exact absurd hbefore (Nat.lt_asymm ((lt_started_iff h).mpr hcontested))
  · exact htick

theorem le_started_of_isCancelled (h : refresh.IsCancelled cancel) : cancel ≤ refresh.started := by
  rcases h with hlater | ⟨hsame, -⟩ <;> omega

/-- A contested refresh that is cancelled has not been. -/
theorem preference_of_isCancelled (h : refresh.IsCancelled cancel)
    (hcontested : refresh.IsContested cancel) : refresh.round.preference = .cancellation := by
  have hstarted := started_of_isContested hcontested
  rcases h with hlater | ⟨-, hpreference⟩
  · omega
  · exact hpreference

end Refreshed

open Refreshed

/-- The next refresh starts before the loop can be stopped, or with it and preferred. -/
theorem coming_not_isCancelled_iff (loop : RefreshLoop) (cancel : Nat) (round : Round) :
    ¬(loop.coming round).IsCancelled cancel ↔
      loop.ticker.due loop.now < max loop.now cancel ∨
        loop.ticker.due loop.now = max loop.now cancel ∧ round.preference = .tick := by
  have hfree := (loop.coming round).free_le_started
  have hlt : (loop.coming round).started < cancel ↔
      (loop.coming round).started < max (loop.coming round).free cancel := by omega
  rw [not_isCancelled_iff, hlt]
  rfl

theorem nextStart?_of_isCancelled {round : Round}
    (h : (loop.coming round).IsCancelled cancel) :
    loop.nextStart? (some cancel) round.preference = none :=
  if_neg (mt (loop.coming_not_isCancelled_iff cancel round).mpr (not_not_intro h))

theorem nextStart?_of_not_isCancelled {round : Round}
    (h : ¬(loop.coming round).IsCancelled cancel) :
    loop.nextStart? (some cancel) round.preference = some (loop.coming round).started :=
  if_pos ((loop.coming_not_isCancelled_iff cancel round).mp h)

/-- A cancelled loop starts the refreshes of one that nobody cancels, up to the first one that is
cancelled, and ends when it sees the cancellation there. -/
theorem exists_cut (loop : RefreshLoop) (cancel : Nat) (rounds : List Round) :
    ∃ begun rest, loop.refreshes rounds = begun ++ rest ∧
      loop.starts (some cancel) rounds = begun.map started ∧
      loop.endsAt? (some cancel) rounds = rest.head?.map (max ·.free cancel) ∧
      (∀ refresh ∈ begun, ¬refresh.IsCancelled cancel) ∧
      ∀ next, rest.head? = some next → next.IsCancelled cancel := by
  -- the loop after a refresh is a loop of its own, so the induction is over the rounds for all
  -- loops
  induction rounds generalizing loop with
  | nil => exact ⟨[], [], rfl, rfl, rfl, List.forall_mem_nil _, nofun⟩
  | cons round rounds ih =>
    by_cases hcancelled : (loop.coming round).IsCancelled cancel
    · have hnext := nextStart?_of_isCancelled hcancelled
      -- the loop ends before this refresh, which is the first that is left
      refine ⟨[], loop.refreshes (round :: rounds), rfl, ?_, ?_, List.forall_mem_nil _, ?_⟩
      · rw [starts, hnext, List.map_nil]
      · rw [endsAt?, hnext]
        rfl
      · intro next hhead
        obtain rfl := Option.some.inj hhead
        exact hcancelled
    · have hnext := nextStart?_of_not_isCancelled hcancelled
      obtain ⟨begun, rest, hsplit, hstarts, hends, hbegun, hrest⟩ :=
        ih (loop.afterRefresh (loop.coming round).started round.lasting)
      refine ⟨loop.coming round :: begun, rest, ?_, ?_, ?_,
        List.forall_mem_cons.mpr ⟨hcancelled, hbegun⟩, hrest⟩
      · exact congrArg (loop.coming round :: ·) hsplit
      · rw [starts, hnext, List.map_cons, ← hstarts]
      · rw [endsAt?, hnext, ← hends]

/-! ## Cancelled loops -/

/-- The end of the last refresh, or the start of a loop that has had none. -/
def lastEnd (now : Nat) (begun : List Refreshed) : Nat :=
  (begun.getLast?.map ended).getD now

/-- The loop is there for the next refresh at the end of the one before. -/
theorem free_eq_lastEnd {begun rest : List Refreshed} {next : Refreshed}
    (h : loop.refreshes rounds = begun ++ next :: rest) :
    next.free = lastEnd loop.now begun := by
  rcases first_or_follows h with ⟨rfl, hfree, -⟩ | ⟨earlier, hlast, hfollows⟩
  · exact hfree
  · rw [hfollows.free, lastEnd, hlast]
    rfl

/-- How a cancellation cuts the refreshes of a loop into those that start and those that do not. -/
structure Cut (cancel : Nat) (begun rest : List Refreshed) : Prop where
  /-- Of those that start, the contested ones start after the cancellation. -/
  late : ∀ refresh ∈ begun, cancel < refresh.started ↔ refresh.IsContested cancel
  /-- They start right at the end of the refresh before, because the loop takes up the tick. -/
  taken : ∀ refresh ∈ begun, refresh.IsContested cancel →
    refresh.started = refresh.free ∧ refresh.round.preference = .tick
  /-- The first one that does not start would not have started before the cancellation, and if it is
  contested, the loop takes up the cancellation. -/
  given : ∀ next, rest.head? = some next →
    cancel ≤ next.started ∧ (next.IsContested cancel → next.round.preference = .cancellation)

/-- What has begun and what is left of a loop are cut where the first refresh is cancelled. -/
theorem cut_of_isCancelled {begun rest : List Refreshed}
    (hbegun : ∀ refresh ∈ begun, ¬refresh.IsCancelled cancel)
    (hrest : ∀ next, rest.head? = some next → next.IsCancelled cancel) :
    Cut cancel begun rest where
  late refresh hmem := lt_started_iff (hbegun refresh hmem)
  taken refresh hmem hcontested :=
    ⟨started_of_isContested hcontested, preference_of_isContested (hbegun refresh hmem) hcontested⟩
  given next hhead :=
    ⟨le_started_of_isCancelled (hrest next hhead), preference_of_isCancelled (hrest next hhead)⟩

theorem round_mem (h : refresh ∈ loop.refreshes rounds) : refresh.round ∈ rounds :=
  loop.map_round_refreshes rounds ▸ List.mem_map_of_mem h

/-- Every refresh is the first one or follows an earlier one. -/
theorem first_or_follows_of_mem (h : refresh ∈ loop.refreshes rounds) :
    (refresh.free = loop.now ∧ refresh.deadline = loop.ticker.deadline) ∨
      ∃ earlier ∈ loop.refreshes rounds, Follows loop.ticker.period earlier refresh := by
  obtain ⟨before, after, hsplit⟩ := List.append_of_mem h
  rcases first_or_follows hsplit with ⟨-, hfirst⟩ | ⟨earlier, hlast, hfollows⟩
  · exact .inl hfirst
  · exact .inr ⟨earlier, hsplit ▸ List.mem_append_left _ (List.mem_of_getLast? hlast), hfollows⟩

/-- Refreshes that end before the next tick is due are not followed by a contested one. -/
theorem not_isContested_of_short (hnow : now ≤ cancel)
    (hshort : ∀ round ∈ rounds, round.lasting + Ticker.tolerance < period)
    (h : refresh ∈ (start period now).refreshes rounds) : ¬refresh.IsContested cancel := by
  rintro ⟨hlate, hdue⟩
  rcases first_or_follows_of_mem h with ⟨hfree, -⟩ | ⟨earlier, hmem, hfollows⟩
  · exact absurd hlate (Nat.not_lt.mpr (hfree ▸ hnow))
  · have hlasting := hshort _ (round_mem hmem)
    have hfree : refresh.free = earlier.started + earlier.round.lasting := hfollows.free
    have hnext : earlier.started + period ≤ refresh.deadline + Ticker.tolerance :=
      hfollows.deadline_bounds.1
    omega

/-- After a refresh that lasts for a period or longer, the next tick is due. -/
theorem deadline_le_free_of_long (hlong : ∀ round ∈ rounds, period ≤ round.lasting)
    (h : refresh ∈ (start period now).refreshes rounds) : refresh.deadline ≤ refresh.free := by
  rcases first_or_follows_of_mem h with ⟨hfree, hdeadline⟩ | ⟨earlier, hmem, hfollows⟩
  · exact (hdeadline.trans hfree.symm).le
  · have hlasting := hlong _ (round_mem hmem)
    have hfree : refresh.free = earlier.started + earlier.round.lasting := hfollows.free
    have hnext : refresh.deadline ≤ earlier.started + period := hfollows.deadline_bounds.2
    omega

/-- A refresh that is due when the loop gets free is not cancelled if ticks are preferred. -/
theorem not_isCancelled_of_due (hdue : refresh.deadline ≤ refresh.free)
    (htick : refresh.round.preference = .tick) : ¬refresh.IsCancelled cancel := by
  have hstarted : refresh.started = refresh.free := Nat.max_eq_left hdue
  rw [not_isCancelled_iff]
  rcases Nat.lt_or_ge refresh.started cancel with hbefore | hlate
  · exact .inl hbefore
  · exact .inr ⟨by omega, htick⟩

/-- A cancelled loop starts the refreshes of one that nobody cancels, as far as the cut, and ends at
the cancellation or, if that is later, at the end of its last refresh. A refresh starts after the
cancellation only if it is contested and the loop takes up the tick. So none does if the loop takes
up the cancellation first, or if all refreshes end before the next tick is due; but if it takes up
the ticks first, and no refresh ends before, the loop goes on for ever. -/
theorem starts_until_cancelled (period now cancel : Nat) (rounds : List Round) :
    let loop := start period now
    (∃ begun rest, loop.refreshes rounds = begun ++ rest ∧
      loop.starts (some cancel) rounds = begun.map started ∧
      loop.endsAt? (some cancel) rounds
        = rest.head?.map (fun _ => max (lastEnd now begun) cancel) ∧
      Cut cancel begun rest) ∧
    ((∀ round ∈ rounds, round.preference = .cancellation) ∨
        now ≤ cancel ∧ (∀ round ∈ rounds, round.lasting + 5 < period) →
      ∀ started ∈ loop.starts (some cancel) rounds, started ≤ cancel) ∧
    ((∀ round ∈ rounds, round.preference = .tick ∧ period ≤ round.lasting) →
      loop.starts (some cancel) rounds = loop.starts none rounds) := by
  intro loop
  -- the refreshes are those that would start without a cancellation, up to the cut
  obtain ⟨begun, rest, hsplit, hstarts, hends, hbegun, hrest⟩ := exists_cut loop cancel rounds
  have hcut := cut_of_isCancelled hbegun hrest
  have hbegunMem : ∀ refresh ∈ begun, refresh ∈ loop.refreshes rounds := fun refresh hmem =>
    hsplit ▸ List.mem_append_left rest hmem
  refine ⟨⟨begun, rest, hsplit, hstarts, ?_, hcut⟩, fun hkept => ?_, fun hlong => ?_⟩
  · -- the loop ends when it gets free, and no earlier than the cancellation
    rw [hends]
    cases rest with
    | nil => rfl
    | cons next rest =>
      have hfree : next.free = lastEnd now begun := free_eq_lastEnd hsplit
      simp only [List.head?_cons, Option.map_some, hfree]
  · -- a refresh that starts later would be contested
    have hnone : ∀ refresh ∈ begun, ¬refresh.IsContested cancel := by
      rcases hkept with hprefers | ⟨hnow, hshort⟩
      · -- a contested refresh that began was preferred, against what all rounds prefer
        intro refresh hmem hcontested
        have htick := (hcut.taken refresh hmem hcontested).2
        rw [hprefers _ (round_mem (hbegunMem refresh hmem))] at htick
        cases htick
      · -- short refreshes leave the loop waiting for its ticks, so none is contested
        exact fun refresh hmem => not_isContested_of_short hnow hshort (hbegunMem refresh hmem)
    rw [hstarts]
    intro moment hmoment
    obtain ⟨refresh, hmem, rfl⟩ := List.mem_map.mp hmoment
    exact Nat.not_lt.mp (mt (hcut.late refresh hmem).mp (hnone refresh hmem))
  · -- nothing is cancelled, so all refreshes start
    have hall : rest = [] := by
      rw [← List.head?_eq_none_iff, Option.eq_none_iff_forall_ne_some]
      intro next hhead
      -- the first refresh that is left would be cancelled, but it is due at once and preferred
      have hmem : next ∈ loop.refreshes rounds :=
        hsplit ▸ List.mem_append_right begun (List.mem_of_head? hhead)
      exact not_isCancelled_of_due
        (deadline_le_free_of_long (fun round hround => (hlong round hround).2) hmem)
        (hlong _ (round_mem hmem)).1 (hrest next hhead)
    rw [hstarts, starts_none, hsplit, hall, List.append_nil]

/-- A refresh that takes longer than the period, and two that do not. -/
def overrunning (preference : Preference) : List Round :=
  [⟨preference, 1500, .ok ()⟩, ⟨preference, 100, .ok ()⟩, ⟨preference, 100, .ok ()⟩]

theorem starts_until_cancelled_sample :
    (∀ moment ∈ (start 1000 0).starts (some 1200) (overrunning .cancellation), moment ≤ 1200) ∧
      (∀ moment ∈ (start 2000 0).starts (some 1200) (overrunning .tick), moment ≤ 1200) ∧
      (start 100 0).starts (some 1200) (overrunning .tick) =
        (start 100 0).starts none (overrunning .tick) :=
  ⟨(starts_until_cancelled 1000 0 1200 (overrunning .cancellation)).2.1 (.inl (by decide)),
    (starts_until_cancelled 2000 0 1200 (overrunning .tick)).2.1 (.inr (by decide)),
    (starts_until_cancelled 100 0 1200 (overrunning .tick)).2.2 (by decide)⟩

/-- A loop that is cancelled during its first refresh and takes up the tick that is due at the end
of it: there is another refresh, and the loop ends only after that. -/
theorem not_always_last :
    (start 1000 0).starts (some 1200) (overrunning .tick) = [0, 1500] ∧
      (start 1000 0).endsAt? (some 1200) (overrunning .tick) = some 1600 := by
  decide

end RefreshLoop

end VparFleet
