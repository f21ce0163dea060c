import VparFleet.Proofs.Tasks.History

/-!
# The refresh guard in a run

Who keeps a report or counts it does so under the guard. So the report that is kept is always the
last one, and all kept reports are counted, but for one that the holder of the guard is about to
count.

* `guards`, `uncounted`: whether a task holds the guard, and what it has kept and not counted yet,
  read from its history.
* `published`, `bumps`: the reports that were kept, and how many of them were counted.
* `GuardRule`: the rule of the guard.
* `Guarded`: how histories and what is shared fit together; every step keeps it.
* `Run.guarded`, `Guarded.holder_unique`: what that means for a run.
-/

namespace VparFleet

/-! ## Read from histories -/

/-- Whether the guard is held after one more exchange. -/
def Exchange.guarding (before : Bool) (exchange : Exchange) : Bool :=
  match exchange.action with
  | .lockRefresh => true
  | .unlockRefresh => false
  | _ => before

/-- Whether a task holds the refresh guard: it has taken it and not given it back. -/
def guards (past : List Exchange) : Bool :=
  past.foldl Exchange.guarding false

/-- The report that waits to be counted after one more exchange. -/
def Exchange.counting (before : Option RefreshReport) (exchange : Exchange) :
    Option RefreshReport :=
  match exchange.action with
  | .publish report => some report
  | .bumpGeneration => none
  | _ => before

/-- The report that a task has kept and not counted yet. -/
def uncounted (past : List Exchange) : Option RefreshReport :=
  past.foldl Exchange.counting none

/-- The report that a happening keeps. -/
def Action.published? : Action → Option RefreshReport
  | .publish report => some report
  | _ => none

/-- Whether an action counts a report. -/
def Action.isBump : Action → Bool
  | .bumpGeneration => true
  | _ => false

/-- What the rule allows: nothing is kept or counted without the guard, every report is counted
before the next one is kept and before the guard is given back. -/
def GuardRule (past : List Exchange) : Action → Prop
  | .publish _ => guards past = true ∧ uncounted past = none
  | .bumpGeneration => guards past = true ∧ uncounted past ≠ none
  | .unlockRefresh => guards past = true ∧ uncounted past = none
  | _ => True

/-- Whether an action has to do with the guard, the kept report or the count. -/
def Action.isRefreshing : Action → Bool
  | .lockRefresh => true
  | .unlockRefresh => true
  | .publish _ => true
  | .bumpGeneration => true
  | _ => false

theorem Exchange.guarding_of_not_isRefreshing {exchange : Exchange} {before : Bool}
    (h : exchange.action.isRefreshing = false) : exchange.guarding before = before := by
  obtain ⟨action, reply⟩ := exchange
  cases action <;> first | rfl | exact nomatch h

theorem Action.published?_of_not_isRefreshing {action : Action} (h : action.isRefreshing = false) :
    action.published? = none := by
  cases action <;> first | rfl | exact nomatch h

theorem Action.isBump_of_not_isRefreshing {action : Action} (h : action.isRefreshing = false) :
    action.isBump = false := by
  cases action <;> first | rfl | exact nomatch h

theorem Exchange.counting_of_not_isRefreshing {exchange : Exchange} {before : Option RefreshReport}
    (h : exchange.action.isRefreshing = false) : exchange.counting before = before := by
  obtain ⟨action, reply⟩ := exchange
  cases action <;> first | rfl | exact nomatch h

/-- A fold that passes over every exchange gives back what it starts with. -/
theorem foldl_exchanges {β : Type} {f : β → Exchange → β} {more : List Exchange}
    (h : ∀ exchange ∈ more, ∀ b, f b exchange = b) (b : β) : more.foldl f b = b := by
  induction more with
  | nil => rfl
  | cons exchange more ih =>
    obtain ⟨hfirst, hrest⟩ := List.forall_mem_cons.mp h
    rw [List.foldl_cons, hfirst]
    exact ih hrest

theorem guards_concat (past : List Exchange) (exchange : Exchange) :
    guards (past ++ [exchange]) = exchange.guarding (guards past) :=
  List.foldl_append

theorem uncounted_concat (past : List Exchange) (exchange : Exchange) :
    uncounted (past ++ [exchange]) = exchange.counting (uncounted past) :=
  List.foldl_append

/-- What has nothing to do with the guard changes nothing about who holds it. -/
theorem guards_append {past more : List Exchange}
    (h : ∀ exchange ∈ more, exchange.action.isRefreshing = false) :
    guards (past ++ more) = guards past := by
  rw [guards, List.foldl_append]
  exact foldl_exchanges (fun exchange hmem _ =>
    Exchange.guarding_of_not_isRefreshing (h exchange hmem)) _

/-- Exchanges about other things count nothing. -/
theorem uncounted_append {past more : List Exchange}
    (h : ∀ exchange ∈ more, exchange.action.isRefreshing = false) :
    uncounted (past ++ more) = uncounted past := by
  rw [uncounted, List.foldl_append]
  exact foldl_exchanges (fun exchange hmem _ =>
    Exchange.counting_of_not_isRefreshing (h exchange hmem)) _

/-- Who has taken the guard holds it as long as it does not give it back. -/
theorem guards_of_kept {past more : List Exchange} (hg : guards past = true)
    (hkept : ∀ exchange ∈ more, exchange.action ≠ .unlockRefresh) :
    guards (past ++ more) = true := by
  induction more generalizing past with
  | nil =>
    rw [List.append_nil]
    exact hg
  | cons exchange more ih =>
    obtain ⟨hfirst, hrest⟩ := List.forall_mem_cons.mp hkept
    rw [List.append_cons]
    refine ih ?_ hrest
    -- the first exchange takes the guard or leaves it where it is
    rw [guards_concat]
    obtain ⟨action, reply⟩ := exchange
    cases action with
    | lockRefresh => rfl
    | unlockRefresh => exact absurd rfl hfirst
    | _ => exact hg

/-! ## What is shared -/

namespace Shared

variable {shared shared' : Shared} {task : Nat}

/-- The line for the guard after a task has got in line. -/
def guardLine (shared : Shared) (task : Nat) : List Nat :=
  if shared.refreshers.contains task then shared.refreshers else shared.refreshers ++ [task]

/-- Locks on names have nothing to do with the guard. -/
theorem lockName_guard (shared : Shared) (task : Nat) (name : String) :
    (shared.lockName task name).2.refreshers = shared.refreshers ∧
      (shared.lockName task name).2.cached = shared.cached ∧
        (shared.lockName task name).2.generation = shared.generation := by
  unfold lockName
  dsimp only
  split <;> exact ⟨rfl, rfl, rfl⟩

/-- Whoever is first in line stays first. -/
theorem head?_guardLine {first : Nat} (h : shared.refreshers.head? = some first) :
    (shared.guardLine task).head? = some first := by
  unfold guardLine
  split
  · exact h
  · rw [List.head?_append, h]
    rfl

/-- The guard is given to the first in line. -/
theorem answer_lockRefresh {reply : Unit}
    (h : shared.answer task .lockRefresh = .reply reply shared') :
    (shared.guardLine task).head? = some task ∧
      shared' = { shared with refreshers := shared.guardLine task } := by
  rw [answer] at h
  dsimp only [lockRefresh] at h
  rw [← guardLine] at h
  split at h
  · next hfirst =>
    injection h with _ h
    exact ⟨of_decide_eq_true hfirst, h.symm⟩
  · exact nomatch h

/-- Who waits gets in line for the guard, or waits for a name. -/
theorem answer_wait_guard {action : Action} (h : shared.answer task action = .wait shared') :
    (shared'.refreshers = shared.refreshers ∨ shared'.refreshers = shared.guardLine task) ∧
      shared'.cached = shared.cached ∧ shared'.generation = shared.generation := by
  cases action with
  | lockRefresh =>
    rw [answer] at h
    dsimp only [lockRefresh] at h
    rw [← guardLine] at h
    split at h
    · -- whoever is the first in line does not wait
      exact nomatch h
    · injection h with h
      rw [← h]
      exact ⟨Or.inr rfl, rfl, rfl⟩
  | lockName name =>
    rw [answer] at h
    dsimp only at h
    split at h
    · exact nomatch h
    · injection h with h
      rw [← h]
      exact ⟨Or.inl (lockName_guard shared task name).1, (lockName_guard shared task name).2⟩
  | _ => exact nomatch h

/-- Other actions leave guard, kept report and count alone. -/
theorem answer_not_refreshing {action : Action} {reply : action.Reply}
    (h : shared.answer task action = .reply reply shared') (hl : action.isRefreshing = false) :
    shared'.refreshers = shared.refreshers ∧ shared'.cached = shared.cached ∧
      shared'.generation = shared.generation := by
  -- the four actions about refreshes are left out, and of the others only a name changes anything
  cases action with
  | lockRefresh | unlockRefresh | publish | bumpGeneration => exact nomatch hl
  | lockName name =>
    rw [answer] at h
    dsimp only at h
    split at h
    · injection h with _ h
      rw [← h]
      exact lockName_guard shared task name
    · exact nomatch h
  | run | openConsole | send | waitForPrompt | closeConsole | pause | clock => exact nomatch h
  | _ =>
    injection h with _ h
    rw [← h]
    exact ⟨rfl, rfl, rfl⟩

end Shared

namespace Tasks

/-! ## Histories of several tasks -/

/-- The reports that were kept, in order. -/
def published (happenings : List Happening) : List RefreshReport :=
  happenings.filterMap (·.action.published?)

/-- How many reports were counted. -/
def bumps (happenings : List Happening) : Nat :=
  happenings.countP (·.action.isBump)

theorem published_concat (past : List Happening) (x : Happening) :
    published (past ++ [x]) = published past ++ x.action.published?.toList := by
  rw [published, List.filterMap_append]
  cases h : x.action.published? <;> simp [published, h]

theorem bumps_append (first second : List Happening) :
    bumps (first ++ second) = bumps first + bumps second :=
  List.countP_append

theorem published_kept {x : Happening} (h : x.action.published? = none) (past : List Happening) :
    published (past ++ [x]) = published past := by
  rw [published_concat, h]
  exact List.append_nil _

theorem bumps_kept {x : Happening} (h : x.action.isBump = false) (past : List Happening) :
    bumps (past ++ [x]) = bumps past := by
  rw [bumps, List.countP_append, List.countP_singleton, h]
  rfl

/-- What is read from the history of a task, after one more happening. -/
theorem foldl_own {β : Type} (f : β → Exchange → β) (b : β) (past : List Happening) (x : Happening)
    (i : Nat) :
    (own i (past ++ [x])).foldl f b =
      if x.task = i then f ((own i past).foldl f b) x.exchange else (own i past).foldl f b := by
  rw [own_append, List.foldl_append]
  by_cases h : x.task = i
  · subst h
    rw [own_cons_self, if_pos rfl]
    rfl
  · rw [own_cons_ne h, own_nil, if_neg h]
    rfl

theorem guards_own (past : List Happening) (x : Happening) (i : Nat) :
    guards (own i (past ++ [x])) =
      if x.task = i then x.exchange.guarding (guards (own i past)) else guards (own i past) :=
  foldl_own Exchange.guarding false past x i

theorem uncounted_own (past : List Happening) (x : Happening) (i : Nat) :
    uncounted (own i (past ++ [x])) =
      if x.task = i then x.exchange.counting (uncounted (own i past)) else uncounted (own i past) :=
  foldl_own Exchange.counting none past x i

theorem guards_own_kept {x : Happening} (h : ∀ before, x.exchange.guarding before = before)
    (past : List Happening) (i : Nat) : guards (own i (past ++ [x])) = guards (own i past) := by
  rw [guards_own, h, ite_self]

theorem uncounted_own_kept {x : Happening} (h : ∀ before, x.exchange.counting before = before)
    (past : List Happening) (i : Nat) :
    uncounted (own i (past ++ [x])) = uncounted (own i past) := by
  rw [uncounted_own, h, ite_self]

/-! ## The invariant -/

/-- What histories and the state of refreshes have to do with each other between two steps. -/
structure Guarded (past : List Happening) (shared : Shared) : Prop where
  /-- Who holds the guard is the first in line. -/
  holder : ∀ i, guards (own i past) = true → shared.refreshers.head? = some i
  /-- Every count is one report. -/
  generation : shared.generation = bumps past
  /-- What is kept is the last report. -/
  cached : shared.cached = (published past).getLast?
  /-- All reports are counted when no task is about to count one. -/
  counted : (∀ i, uncounted (own i past) = none) → (published past).length = bumps past
  /-- A task that is about to count a report holds the guard, and all other reports are counted. -/
  counting : ∀ i report, uncounted (own i past) = some report → guards (own i past) = true ∧
    (published past).getLast? = some report ∧ (published past).length = bumps past + 1

variable {α : Type} {start tasks next last : Tasks α} {past happenings : List Happening}
  {x : Happening} {i j : Nat} {shared shared' : Shared}

namespace Guarded

theorem holder_unique (h : Guarded past shared) (hi : guards (own i past) = true)
    (hj : guards (own j past) = true) : i = j :=
  Option.some.inj ((h.holder i hi).symm.trans (h.holder j hj))

/-- Nothing that has to do with the guard was done, and the line is as it was or longer. -/
theorem other (h : Guarded past shared) (hx : x.action.isRefreshing = false)
    (hline : ∀ first, shared.refreshers.head? = some first →
      shared'.refreshers.head? = some first)
    (hcached : shared'.cached = shared.cached) (hgen : shared'.generation = shared.generation) :
    Guarded (past ++ [x]) shared' := by
  -- none of the four measures of the history changes
  have hguards := guards_own_kept (x := x)
    (fun _ => Exchange.guarding_of_not_isRefreshing hx) past
  have huncounted := uncounted_own_kept (x := x)
    (fun _ => Exchange.counting_of_not_isRefreshing hx) past
  have hpublished := published_kept (Action.published?_of_not_isRefreshing hx) past
  have hbumps := bumps_kept (Action.isBump_of_not_isRefreshing hx) past
  refine ⟨?_, ?_, ?_, ?_, ?_⟩
  · intro i hi
    rw [hguards] at hi
    exact hline i (h.holder i hi)
  · rw [hgen, hbumps, h.generation]
  · rw [hcached, hpublished, h.cached]
  · simp only [huncounted, hpublished, hbumps]
    exact h.counted
  · simp only [huncounted, hguards, hpublished, hbumps]
    exact h.counting

/-- The first in line takes the guard. -/
theorem take (h : Guarded past shared) (hfirst : (shared.guardLine i).head? = some i) :
    Guarded (past ++ [⟨i, .lockRefresh, ()⟩])
      { shared with refreshers := shared.guardLine i } := by
  have huncounted := uncounted_own_kept (x := ⟨i, .lockRefresh, ()⟩) (fun _ => rfl) past
  have hpublished := published_kept (x := ⟨i, .lockRefresh, ()⟩) rfl past
  have hbumps := bumps_kept (x := ⟨i, .lockRefresh, ()⟩) rfl past
  refine ⟨?_, ?_, ?_, ?_, ?_⟩
  · -- whoever held the guard before is still the first in line
    intro j hj
    rw [guards_own] at hj
    by_cases hij : i = j
    · rw [← hij]
      exact hfirst
    · rw [if_neg (by exact hij)] at hj
      exact Shared.head?_guardLine (h.holder j hj)
  · rw [hbumps, ← h.generation]
  · rw [hpublished, ← h.cached]
  · simp only [huncounted, hpublished, hbumps]
    exact h.counted
  · intro j report hj
    rw [huncounted] at hj
    obtain ⟨hguards, hlast, hlength⟩ := h.counting j report hj
    rw [guards_own, hpublished, hbumps]
    refine ⟨?_, hlast, hlength⟩
    split
    · rfl
    · exact hguards

/-- The guard is given back. Nobody else holds it then. -/
theorem giveBack (h : Guarded past shared) (hi : guards (own i past) = true)
    (hu : uncounted (own i past) = none) :
    Guarded (past ++ [⟨i, .unlockRefresh, ()⟩])
      { shared with refreshers := shared.refreshers.drop 1 } := by
  have huncounted := uncounted_own_kept (x := ⟨i, .unlockRefresh, ()⟩) (fun _ => rfl) past
  have hpublished := published_kept (x := ⟨i, .unlockRefresh, ()⟩) rfl past
  have hbumps := bumps_kept (x := ⟨i, .unlockRefresh, ()⟩) rfl past
  refine ⟨?_, ?_, ?_, ?_, ?_⟩
  · intro j hj
    rw [guards_own] at hj
    by_cases hij : i = j
    · rw [if_pos (by exact hij)] at hj
      exact nomatch hj
    · rw [if_neg (by exact hij)] at hj
      exact absurd (h.holder_unique hi hj) hij
  · rw [hbumps, ← h.generation]
  · rw [hpublished, ← h.cached]
  · simp only [huncounted, hpublished, hbumps]
    exact h.counted
  · intro j report hj
    rw [huncounted] at hj
    -- only the holder could have a report to count, and it has none
    obtain rfl := h.holder_unique hi (h.counting j report hj).1
    exact nomatch hu.symm.trans hj

/-- A report is kept. -/
theorem keep (h : Guarded past shared) (report : RefreshReport) (hi : guards (own i past) = true)
    (hu : uncounted (own i past) = none) :
    Guarded (past ++ [⟨i, .publish report, ()⟩]) { shared with cached := some report } := by
  have hpublished :
      published (past ++ [⟨i, .publish report, ()⟩]) = published past ++ [report] :=
    published_concat _ _
  have hbumps := bumps_kept (x := ⟨i, .publish report, ()⟩) rfl past
  have hguards := guards_own_kept (x := ⟨i, .publish report, ()⟩) (fun _ => rfl) past
  -- whoever is about to count a report holds the guard, so nobody is
  have hnone (j : Nat) : uncounted (own j past) = none := by
    cases hj : uncounted (own j past) with
    | none => rfl
    | some other =>
      obtain rfl := h.holder_unique hi (h.counting j other hj).1
      exact hj.symm.trans hu
  refine ⟨?_, ?_, ?_, ?_, ?_⟩
  · intro j hj
    rw [hguards] at hj
    exact h.holder j hj
  · rw [hbumps, ← h.generation]
  · rw [hpublished, List.getLast?_concat]
  · intro hall
    have hself := hall i
    rw [uncounted_own, if_pos (by rfl)] at hself
    exact nomatch hself
  · intro j other hj
    rw [uncounted_own] at hj
    by_cases hij : i = j
    · rw [if_pos (by exact hij)] at hj
      obtain rfl : report = other := Option.some.inj hj
      subst hij
      rw [hguards, hpublished, hbumps, List.getLast?_concat, List.length_append,
        h.counted hnone]
      exact ⟨hi, rfl, rfl⟩
    · rw [if_neg (by exact hij), hnone] at hj
      exact nomatch hj

/-- A report is counted. -/
theorem count (h : Guarded past shared) (hi : guards (own i past) = true)
    (hu : uncounted (own i past) ≠ none) :
    Guarded (past ++ [⟨i, .bumpGeneration, ()⟩])
      { shared with generation := shared.generation + 1 } := by
  have hpublished := published_kept (x := ⟨i, .bumpGeneration, ()⟩) rfl past
  have hbumps : bumps (past ++ [⟨i, .bumpGeneration, ()⟩]) = bumps past + 1 := bumps_append _ _
  have hguards := guards_own_kept (x := ⟨i, .bumpGeneration, ()⟩) (fun _ => rfl) past
  refine ⟨?_, ?_, ?_, ?_, ?_⟩
  · intro j hj
    rw [hguards] at hj
    exact h.holder j hj
  · rw [hbumps, ← h.generation]
  · rw [hpublished, ← h.cached]
  · intro _
    obtain ⟨report, hreport⟩ := Option.ne_none_iff_exists'.mp hu
    rw [hpublished, hbumps]
    exact (h.counting i report hreport).2.2
  · -- who has another report to count would hold the guard, too
    intro j report hj
    rw [uncounted_own] at hj
    by_cases hij : i = j
    · rw [if_pos (by exact hij)] at hj
      exact nomatch hj
    · rw [if_neg (by exact hij)] at hj
      exact absurd (h.holder_unique hi (h.counting j report hj).1) hij

/-- Whoever waits changes nothing but the end of the line. -/
theorem wait (h : Guarded past shared) (hline : ∀ first, shared.refreshers.head? = some first →
      shared'.refreshers.head? = some first)
    (hcached : shared'.cached = shared.cached) (hgen : shared'.generation = shared.generation) :
    Guarded past shared' where
  holder i hi := hline i (h.holder i hi)
  generation := hgen.trans h.generation
  cached := hcached.trans h.cached
  counted := h.counted
  counting := h.counting

/-- Every step that keeps the rule keeps the invariant. -/
theorem step {happening : Option Happening} (h : Guarded past tasks.shared)
    (hs : Step tasks happening next)
    (hr : ∀ x, happening = some x → GuardRule (own x.task past) x.action) :
    Guarded (past ++ happening.toList) next.shared := by
  cases hs with
  | @inside i action k reply shared' hp ha =>
    have hr := hr _ rfl
    cases hl : action.isRefreshing with
    | false =>
      obtain ⟨hline, hcached, hgen⟩ := Shared.answer_not_refreshing ha hl
      exact h.other (x := ⟨i, action, reply⟩) hl (fun first hfirst => hline ▸ hfirst) hcached hgen
    | true =>
      cases action with
      | lockRefresh =>
        obtain ⟨hfirst, rfl⟩ := Shared.answer_lockRefresh ha
        exact h.take hfirst
      | unlockRefresh =>
        injection ha with _ ha
        rw [← ha]
        exact h.giveBack hr.1 hr.2
      | publish report =>
        injection ha with _ ha
        rw [← ha]
        exact h.keep report hr.1 hr.2
      | bumpGeneration =>
        injection ha with _ ha
        rw [← ha]
        exact h.count hr.1 hr.2
      | _ => exact nomatch hl
  | @outside i action k reply hp ha =>
    -- the guard, the kept report and the count are never up to the hosts
    have hl : action.isRefreshing = false := by
      cases action with
      | lockRefresh =>
        rw [Shared.answer] at ha
        dsimp only at ha
        split at ha <;> exact nomatch ha
      | unlockRefresh | publish | bumpGeneration => exact nomatch ha
      | _ => rfl
    exact h.other (x := ⟨i, action, reply⟩) hl (fun _ => id) rfl rfl
  | @wait i action k shared' hp ha =>
    obtain ⟨hline, hcached, hgen⟩ := Shared.answer_wait_guard ha
    rw [Option.toList_none, List.append_nil]
    refine h.wait (fun first hfirst => ?_) hcached hgen
    rcases hline with hline | hline
    · exact hline ▸ hfirst
    · exact hline ▸ Shared.head?_guardLine hfirst

end Guarded

/-- At the start nobody holds the guard and no report is kept. -/
theorem guarded_start (store : Store) : Guarded [] (.ofStore store) where
  holder := nofun
  generation := rfl
  cached := rfl
  counted _ := rfl
  counting := nofun

/-- When every program keeps the rule, every run keeps the invariant. -/
theorem Run.guarded {store : Store} {goal : List Exchange → α → Prop}
    (run : Run start happenings last) (hstart : start.shared = .ofStore store)
    (hrule : ∀ p ∈ start.programs, p.Obeys GuardRule goal []) :
    Guarded happenings last.shared := by
  -- it holds at the beginning, and every step of a program that obeys the rule keeps it
  refine run.invariant (fun past tasks => Guarded past tasks.shared) ?_ ?_
  · rw [hstart]
    exact guarded_start store
  · intro past tasks happening next hrun h hs
    refine h.step hs ?_
    rintro x rfl
    obtain ⟨k, hk, -⟩ := hs.acted
    have hi : x.task < start.programs.length := by
      rw [← hrun.programs_length]
      exact (List.getElem?_eq_some_iff.mp hk).1
    exact hrun.keeps hs (List.getElem?_eq_getElem hi) (hrule _ (List.getElem_mem hi))

end Tasks

end VparFleet
