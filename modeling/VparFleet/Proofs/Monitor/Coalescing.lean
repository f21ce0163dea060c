import VparFleet.Proofs.Controller.Serving
import VparFleet.Proofs.Monitor.UpdateCourse

/-!
# Updates side by side

Any number of updates run in any interleaving. A refresh is complete when its report has been kept
and counted. One refresh runs at a time, and who returns another one's report has waited while that
was completed.

* `Run.read_counted`: who reads the kept report finds one that was counted while it waited.
* `Coalesced`: what holds at any time.
* `updates_coalesced`: for all runs.
-/

namespace VparFleet

open Tasks

namespace Monitor

variable (m : Monitor)

/-- A number of updates, before the first has begun. -/
def updates (store : Store) (n : Nat) : Tasks (Outcome RefreshReport) where
  shared := .ofStore store
  programs := List.replicate n m.update.run

/-- In the middle of a refresh: nothing was counted before the guard was taken, and the guard is
still held. -/
def Cycling (past : List Exchange) : Prop :=
  ∃ seen rest, past = looks seen seen ++ rest ∧
    ∀ exchange ∈ rest, exchange.action ≠ .unlockRefresh

/-- A refresh that was carried out after the guard was taken with nothing counted in between. -/
def Carried (past : List Exchange) (outcome : Outcome RefreshReport) : Prop :=
  ∃ seen cycle, past = looks seen seen ++ cycle ∧ m.refresh.run.Reaches cycle (.done outcome)

/-- A refresh that was carried out and whose report was kept, so that it is left to be counted. -/
def Completes (past : List Exchange) (report : RefreshReport) : Prop :=
  ∃ before, past = before ++ [⟨.publish report, ()⟩] ∧ m.Carried before (.ok report)

end Monitor

namespace Tasks

variable {m : Monitor} {store : Store} {n : Nat} {tasks next : Tasks (Outcome RefreshReport)}
  {happenings first second past : List Happening} {x : Happening} {i j : Nat}

open Monitor

/-! ## Runs of updates -/

/-- In a run of updates the guard is kept as it has to be. -/
theorem Run.updates_guarded (run : Run (m.updates store n) happenings tasks) :
    Guarded happenings tasks.shared := by
  have hrule : ∀ p ∈ (m.updates store n).programs, p.Obeys GuardRule m.UpdateDone [] := by
    intro p hp
    obtain rfl := List.eq_of_mem_replicate hp
    exact m.update_obeys.mono (fun _ _ h => h.guard) fun _ _ h => h
  exact run.guarded rfl hrule

theorem updates_programs (hi : i < n) :
    (m.updates store n).programs[i]? = some m.update.run := by
  rw [updates, List.getElem?_replicate_of_lt hi]

/-- Whatever happens in a run of updates is allowed to an update. -/
theorem Run.update_rule (run : Run (m.updates store n) happenings tasks)
    (hs : Step tasks (some x) next) : m.UpdateRule (own x.task happenings) x.action := by
  obtain ⟨k, hk, -⟩ := hs.acted
  have hi : x.task < n := by
    rw [← List.length_replicate (n := n) (a := m.update.run)]
    exact run.programs_length ▸ (List.getElem?_eq_some_iff.mp hk).1
  exact run.keeps hs (updates_programs hi) m.update_obeys

/-- What had been done before a happening, and what allowed it. -/
theorem Run.update_at (run : Run (m.updates store n) (first ++ x :: second) tasks) :
    ∃ between next : Tasks (Outcome RefreshReport), Step between (some x) next ∧
      Guarded first between.shared ∧ m.UpdateRule (own x.task first) x.action := by
  obtain ⟨between, next, hf, hs, -⟩ := run.split_at
  exact ⟨between, next, hs, hf.updates_guarded, hf.update_rule hs⟩

/-- Who looks at the count sees how many reports were counted. -/
theorem Run.seen_eq_bumps {seen : Nat}
    (run : Run (m.updates store n) (first ++ ⟨i, .generation, seen⟩ :: second) tasks) :
    seen = bumps first := by
  obtain ⟨between, next, hs, hguarded, -⟩ := run.update_at
  rw [← hguarded.generation]
  cases hs with
  | inside hp ha =>
    injection ha with hreply _
    exact hreply.symm
  | outside hp ha => exact nomatch ha

/-- Who reads the kept report gets the last one. -/
theorem Run.known_eq_last {known : Option RefreshReport}
    (run : Run (m.updates store n) (first ++ ⟨i, .cached, known⟩ :: second) tasks) :
    known = (published first).getLast? := by
  obtain ⟨between, next, hs, hguarded, -⟩ := run.update_at
  rw [← hguarded.cached]
  cases hs with
  | inside hp ha =>
    injection ha with hreply _
    exact hreply.symm
  | outside hp ha => exact nomatch ha

/-- What was counted was counted a last time. -/
theorem exists_last_bump (h : 0 < bumps past) :
    ∃ before j after, past = before ++ ⟨j, .bumpGeneration, ()⟩ :: after ∧ bumps after = 0 := by
  induction past with
  | nil => exact nomatch h
  | cons x past ih =>
    -- the last count is a later one, if there is one
    rcases Nat.eq_zero_or_pos (bumps past) with hlater | hlater
    · -- nothing is counted later, so it is the first happening
      obtain ⟨task, action, reply⟩ := x
      cases action with
      | bumpGeneration => exact ⟨[], task, past, rfl, hlater⟩
      | _ =>
        have hnone : bumps (⟨task, _, reply⟩ :: past) = bumps past := rfl
        exact absurd h (by rw [hnone, hlater]; exact Nat.lt_irrefl 0)
    · obtain ⟨before, j, after, rfl, hafter⟩ := ih hlater
      exact ⟨x :: before, j, after, rfl, hafter⟩

/-- Who holds the guard and has no report to count meets a kept report that is counted. -/
theorem Guarded.counted_of_holder {shared : Shared} (h : Guarded past shared)
    (hi : guards (own i past) = true) (hu : uncounted (own i past) = none) :
    (published past).length = bumps past := by
  refine h.counted fun j => ?_
  cases hj : uncounted (own j past) with
  | none => rfl
  | some report =>
    obtain rfl := h.holder_unique hi (h.counting j report hj).1
    exact nomatch hu.symm.trans hj

/-- Who has looked at the count and does not hold the guard has done nothing else. -/
theorem eq_nil_of_looks {seen now : Nat} {rest more : List Exchange}
    (h : ⟨.generation, seen⟩ :: rest ++ more = looks seen now)
    (hg : guards (⟨.generation, seen⟩ :: rest) = false) : rest = [] := by
  cases rest with
  | nil => rfl
  | cons exchange rest =>
    obtain ⟨-, hafter⟩ := List.cons.inj h
    obtain ⟨rfl, hagain⟩ := List.cons.inj hafter
    -- after the guard nothing was done but to look again
    have hkept : ∀ exchange ∈ rest, exchange.action ≠ .unlockRefresh := by
      intro exchange hmem
      have hlook : exchange ∈ rest ++ more := List.mem_append_left _ hmem
      rw [show rest ++ more = [⟨.generation, now⟩] from hagain] at hlook
      rw [List.mem_singleton.mp hlook]
      exact nofun
    have hholds : guards ([⟨.generation, seen⟩, ⟨.lockRefresh, ()⟩] ++ rest) = true :=
      guards_of_kept rfl hkept
    exact nomatch hg.symm.trans hholds

/-- Between two looks at the count that saw different counts, a report was counted. -/
theorem Run.counted_between {seen now : Nat} (run : Run (m.updates store n) past tasks)
    (howned : own i past = looks seen now) (hne : seen ≠ now) :
    ∃ before j after waited, past = before ++ ⟨j, .bumpGeneration, ()⟩ :: after ∧
      bumps after = 0 ∧ own i before = ⟨.generation, seen⟩ :: waited := by
  -- back to the two looks
  have hsplit : own i past =
      [⟨.generation, seen⟩, ⟨.lockRefresh, ()⟩] ++ ⟨.generation, now⟩ :: [] := howned
  obtain ⟨first, later, rfl, hfirst, -⟩ := exists_split_of_own hsplit
  have hsplit : own i first = [] ++ ⟨.generation, seen⟩ :: [⟨.lockRefresh, ()⟩] := hfirst
  obtain ⟨earlier, waiting, rfl, hearlier, -⟩ := exists_split_of_own hsplit
  have hnow : now = bumps (earlier ++ ⟨i, .generation, seen⟩ :: waiting) := run.seen_eq_bumps
  have hseen : seen = bumps earlier := by
    rw [List.append_assoc, List.cons_append] at run
    exact run.seen_eq_bumps
  -- the count has grown in between, so there is a last report that was counted then
  have hgrown : 0 < bumps (waiting ++ ⟨i, .generation, now⟩ :: later) := by
    rw [bumps_append] at hnow ⊢
    have hlook : bumps (⟨i, .generation, seen⟩ :: waiting) = bumps waiting := rfl
    omega
  obtain ⟨before, j, after, hbump, hafter⟩ := exists_last_bump hgrown
  refine ⟨earlier ++ ⟨i, .generation, seen⟩ :: before, j, after, own i before, ?_, hafter, ?_⟩
  · rw [List.append_assoc, List.append_assoc, List.cons_append, List.cons_append, hbump]
  · rw [own_append, hearlier]
    exact own_cons_self _ _

/-- Who is between its two looks while somebody is about to count a report waits for the guard. -/
theorem Guarded.waiting_of_counting {shared : Shared} {seen now : Nat} {report : RefreshReport}
    {waited : List Exchange} (h : Guarded first shared)
    (howned : own i (first ++ second) = looks seen now)
    (hbegun : own i first = ⟨.generation, seen⟩ :: waited)
    (hcounting : uncounted (own j first) = some report)
    (hpublished : ⟨.publish report, ()⟩ ∈ own j first) : waited = [] := by
  have hlooks := howned
  rw [own_append, hbegun] at hlooks
  cases hguards : guards (own i first) with
  | false => exact eq_nil_of_looks hlooks (hbegun ▸ hguards)
  | true =>
    -- two holders of the guard are one, but this one has kept no report
    obtain rfl := h.holder_unique hguards (h.counting j report hcounting).1
    have hmem : ⟨.publish report, ()⟩ ∈ looks seen now := by
      rw [← howned, own_append]
      exact List.mem_append_left _ hpublished
    have hnone : ∀ exchange ∈ looks seen now, exchange.action.published? = none := by
      simp [looks, Action.published?]
    exact absurd (hnone _ hmem) (Option.some_ne_none report)

/-- Who reads the kept report finds one that was counted while it waited for the guard. -/
theorem Run.read_counted {known : Option RefreshReport}
    (run : Run (m.updates store n) (past ++ ⟨i, .cached, known⟩ :: second) tasks) :
    ∃ seen report before j after, known = some report ∧
      past = before ++ ⟨j, .bumpGeneration, ()⟩ :: after ∧ own i before = [⟨.generation, seen⟩] ∧
      uncounted (own j before) = some report := by
  have hknown := run.known_eq_last
  obtain ⟨between, next, hpast, -, -⟩ := run.split_at
  obtain ⟨_, _, -, hguarded, hrule⟩ := run.update_at
  obtain ⟨seen, now, hne, howned⟩ := hrule.of_cached
  obtain ⟨before, j, after, waited, rfl, hafter, hbegun⟩ := hpast.counted_between howned hne.symm
  -- who counted the report had just kept it, under the guard
  obtain ⟨_, _, -, hbefore, hcounts⟩ := hpast.update_at
  obtain ⟨opening, cycle, report, ho, hc, hown⟩ := hcounts.of_bump
  have hcounting : uncounted (own j before) = some report := hown ▸ (ho.guards_kept hc).2
  have hpublished : ⟨.publish report, ()⟩ ∈ own j before := by
    rw [hown]
    exact List.mem_append_right _ (List.mem_singleton_self _)
  obtain ⟨-, hlast, hlength⟩ := hbefore.counting j report hcounting
  obtain rfl := hbefore.waiting_of_counting howned hbegun hcounting hpublished
  refine ⟨seen, report, before, j, after, ?_, rfl, hbegun, hcounting⟩
  -- all kept reports are counted now, and no more than before have been counted
  have hcounted := hguarded.counted_of_holder (i := i) (by rw [howned]; rfl) (by rw [howned]; rfl)
  have hone : bumps (⟨j, .bumpGeneration, ()⟩ :: after) = bumps after + 1 :=
    List.countP_cons_of_pos rfl
  rw [bumps_append, hone, hafter, published, List.filterMap_append, List.length_append]
    at hcounted
  have hmore : (published (⟨j, .bumpGeneration, ()⟩ :: after)).length = 0 := by
    rw [published] at hlength ⊢
    omega
  rw [hknown, published, List.filterMap_append, ← published, ← published,
    List.eq_nil_of_length_eq_zero hmore, List.append_nil, hlast]

/-! ## Refreshes in a run -/

/-- There is a kept report as soon as the count has grown. -/
theorem Run.opening_eq {opening rest : List Exchange}
    (run : Run (m.updates store n) happenings tasks) (ho : Opening opening)
    (howned : own i happenings = opening ++ rest) : ∃ seen, opening = looks seen seen := by
  cases ho with
  | unchanged seen => exact ⟨seen, rfl⟩
  | @unkept seen now hne =>
    rw [List.append_assoc, List.cons_append] at howned
    obtain ⟨past, second, rfl, -, -⟩ := exists_split_of_own howned
    obtain ⟨_, report, _, _, _, hknown, -⟩ := run.read_counted
    exact nomatch hknown

/-- A report is published by the cycle that made it. -/
theorem Run.carried_of_publish {report : RefreshReport}
    (run : Run (m.updates store n) (first ++ ⟨i, .publish report, ()⟩ :: second) tasks) :
    m.Carried (own i first) (.ok report) := by
  obtain ⟨between, next, hf, hs, -⟩ := run.split_at
  obtain ⟨opening, cycle, ho, hc, howned⟩ := (hf.update_rule hs).of_publish
  obtain ⟨seen, rfl⟩ := hf.opening_eq ho howned
  exact ⟨seen, cycle, howned, hc⟩

/-- A cycle is counted after its report was published. -/
theorem Run.completes_of_bump
    (run : Run (m.updates store n) (first ++ ⟨i, .bumpGeneration, ()⟩ :: second) tasks) :
    ∃ report, m.Completes (own i first) report ∧ uncounted (own i first) = some report := by
  obtain ⟨between, next, hf, hs, -⟩ := run.split_at
  obtain ⟨opening, cycle, report, ho, hc, howned⟩ := (hf.update_rule hs).of_bump
  have hcounting := (ho.guards_kept hc).2
  rw [← howned] at hcounting
  rw [List.append_assoc] at howned
  obtain ⟨seen, rfl⟩ := hf.opening_eq ho howned
  rw [← List.append_assoc] at howned
  exact ⟨report, ⟨_, howned, seen, cycle, rfl, hc⟩, hcounting⟩

/-- Who returns another one's report has read it, and it was counted while it waited. -/
theorem Run.completed_of_reused {seen now : Nat} {report : RefreshReport} {rest : List Exchange}
    (run : Run (m.updates store n) happenings tasks)
    (howned : own i happenings = looks seen now ++ ⟨.cached, some report⟩ :: rest) :
    ∃ before j after, happenings = before ++ ⟨j, .bumpGeneration, ()⟩ :: after ∧
      m.Completes (own j before) report ∧ ∃ seen, own i before = [⟨.generation, seen⟩] := by
  obtain ⟨past, second, rfl, -, -⟩ := exists_split_of_own howned
  obtain ⟨seen, report', before, j, after, hknown, rfl, hwaiting, hcounting⟩ := run.read_counted
  obtain rfl := Option.some.inj hknown
  rw [List.append_assoc, List.cons_append] at run ⊢
  obtain ⟨report', hcompletes, hcounting'⟩ := run.completes_of_bump
  obtain rfl := Option.some.inj (hcounting.symm.trans hcounting')
  exact ⟨before, j, _, rfl, hcompletes, seen, hwaiting⟩

theorem guards_of_cycling {past : List Exchange} (h : Cycling past) : guards past = true := by
  obtain ⟨seen, rest, rfl, hkept⟩ := h
  exact guards_of_kept rfl hkept

/-- Whatever a refresh does, it does in the middle of it. -/
theorem Run.cycling_of_surveys (run : Run (m.updates store n) (first ++ x :: second) tasks)
    (hsurvey : m.Surveys x.action) : Cycling (own x.task first) := by
  obtain ⟨between, next, hf, hs, -⟩ := run.split_at
  obtain ⟨opening, cycle, q, ho, hc, howned⟩ := (hf.update_rule hs).of_surveys hsurvey
  obtain ⟨seen, rfl⟩ := hf.opening_eq ho howned
  refine ⟨seen, cycle, howned, fun exchange hmem hunlock => ?_⟩
  -- giving the guard back is no part of a refresh
  have hcycle := (m.refresh_surveys.reaches hc).1 exchange hmem
  rw [hunlock] at hcycle
  exact nomatch hcycle

/-- What an update has done at its end. -/
theorem Run.update_done {outcome : Outcome RefreshReport}
    (run : Run (m.updates store n) happenings tasks)
    (hdone : tasks.programs[i]? = some (.done outcome)) :
    m.UpdateDone (own i happenings) outcome := by
  have hi : i < n := by
    rw [← List.length_replicate (n := n) (a := m.update.run)]
    exact run.programs_length ▸ (List.getElem?_eq_some_iff.mp hdone).1
  obtain ⟨q, hq, hobeys⟩ := run.obeys (updates_programs hi) m.update_obeys
  obtain rfl := Option.some.inj (hq.symm.trans hdone)
  exact hobeys

end Tasks

/-! ## Coalescing -/

open Monitor in
/-- What holds of updates that run side by side, at any time. -/
structure Coalesced (m : Monitor) (happenings : List Happening)
    (tasks : Tasks (Outcome RefreshReport)) : Prop where
  /-- Whatever a refresh does, it does while it is running. -/
  running : ∀ before x after, happenings = before ++ x :: after → m.Surveys x.action →
    Cycling (own x.task before)
  /-- One refresh runs at a time. -/
  exclusive : ∀ i j, Cycling (own i happenings) → Cycling (own j happenings) → i = j
  /-- The kept report is the last one that was kept. -/
  latest : tasks.shared.cached = (published happenings).getLast?
  /-- A report is kept by who has just carried out its refresh. -/
  kept : ∀ before i report after, happenings = before ++ ⟨i, .publish report, ()⟩ :: after →
    m.Carried (own i before) (.ok report)
  /-- Every kept report is counted, but for the last one, as long as its task is about to. -/
  counted : (published happenings).length = bumps happenings ∨
    (published happenings).length = bumps happenings + 1 ∧
      ∃ i report, uncounted (own i happenings) = some report ∧ tasks.shared.cached = some report
  /-- A report that is returned is that of a refresh which was completed after the update began; if
  it is not its own, then while it waited for the guard. -/
  returned : ∀ i report, tasks.programs[i]? = some (.done (.ok report)) →
    ∃ before j after, happenings = before ++ ⟨j, .bumpGeneration, ()⟩ :: after ∧
      m.Completes (own j before) report ∧ own i before ≠ [] ∧
        (j ≠ i → ∃ seen, own i before = [⟨.generation, seen⟩])
  /-- An update that waited while none was completed has carried out its own. -/
  unaided : ∀ i outcome, tasks.programs[i]? = some (.done outcome) →
    (∀ before j after seen, happenings = before ++ ⟨j, .bumpGeneration, ()⟩ :: after →
      own i before ≠ [⟨.generation, seen⟩]) →
    ∃ past rest, own i happenings = past ++ rest ∧ m.Carried past outcome

open Monitor in
theorem updates_coalesced {m : Monitor} {store : Store} {n : Nat} {happenings : List Happening}
    {tasks : Tasks (Outcome RefreshReport)} (run : Run (m.updates store n) happenings tasks) :
    Coalesced m happenings tasks := by
  have hguarded := run.updates_guarded
  refine ⟨?running, ?exclusive, hguarded.cached, ?kept, ?counted, ?returned, ?unaided⟩
  case running =>
    rintro before x after rfl hsurvey
    exact run.cycling_of_surveys hsurvey
  case exclusive =>
    intro i j hi hj
    exact hguarded.holder_unique (guards_of_cycling hi) (guards_of_cycling hj)
  case kept =>
    rintro before i report after rfl
    exact run.carried_of_publish
  case counted =>
    by_cases hall : ∀ i, uncounted (own i happenings) = none
    · exact Or.inl (hguarded.counted hall)
    · obtain ⟨i, hi⟩ := not_forall.mp hall
      obtain ⟨report, hreport⟩ := Option.ne_none_iff_exists'.mp hi
      obtain ⟨-, hlast, hlength⟩ := hguarded.counting i report hreport
      exact Or.inr ⟨hlength, i, report, hreport, hguarded.cached.trans hlast⟩
  case returned =>
    intro i report hdone
    obtain ⟨before, howned, hend⟩ := run.update_done hdone
    cases hend with
    | reused hne =>
      rw [List.append_assoc, List.cons_append] at howned
      obtain ⟨first, j, second, hsplit, hcompletes, seen, hwaiting⟩ :=
        run.completed_of_reused howned
      exact ⟨first, j, second, hsplit, hcompletes, hwaiting ▸ nofun, fun _ => ⟨seen, hwaiting⟩⟩
    | @completed opening cycle _ ho hc =>
      have hbump : own i happenings = (opening ++ cycle ++ [⟨.publish report, ()⟩]) ++
          ⟨.bumpGeneration, ()⟩ :: [⟨.unlockRefresh, ()⟩] := by
        rw [howned]
        simp
      simp only [List.append_assoc] at howned
      obtain ⟨seen, rfl⟩ := run.opening_eq ho howned
      obtain ⟨first, second, hsplit, hfirst, -⟩ := exists_split_of_own hbump
      refine ⟨first, i, second, hsplit, ⟨_, hfirst, seen, cycle, rfl, hc⟩, ?_, absurd rfl⟩
      rw [hfirst]
      exact nofun
  case unaided =>
    intro i outcome hdone hnone
    obtain ⟨before, howned, hend⟩ := run.update_done hdone
    cases hend with
    | reused hne =>
      rw [List.append_assoc, List.cons_append] at howned
      obtain ⟨first, j, second, hsplit, -, seen, hwaiting⟩ := run.completed_of_reused howned
      exact absurd hwaiting (hnone first j second seen hsplit)
    | failed ho hc | completed ho hc =>
      simp only [List.append_assoc] at howned
      obtain ⟨seen, rfl⟩ := run.opening_eq ho howned
      rw [← List.append_assoc] at howned
      exact ⟨_, _, howned, seen, _, rfl, hc⟩

namespace Sample

/-- Two updates: the first has taken the guard, and the second waits for it. -/
def waiting : Tasks (Outcome RefreshReport) :=
  (((controller.monitor.updates store 2).goOn (fun _ => none) 0).2.goOn (fun _ => none) 1).2

/-- The first one has refreshed. -/
def refreshed : Tasks (Outcome RefreshReport) :=
  (waiting.goOn hosts 0).2

/-- The second one has gone on after it. -/
def coalesced : Tasks (Outcome RefreshReport) :=
  (refreshed.goOn hosts 1).2

/-- What has happened then. -/
def coalescing : List Happening :=
  let start := controller.monitor.updates store 2
  let begun := start.goOn (fun _ => none) 0
  begun.1 ++ (begun.2.goOn (fun _ => none) 1).1 ++
    ((waiting.goOn hosts 0).1 ++ (refreshed.goOn hosts 1).1)

/-- The report of a refresh that finds no clients. -/
def emptyReport : RefreshReport where
  stats := .ofNodes [] ⟨19782, 0, 0⟩
  nodes := []
  writes := 0
  partitionsSeen := 0

end Sample

/-- Two updates return the report of one refresh. -/
theorem updates_coalesced_sample :
    Sample.coalesced.programs = [.done (.ok Sample.emptyReport), .done (.ok Sample.emptyReport)] ∧
    bumps Sample.coalescing = 1 ∧
    Coalesced Sample.controller.monitor Sample.coalescing Sample.coalesced := by
  have hwaiting : Run (Sample.controller.monitor.updates Sample.store 2) _ Sample.waiting :=
    (goOn_run (fun _ => none) 0 _).append (goOn_run (fun _ => none) 1 _)
  have run : Run (Sample.controller.monitor.updates Sample.store 2) Sample.coalescing
      Sample.coalesced :=
    hwaiting.append ((goOn_run Sample.hosts 0 _).append (goOn_run Sample.hosts 1 _))
  refine ⟨Program.eq_map_done_of_results [_, _] ?_, ?_, updates_coalesced run⟩
  · decide +kernel
  · decide +kernel

end VparFleet
