import VparFleet.Proofs.Controller.Exclusion

/-!
# Which placements stay

Placements are looked up by partition and stored by workload. So a call for one partition can take
the placement of another one: a spawn whose request names the same workload takes it over, and a
removal that found its own placement before takes the row of that workload, whose ever it is now.
Nothing else takes a placement, but the removal of the partition itself.

* `Takes`: what takes its placement from a partition.
* `Run.row_kept`: a row stays, or a step takes it.
* `Run.forgets_only_removed`: a removal that took a placement ends with `removed`.
* `placement_kept`: the whole, for every stretch of every interleaving, and for one call alone.
-/

namespace VparFleet.Tasks

open Store

variable {c : Controller} {store : Store} {calls : List Call} {name workload : String}
  {past happenings : List Happening} {start tasks next last : Tasks Call.Answer} {x : Happening}
  {i : Nat} {row : PlacementRow}

/-- What takes its placement from a partition, with what the calls have done before. -/
inductive Takes (calls : List Call) (past : List Happening) (name workload : String) :
    Happening → Prop where
  /-- Its own removal. -/
  | removal {i : Nat} {there : Bool} (hc : calls[i]? = some (.destroy name)) :
    Takes calls past name workload ⟨i, .removePlacement workload, .ok there⟩
  /-- A spawn of another partition for the same workload. -/
  | spawn {i : Nat} {request : SpawnRequest} {placement : Placement}
    (hc : calls[i]? = some (.spawn request)) (hother : request.name ≠ name)
    (hw : request.resources.workload = workload)
    (hp : placement.partition = request.name ∧ placement.workload = workload) :
    Takes calls past name workload ⟨i, .recordPlacement placement, .ok ()⟩
  /-- The removal of another partition, which was found with the same workload before. -/
  | lateRemoval {i : Nat} {other : String} {placement : Placement} {there : Bool}
    (hc : calls[i]? = some (.destroy other)) (hother : other ≠ name)
    (hfound : ⟨.findPlacement other, .ok (some placement)⟩ ∈ own i past)
    (hw : placement.workload = workload) :
    Takes calls past name workload ⟨i, .removePlacement workload, .ok there⟩

/-! ## One step -/

/-- A partition whose row is gone has no other one among those that were there. -/
theorem Placed.partition_ne {table : PlacementTable} (placed : Placed past table)
    (hrow : row ∈ table) {r : PlacementRow} (hr : r ∈ table) (hne : r ≠ row) :
    r.partition ≠ row.partition :=
  fun heq => hne (List.inj_on_of_nodup_map placed.partitions hr hrow heq)

/-- A record that takes a row is that of a spawn of another partition. -/
theorem Step.takes_of_record {placement : Placement} (run : Run (c.serve store calls) past tasks)
    (hempty : store.placements = [])
    (hs : Step tasks (some ⟨i, .recordPlacement placement, .ok ()⟩) next)
    (hrow : row ∈ tasks.shared.store.placements)
    (hgone : row ∉ next.shared.store.placements) :
    Takes calls past row.partition row.workload ⟨i, .recordPlacement placement, .ok ()⟩ ∧
      ∀ r ∈ next.shared.store.placements, r.partition ≠ row.partition := by
  have placed := run.placed hempty
  obtain ⟨call, hcall, hrule⟩ := run.rule hs
  obtain ⟨request, rfl, hrecording⟩ := hrule.recording
  obtain ⟨hsaw, hpartition⟩ := sawFree_of_recording hrecording
  -- a record takes the place of the row of its workload
  have hnew : ∀ r, r ∈ next.shared.store.placements ↔ r = .ofPlacement placement ∨
      r ∈ tasks.shared.store.placements ∧ r.workload ≠ placement.workload := by
    intro r
    rw [hs.placements]
    exact PlacementTable.mem_record
  -- the spawn saw its own name free, so the row is of another one
  have hother : request.name ≠ row.partition :=
    fun heq => placed.free i request.name hsaw row hrow heq.symm
  have hworkload : row.workload = placement.workload := by
    by_contra hne
    exact hgone ((hnew row).mpr (Or.inr ⟨hrow, hne⟩))
  have hrequest : request.resources.workload = placement.workload := by
    obtain ⟨nodes, node, output, report, now, -, -, rfl, -⟩ := hrecording
    rfl
  refine ⟨.spawn hcall hother (hrequest.trans hworkload.symm) ⟨hpartition, hworkload.symm⟩, ?_⟩
  intro r hr
  rcases (hnew r).mp hr with rfl | ⟨hold, -⟩
  · exact fun heq => hother (hpartition.symm.trans heq)
  · exact placed.partition_ne hrow hold fun heq => hgone (heq ▸ hr)

/-- A removal that takes a row is that of its partition, or of one that was found before with the
same workload. -/
theorem Step.takes_of_removal {there : Bool} (run : Run (c.serve store calls) past tasks)
    (hempty : store.placements = [])
    (hs : Step tasks (some ⟨i, .removePlacement workload, .ok there⟩) next)
    (hrow : row ∈ tasks.shared.store.placements)
    (hgone : row ∉ next.shared.store.placements) :
    Takes calls past row.partition row.workload ⟨i, .removePlacement workload, .ok there⟩ ∧
      ∀ r ∈ next.shared.store.placements, r.partition ≠ row.partition := by
  obtain ⟨call, hcall, hrule⟩ := run.rule hs
  obtain ⟨other, rfl, -, placement, hfound, rfl⟩ := hrule.removing
  -- a removal takes the row of a workload out
  have hnew : ∀ r, r ∈ next.shared.store.placements ↔
      r ∈ tasks.shared.store.placements ∧ r.workload ≠ placement.workload := by
    intro r
    rw [hs.placements]
    exact PlacementTable.mem_erase
  have hworkload : row.workload = placement.workload := by
    by_contra hne
    exact hgone ((hnew row).mpr ⟨hrow, hne⟩)
  rw [hworkload]
  refine ⟨?_, fun r hr =>
    (run.placed hempty).partition_ne hrow ((hnew r).mp hr).1 fun heq => hgone (heq ▸ hr)⟩
  by_cases hname : other = row.partition
  · exact .removal (hname ▸ hcall)
  · exact .lateRemoval hcall hname hfound rfl

/-- A step that takes a row leaves the partition without rows. -/
theorem Step.takes (run : Run (c.serve store calls) past tasks) (hempty : store.placements = [])
    (hs : Step tasks (some x) next) (hrow : row ∈ tasks.shared.store.placements)
    (hgone : row ∉ next.shared.store.placements) :
    Takes calls past row.partition row.workload x ∧
      ∀ r ∈ next.shared.store.placements, r.partition ≠ row.partition := by
  rcases x.exchange.onPlacements_cases with ⟨placement, hx⟩ | ⟨workload, there, hx⟩ | hx
  · rw [Happening.eq_of_exchange hx] at hs ⊢
    exact hs.takes_of_record run hempty hrow hgone
  · rw [Happening.eq_of_exchange hx] at hs ⊢
    exact hs.takes_of_removal run hempty hrow hgone
  -- everything else leaves the placements alone
  · rw [hs.placements, hx] at hgone
    exact absurd hrow hgone

/-- Who finds a placement of the workload of a row has found that row. -/
theorem Step.found_row (run : Run (c.serve store calls) past tasks) (hempty : store.placements = [])
    {placement : Placement}
    (hs : Step tasks (some ⟨i, .findPlacement name, .ok (some placement)⟩) next)
    (hrow : row ∈ tasks.shared.store.placements) (hw : placement.workload = row.workload) :
    name = row.partition := by
  obtain ⟨r, hr, rfl, hworkload, -⟩ := hs.found_some
  have placed := run.placed hempty
  rw [List.inj_on_of_nodup_map placed.workloads hr hrow (hworkload.trans hw)]

/-! ## A stretch of a run -/

/-- What takes a placement, with what has been done before an earlier moment, if the row was there
at that moment. -/
theorem Takes.earlier (run : Run (c.serve store calls) past tasks) (hempty : store.placements = [])
    (hs : Step tasks (some x) next) (hrow : row ∈ tasks.shared.store.placements) {y : Happening}
    (h : Takes calls (past ++ [x]) row.partition row.workload y) :
    Takes calls past row.partition row.workload y := by
  cases h with
  | removal hc => exact .removal hc
  | spawn hc hother hw hp => exact .spawn hc hother hw hp
  | @lateRemoval i other placement there hc hother hfound hw =>
    -- the search came before `x`, unless `x` is that search
    refine .lateRemoval hc hother ?_ hw
    by_cases hi : x.task = i
    · subst hi
      rw [own_append, own_cons_self, own_nil] at hfound
      rcases List.mem_append.mp hfound with hfound | hfound
      · exact hfound
      · -- `x` itself is the search: it would have found the row, and its own name with it
        have hx := Happening.eq_of_exchange (List.mem_singleton.mp hfound).symm
        rw [hx] at hs
        exact absurd (hs.found_row run hempty hrow hw) hother
    · rw [own_append, own_cons_ne hi, own_nil, List.append_nil] at hfound
      exact hfound

/-- A row stays, or a step takes it. -/
theorem Run.row_kept (during : Run tasks happenings last)
    (before : Run (c.serve store calls) past tasks) (hempty : store.placements = [])
    (hrow : row ∈ tasks.shared.store.placements) :
    row ∈ last.shared.store.placements ∨
      ∃ first x second reached next, happenings = first ++ x :: second ∧
        Run tasks first reached ∧ Step reached (some x) next ∧ Run next second last ∧
        row ∈ reached.shared.store.placements ∧
        (∀ r ∈ next.shared.store.placements, r.partition ≠ row.partition) ∧
        Takes calls past row.partition row.workload x := by
  induction during generalizing past with
  | stop tasks => exact Or.inl hrow
  | @step tasks next last happening rest hs hr ih =>
    have before' := before.append (.step hs (.stop _))
    rw [List.append_nil] at before'
    cases happening with
    | none =>
      -- waiting changes nothing
      have hrow' : row ∈ next.shared.store.placements := by
        rw [hs.waited_store]
        exact hrow
      rw [Option.toList_none, List.append_nil] at before'
      rcases ih before' hrow' with hlast | ⟨first, x, second, reached, next', rfl, hf, hrest⟩
      · exact Or.inl hlast
      · exact Or.inr ⟨first, x, second, reached, next', rfl, .step hs hf, hrest⟩
    | some y =>
      by_cases hrow' : row ∈ next.shared.store.placements
      · -- the row is still there: whatever takes it comes later
        rcases ih before' hrow' with hlast |
          ⟨first, x, second, reached, next', rfl, hf, hx, hlast, hreached, hnone, htakes⟩
        · exact Or.inl hlast
        · exact Or.inr ⟨y :: first, x, second, reached, next', rfl, .step hs hf, hx, hlast,
            hreached, hnone, htakes.earlier before hempty hs hrow⟩
      · -- this is the step that takes it
        obtain ⟨htakes, hnone⟩ := hs.takes before hempty hrow hrow'
        exact Or.inr ⟨[], y, rest, tasks, next, rfl, .stop _, hs, hr, hrow, hnone, htakes⟩

/-! ## Searches -/

/-- A search that finds a placement finds it again later, or a step takes it, after which nothing is
found. -/
theorem Run.search_kept (during : Run tasks happenings last)
    (before : Run (c.serve store calls) past tasks) (hempty : store.placements = [])
    {placement : Placement}
    (hfound : tasks.shared.store.placementAnswer name = .ok (some placement)) :
    last.shared.store.placementAnswer name = .ok (some placement) ∨
      ∃ first x second reached next, happenings = first ++ x :: second ∧
        Run tasks first reached ∧ Step reached (some x) next ∧ Run next second last ∧
        reached.shared.store.placementAnswer name = .ok (some placement) ∧
        next.shared.store.placementAnswer name = .ok none ∧
        Takes calls past name placement.workload x := by
  obtain ⟨ho, row, hlatest, hworkload, -⟩ := of_placementAnswer_eq_some hfound
  obtain ⟨hrow, rfl⟩ := PlacementTable.mem_of_latest?_eq_some hlatest
  -- where the row still is, the search is answered as before
  have hagain {happenings : List Happening} {reached : Tasks Call.Answer}
      (during : Run tasks happenings reached) (hmem : row ∈ reached.shared.store.placements) :
      reached.shared.store.placementAnswer row.partition = .ok (some placement) := by
    have placed := (before.append during).placed hempty
    rw [← hfound]
    refine placementAnswer_congr during.isOpen ?_
    rw [hlatest]
    exact (PlacementTable.latest?_eq_some_iff placed.partitions).mpr ⟨hmem, rfl⟩
  rcases during.row_kept before hempty hrow with hlast |
    ⟨first, x, second, reached, next, hsplit, hf, hs, hr, hreached, hnone, htakes⟩
  · exact Or.inl (hagain during hlast)
  · refine Or.inr ⟨first, x, second, reached, next, hsplit, hf, hs, hr, hagain hf hreached, ?_, ?_⟩
    · have hopen : next.shared.store.isOpen = true := by
        rw [(hf.append (.step hs (.stop _))).isOpen, ho]
      exact placementAnswer_eq_none hopen (PlacementTable.latest?_eq_none_iff.mpr hnone)
    · rw [← hworkload]
      exact htakes

/-! ## One call alone -/

/-- A spawn that has recorded its placement does nothing more to placements. -/
theorem Run.spawn_recorded (after : Run tasks happenings last)
    (before : Run (c.serve store calls) past tasks) {request : SpawnRequest}
    (hc : calls[i]? = some (.spawn request)) (halone : ∀ x ∈ happenings, x.task = i)
    {placement : Placement} (hrecorded : ⟨.recordPlacement placement, .ok ()⟩ ∈ own i past) :
    last.shared.store.placements = tasks.shared.store.placements := by
  -- by induction on what comes after, since each step is judged by all that came before it
  induction after generalizing past with
  | stop tasks => rfl
  | @step tasks next last happening rest hs hr ih =>
    have before' := before.append (.step hs (.stop _))
    have hrecorded' : ⟨.recordPlacement placement, .ok ()⟩ ∈
        own i (past ++ (happening.toList ++ [])) := by
      rw [own_append]
      exact List.mem_append_left _ hrecorded
    rw [ih before' (fun x hx => halone x (List.mem_append_right _ hx)) hrecorded']
    cases happening with
    | none => rw [hs.waited_store]
    | some x =>
      obtain rfl : x.task = i := halone x (by simp)
      rw [hs.placements]
      obtain ⟨call, hcall, hrule⟩ := before.rule hs
      obtain rfl := Option.some.inj (hc.symm.trans hcall)
      rcases x.exchange.onPlacements_cases with ⟨other, hx⟩ | ⟨workload, there, hx⟩ | hx
      · -- a second record would have to come without a first
        rw [Happening.eq_of_exchange hx] at hrule
        obtain ⟨request', -, hrecording⟩ := hrule.recording
        exact absurd rfl ((sawFree_of_recording hrecording).1.unrecorded _ hrecorded placement)
      · rw [Happening.eq_of_exchange hx] at hrule
        obtain ⟨name, hcall, -⟩ := hrule.removing
        exact nomatch hcall
      · exact hx _

/-- A removal that took a placement ends with `removed`. -/
theorem Run.forgets_only_removed (run : Run (c.serve store calls) happenings tasks)
    (hc : calls[i]? = some (.destroy name)) {there : Bool}
    (hforgot : ⟨i, .removePlacement workload, .ok there⟩ ∈ happenings) {answer : Call.Answer}
    (hdone : tasks.programs[i]? = some (.done answer)) :
    answer = .destroyed (.ok .removed) := by
  have hobeys : ((Call.destroy name).program c).Obeys (c.DestroyRule name)
      (fun past answer => ∃ outcome, answer = .destroyed outcome ∧
        Controller.ForgetsOnlyRemoved past outcome) [] :=
    Program.obeys_bind.mpr (Controller.destroy_obeys.goal_mono fun _ outcome h => ⟨outcome, rfl, h⟩)
  have hprogram : (c.serve store calls).programs[i]? = some ((Call.destroy name).program c) := by
    rw [serve_programs, hc]
    rfl
  -- what has been forgotten is seen in the history, and the history decides the answer
  obtain ⟨q, hq, hleft⟩ := run.obeys hprogram hobeys
  obtain rfl := Option.some.inj (hq.symm.trans hdone)
  obtain ⟨outcome, rfl, hforgets⟩ := hleft
  rw [hforgets workload there (mem_own hforgot rfl)]

/-- Between any two moments of any interleaving of calls that starts without placements: a search
that finds a placement at the first finds it at the second, or a step took it in between. If one
call for another name began at the first moment and acted alone, it can only have been a spawn for
the same workload that recorded its placement. And a removal that took a placement ends with
`removed`. -/
theorem placement_kept (before : Run (c.serve store calls) past tasks)
    (hempty : store.placements = []) (during : Run tasks happenings last) {placement : Placement}
    (hfound : tasks.shared.store.placementAnswer name = .ok (some placement)) :
    (last.shared.store.placementAnswer name = .ok (some placement) ∨
      ∃ first x second reached next, happenings = first ++ x :: second ∧
        Run tasks first reached ∧ Step reached (some x) next ∧ Run next second last ∧
        reached.shared.store.placementAnswer name = .ok (some placement) ∧
        next.shared.store.placementAnswer name = .ok none ∧
        Takes calls past name placement.workload x) ∧
    (∀ i call other, calls[i]? = some call → call.name? = some other → other ≠ name →
      own i past = [] → (∀ x ∈ happenings, x.task = i) →
      last.shared.store.placementAnswer name = .ok (some placement) ∨
        last.shared.store.placementAnswer name = .ok none ∧
          ∃ request recorded, call = .spawn request ∧
            request.resources.workload = placement.workload ∧
            recorded.partition = other ∧ recorded.workload = placement.workload ∧
            ⟨i, .recordPlacement recorded, .ok ()⟩ ∈ happenings) ∧
    ∀ i other workload there answer, calls[i]? = some (.destroy other) →
      ⟨i, .removePlacement workload, .ok there⟩ ∈ past ++ happenings →
      last.programs[i]? = some (.done answer) → answer = .destroyed (.ok .removed) := by
  refine ⟨during.search_kept before hempty hfound, ?_, ?_⟩
  · intro i call other hc hname hother hfresh halone
    rcases during.search_kept before hempty hfound with hlast |
      ⟨first, x, second, reached, next, rfl, hf, hs, hr, -, hnone, htakes⟩
    · exact Or.inl hlast
    -- what took the placement is a step of the only call that acted
    obtain rfl : x.task = i := halone x (by simp)
    cases htakes with
    | removal hc' =>
      obtain rfl := Option.some.inj (hc.symm.trans hc')
      exact absurd (Option.some.inj hname).symm hother
    | lateRemoval hc' hother' hfound' hw =>
      rw [hfresh] at hfound'
      exact nomatch hfound'
    | @spawn i request recorded hc' hother' hw hp =>
      obtain rfl := Option.some.inj (hc.symm.trans hc')
      obtain rfl := Option.some.inj hname
      refine Or.inr ⟨?_, request, recorded, rfl, hw, hp.1, hp.2, by simp⟩
      have before' := before.append (hf.append (.step hs (.stop _)))
      have htable := hr.spawn_recorded before' hc (fun x hx => halone x (by simp [hx]))
        (mem_own (by simp) rfl)
      rw [← hnone]
      exact placementAnswer_congr hr.isOpen (congrArg (·.latest? name) htable)
  · intro i other workload there answer hc hforgot hdone
    exact (before.append during).forgets_only_removed hc hforgot hdone

/-- The placement of `web` is taken by the spawn of `db` for the same workload. -/
theorem placement_kept_sample :
    ∃ first x second reached next, (Sample.placed.goOn Sample.hosts 2).1 = first ++ x :: second ∧
      Run Sample.placed first reached ∧ Step reached (some x) next ∧
      Run next second (Sample.placed.goOn Sample.hosts 2).2 ∧
      reached.shared.store.placementAnswer "web" =
        .ok (some ⟨"shop", "web", "10.0.0.11", ⟨19782, 0, 0⟩⟩) ∧
      next.shared.store.placementAnswer "web" = .ok none ∧
      Takes Sample.calls (Sample.start.goOn Sample.hosts 0).1 "web" "shop" x := by
  have hfound : Sample.placed.shared.store.placementAnswer "web" =
      .ok (some ⟨"shop", "web", "10.0.0.11", ⟨19782, 0, 0⟩⟩) := by decide +kernel
  have hlost : (Sample.placed.goOn Sample.hosts 2).2.shared.store.placementAnswer "web" ≠
      .ok (some ⟨"shop", "web", "10.0.0.11", ⟨19782, 0, 0⟩⟩) := by decide +kernel
  -- the spawn of `db` takes the workload over, so the placement is not kept
  have hkept := placement_kept Sample.placed_run rfl (goOn_run Sample.hosts 2 Sample.placed) hfound
  exact hkept.1.resolve_left hlost

/-- A call for another name does not leave every placement, even when it acts alone and comes to its
end. -/
theorem not_every_placement_kept :
    ¬∀ (c : Controller) (store : Store) (calls : List Call) (past happenings : List Happening)
      (tasks last : Tasks Call.Answer) (i : Nat) (call : Call) (name other : String)
      (placement : Placement), store.placements = [] → Run (c.serve store calls) past tasks →
      Run tasks happenings last → calls[i]? = some call → call.name? = some other →
      other ≠ name → own i past = [] → (∀ x ∈ happenings, x.task = i) →
      (∃ answer, last.programs[i]? = some (.done answer)) →
      tasks.shared.store.placementAnswer name = .ok (some placement) →
      last.shared.store.placementAnswer name = .ok (some placement) := by
  intro hkept
  have hended : ((Sample.placed.goOn Sample.hosts 2).2.programs[2]?.bind
      Program.result?).isSome = true := by decide +kernel
  obtain ⟨answer, hanswer⟩ := Option.isSome_iff_exists.mp hended
  obtain ⟨p, hp, hresult⟩ := Option.bind_eq_some_iff.mp hanswer
  obtain rfl := Program.result?_eq_some_iff.mp hresult
  -- until here only the first call has run
  have hfresh : own 2 (Sample.start.goOn Sample.hosts 0).1 = [] := by
    refine List.map_eq_nil_iff.mpr (List.filter_eq_nil_iff.mpr fun x hx => ?_)
    rw [goOn_task Sample.hosts 0 Sample.start x hx]
    decide
  have hlost : (Sample.placed.goOn Sample.hosts 2).2.shared.store.placementAnswer "web" ≠
      .ok (some ⟨"shop", "web", "10.0.0.11", ⟨19782, 0, 0⟩⟩) := by decide +kernel
  refine hlost (hkept Sample.controller Sample.store Sample.calls _ _ _ _ 2
    (.spawn (Sample.request "db" "shop")) "web" "db" _ rfl Sample.placed_run
    (goOn_run Sample.hosts 2 Sample.placed) rfl rfl (by decide) hfresh
    (goOn_task Sample.hosts 2 Sample.placed) ⟨answer, hp⟩ ?_)
  decide +kernel

end VparFleet.Tasks
