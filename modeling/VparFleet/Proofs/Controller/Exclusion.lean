import VparFleet.Proofs.Controller.Serving

/-!
# One placement for each name

The placement table does not keep a partition from having two rows. What keeps it from that is the
lock on the name: between the moment at which a spawn sees no placement under its name and the
moment at which it records one, no other call can record one under that name.

* `Placed`: the invariant, that nobody has a placement under a name seen to be free by the call
  that holds it; `Run.placed`: it holds in every interleaving.
* `Run.remote_work_unmixed`: remote work of two calls on one name is not mixed.
* `names_exclusive`: the whole, for every interleaving.
-/

namespace VparFleet

open Store

variable {c : Controller} {store : Store} {calls : List Call} {name : String}

/-- Whether a happening is remote work of a task. -/
def Happening.IsRemoteOf (x : Happening) (i : Nat) : Prop :=
  x.task = i ∧ x.action.isRemote = true

namespace Tasks

variable {past happenings first second : List Happening} {tasks next : Tasks Call.Answer}
  {x : Happening} {i j : Nat}

/-- A call that holds its name, has seen no placement under it and has recorded none. -/
structure SawFree (past : List Exchange) (name : String) : Prop where
  /-- The name is held. -/
  holds : held past = some name
  /-- Nothing was found under it. -/
  found : ⟨.findPlacement name, .ok none⟩ ∈ past
  /-- Nothing was recorded. -/
  unrecorded : ∀ exchange ∈ past, ∀ placement, exchange.action ≠ .recordPlacement placement

/-- What holds of the placement table between two steps. -/
structure Placed (past : List Happening) (table : PlacementTable) : Prop where
  /-- No workload has two rows. -/
  workloads : (table.map (·.workload)).Nodup
  /-- No partition has two rows. -/
  partitions : (table.map (·.partition)).Nodup
  /-- A name that was seen to be free stays free while it is held. -/
  free : ∀ i name, SawFree (own i past) name → ∀ row ∈ table, row.partition ≠ name

/-- A spawn that records a placement has seen its name free. -/
theorem sawFree_of_recording {request : SpawnRequest} {past : List Exchange}
    {placement : Placement} (h : c.Recording request past placement) :
    SawFree past request.name ∧ placement.partition = request.name := by
  obtain ⟨nodes, node, output, report, now, -, -, rfl, rfl⟩ := h
  exact ⟨⟨rfl, by simp, by simp⟩, rfl⟩

/-- Recording keeps the invariant. -/
theorem Placed.record {placement : Placement} (run : Run (c.serve store calls) past tasks)
    (h : Placed past tasks.shared.store.placements) {request : SpawnRequest}
    (hr : c.Recording request (own i past) placement) :
    Placed (past ++ [⟨i, .recordPlacement placement, .ok ()⟩])
      (tasks.shared.store.placements.record (.ofPlacement placement)) := by
  obtain ⟨hsaw, hpartition⟩ := sawFree_of_recording hr
  -- the spawn saw its name free, so by the invariant it still is
  have hfree := h.free i _ hsaw
  refine ⟨PlacementTable.workloads_record h.workloads, ?_, ?_⟩
  · refine PlacementTable.partitions_record h.workloads h.partitions ?_
    intro row hmem
    rw [show (PlacementRow.ofPlacement placement).partition = request.name from hpartition]
    exact hfree row hmem
  · intro j other hother row hmem heq
    by_cases hij : i = j
    · -- the spawn itself has now recorded something
      subst hij
      refine hother.unrecorded ⟨.recordPlacement placement, .ok ()⟩ ?_ placement rfl
      rw [own_append]
      exact List.mem_append_right _ (by simp [own, Happening.exchange])
    · rw [own_append, own_cons_ne hij, own_nil, List.append_nil] at hother
      rcases PlacementTable.mem_record.mp hmem with rfl | ⟨hmem, -⟩
      · -- the new row is for the name that `i` holds, and `j` holds another one
        have hname : request.name = other := hpartition.symm.trans heq
        exact hij (run.same_call (hname ▸ hsaw.holds) hother.holds)
      · exact h.free j other hother row hmem heq

/-- What a call has seen free after a step that records nothing, it has seen free before, or it is
seen free by the step. -/
theorem SawFree.before (run : Run (c.serve store calls) past tasks)
    (hs : Step tasks (some x) next) (h : SawFree (own i (past ++ [x])) name) :
    SawFree (own i past) name ∨ x = ⟨i, .findPlacement name, .ok none⟩ := by
  by_cases hi : x.task = i
  · subst hi
    rw [own_append, own_cons_self, own_nil] at h
    by_cases hx : x.exchange = ⟨.findPlacement name, .ok none⟩
    · exact Or.inr (Happening.eq_of_exchange hx)
    refine Or.inl ⟨?_, ?_, fun exchange hmem => ?_⟩
    · -- the name was held before, unless the step is the lock itself
      have hholds := h.holds
      rw [held_concat] at hholds
      obtain ⟨call, hcall, hrule⟩ := run.rule hs
      cases hl : x.action.isNameLock with
      | false =>
        rw [Exchange.holding_of_not_isNameLock hl] at hholds
        exact hholds
      | true =>
        obtain ⟨task, action, reply⟩ := x
        cases action with
        | lockName other =>
          -- a lock is taken first, before anything can have been found
          have hfound := h.found
          rw [hrule.lockName.1, List.nil_append] at hfound
          exact absurd (List.mem_singleton.mp hfound).symm hx
        | unlockName other => exact nomatch hholds
        | _ => exact nomatch hl
    · rcases List.mem_append.mp h.found with hmem | hmem
      · exact hmem
      · exact absurd (List.mem_singleton.mp hmem).symm hx
    · exact h.unrecorded exchange (List.mem_append_left _ hmem)
  · rw [own_append, own_cons_ne hi, own_nil, List.append_nil] at h
    exact Or.inl h

/-- Every step keeps the invariant. -/
theorem Placed.step {happening : Option Happening}
    (run : Run (c.serve store calls) past tasks) (h : Placed past tasks.shared.store.placements)
    (hs : Step tasks happening next) :
    Placed (past ++ happening.toList) next.shared.store.placements := by
  cases happening with
  | none =>
    rw [Option.toList_none, List.append_nil, hs.waited_store]
    exact h
  | some x =>
    rw [Option.toList_some, hs.placements]
    -- where the table only shrinks, names that were free stay free
    have hfree (table : PlacementTable) (hsub : ∀ row ∈ table,
        row ∈ tasks.shared.store.placements) (i : Nat) (name : String)
        (hsaw : SawFree (own i (past ++ [x])) name) : ∀ row ∈ table, row.partition ≠ name := by
      intro row hmem
      rcases hsaw.before run hs with hsaw | rfl
      · exact h.free i name hsaw row (hsub row hmem)
      · exact hs.found_none row (hsub row hmem)
    rcases x.exchange.onPlacements_cases with ⟨placement, hx⟩ | ⟨workload, there, hx⟩ | hx
    · obtain ⟨call, hcall, hrule⟩ := run.rule hs
      rw [Happening.eq_of_exchange hx] at hrule ⊢
      obtain ⟨request, rfl, hrecording⟩ := hrule.recording
      exact h.record run hrecording
    · rw [hx]
      exact ⟨PlacementTable.workloads_erase h.workloads,
        PlacementTable.partitions_erase h.partitions,
        hfree _ fun row hmem => (PlacementTable.mem_erase.mp hmem).1⟩
    · rw [hx]
      exact ⟨h.workloads, h.partitions, hfree _ fun row hmem => hmem⟩

/-- The invariant holds in every interleaving. -/
theorem Run.placed (run : Run (c.serve store calls) happenings tasks)
    (hempty : store.placements = []) :
    Placed happenings tasks.shared.store.placements := by
  refine run.invariant (fun past tasks => Placed past tasks.shared.store.placements) ?_ ?_
  · show Placed [] store.placements
    rw [hempty]
    exact ⟨List.nodup_nil, List.nodup_nil, fun _ _ _ _ hmem => nomatch hmem⟩
  · intro past tasks happening next run h hs
    exact h.step run hs

/-! ## Remote work -/

/-- Remote work is done with the name held. -/
theorem Run.remote_holds (run : Run (c.serve store calls) (first ++ x :: second) tasks)
    (hx : x.IsRemoteOf i) {call : Call} (hc : calls[i]? = some call)
    (hname : call.name? = some name) : held (own i first) = some name := by
  obtain ⟨rfl, hremote⟩ := hx
  obtain ⟨call', hcall', hrule⟩ := run.rule_at
  obtain rfl := Option.some.inj (hc.symm.trans hcall')
  refine hrule.held hname fun other haction => ?_
  rw [haction] at hremote
  exact nomatch hremote

/-- A call that does remote work later holds its name until then. -/
theorem Run.remote_work_unmixed {middle : List Happening} {y z : Happening}
    (run : Run (c.serve store calls) (first ++ x :: middle ++ z :: second) tasks)
    (hx : x.IsRemoteOf i) (hz : z.IsRemoteOf i) {a b : Call} (ha : calls[i]? = some a)
    (hb : calls[j]? = some b) (hna : a.name? = some name) (hnb : b.name? = some name)
    (hy : y ∈ middle) (hyj : y.IsRemoteOf j) : i = j := by
  -- split the run where `j` does its work: there both calls hold the name
  obtain ⟨left, right, rfl⟩ := List.append_of_mem hy
  have hlist : first ++ x :: (left ++ y :: right) ++ z :: second =
      (first ++ x :: left) ++ y :: (right ++ z :: second) := by simp
  rw [hlist] at run
  have hj := run.remote_holds hyj hb hnb
  obtain ⟨between, hf, hr⟩ := run.split
  refine hf.same_call (hf.holds_name ha hna ?_ fun answer hdone => ?_) hj
  · rw [own_append, ← hx.1, own_cons_self]
    simp
  · refine hr.not_done (x := z) (by simp) answer ?_
    rw [hz.1]
    exact hdone

/-- The first remote work of a spawn finds its name free. -/
theorem Run.first_remote_free {request : SpawnRequest}
    (run : Run (c.serve store calls) happenings tasks) (hempty : store.placements = [])
    (hs : Step tasks (some x) next) (hc : calls[x.task]? = some (.spawn request))
    (hx : x.action.isRemote = true) (hfirst : ∀ y ∈ happenings, ¬y.IsRemoteOf x.task) :
    ∀ row ∈ tasks.shared.store.placements, row.partition ≠ request.name := by
  obtain ⟨call, hcall, hrule⟩ := run.rule hs
  obtain rfl := Option.some.inj (hc.symm.trans hcall)
  obtain ⟨hholds, hfound⟩ := Controller.SpawnRule.remote hrule hx
  refine (run.placed hempty).free x.task request.name ⟨hholds, hfound, ?_⟩
  intro exchange hmem placement haction
  -- before a record there is a definition, which is remote work
  obtain ⟨y, hy, hytask, rfl⟩ := exists_of_mem_own hmem
  obtain ⟨first, second, rfl⟩ := List.append_of_mem hy
  obtain ⟨call, hcall, hrule⟩ := run.rule_at
  rw [show y.action = _ from haction] at hrule
  obtain ⟨other, rfl, hrecording⟩ := hrule.recording
  obtain ⟨earlier, hearlier, hremote⟩ := hrecording.exists_remote
  obtain ⟨z, hz, hztask, rfl⟩ := exists_of_mem_own hearlier
  exact hfirst z (List.mem_append_left _ hz) ⟨hztask.trans hytask, hremote⟩

/-- Who does not hold a name adds no row for it. -/
theorem Step.no_new_row (run : Run (c.serve store calls) happenings tasks)
    (hs : Step tasks (some x) next) (hi : held (own i happenings) = some name)
    (hx : x.task ≠ i) {row : PlacementRow} (hrow : row ∈ next.shared.store.placements)
    (hname : row.partition = name) : row ∈ tasks.shared.store.placements := by
  rw [hs.placements] at hrow
  rcases x.exchange.onPlacements_cases with
    ⟨placement, hexchange⟩ | ⟨workload, there, hexchange⟩ | hexchange
  · -- whoever records a row holds its name, and only task `i` holds this one
    obtain ⟨call, hcall, hrule⟩ := run.rule hs
    rw [Happening.eq_of_exchange hexchange] at hrule
    rw [hexchange] at hrow
    obtain ⟨request, rfl, hrecording⟩ := hrule.recording
    obtain ⟨hsaw, hpartition⟩ := sawFree_of_recording hrecording
    rcases PlacementTable.mem_record.mp hrow with rfl | ⟨hmem, -⟩
    · have hsame : request.name = name := hpartition.symm.trans hname
      exact absurd (run.same_call (hsame ▸ hsaw.holds) hi) hx
    · exact hmem
  · rw [hexchange] at hrow
    exact (PlacementTable.mem_erase.mp hrow).1
  · rw [hexchange] at hrow
    exact hrow

/-! ## The whole -/

/-- In every interleaving of calls that starts without placements: no partition has two rows;
remote work of two calls on one name is not mixed; and the first remote work of a spawn finds its
name free, and nobody else adds a row for the name before the spawn ends. -/
theorem names_exclusive (run : Run (c.serve store calls) happenings tasks)
    (hempty : store.placements = []) :
    (tasks.shared.store.placements.map (·.partition)).Nodup ∧
    (∀ i j a b name, i ≠ j → calls[i]? = some a → calls[j]? = some b →
      a.name? = some name → b.name? = some name →
      ∀ before first middle last after,
        happenings = before ++ first :: middle ++ last :: after →
        first.IsRemoteOf i → last.IsRemoteOf i → ∀ x ∈ middle, ¬x.IsRemoteOf j) ∧
    ∀ x next request, Step tasks (some x) next → calls[x.task]? = some (.spawn request) →
      x.action.isRemote = true → (∀ y ∈ happenings, ¬y.IsRemoteOf x.task) →
      (∀ row ∈ tasks.shared.store.placements, row.partition ≠ request.name) ∧
      ∀ more later y after, Run next more later →
        (∀ answer, later.programs[x.task]? ≠ some (.done answer)) →
        Step later (some y) after → y.task ≠ x.task →
        ∀ row ∈ after.shared.store.placements, row.partition = request.name →
          row ∈ later.shared.store.placements := by
  refine ⟨(run.placed hempty).partitions, ?_, ?_⟩
  · rintro i j a b name hij ha hb hna hnb before first middle last after rfl hfirst hlast x hx hxj
    exact hij (run.remote_work_unmixed hfirst hlast ha hb hna hnb hx hxj)
  · intro x next request hs hc hx hfirst
    refine ⟨run.first_remote_free hempty hs hc hx hfirst, ?_⟩
    intro more later y after hmore hend hy hyx row hrow hname
    -- the spawn has begun and not ended, so it holds the name at the later step, and `y` does not
    have run' := run.append (.step hs hmore)
    refine hy.no_new_row run' (run'.holds_name hc rfl ?_ hend) hyx hrow hname
    rw [own_append, Option.toList_some, List.cons_append, own_cons_self]
    simp

/-- The spawn and the removal of `web` do not mix their remote work. -/
theorem names_exclusive_sample :
    (Sample.removed.shared.store.placements.map (·.partition)).Nodup ∧
      ∀ before first middle last after,
        Sample.history = before ++ first :: middle ++ last :: after →
        first.IsRemoteOf 0 → last.IsRemoteOf 0 → ∀ x ∈ middle, ¬x.IsRemoteOf 1 := by
  obtain ⟨hrows, hunmixed, -⟩ := names_exclusive Sample.removed_run rfl
  exact ⟨hrows, hunmixed 0 1 _ _ "web" (by decide) rfl rfl rfl rfl⟩

end Tasks

end VparFleet
