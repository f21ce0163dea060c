import Mathlib.Data.List.Nodup
import VparFleet.Store

/-!
# Rows of the placement table

The table is keyed by workload and searched by partition. A record takes the place of the row of its
workload, whatever partition that row was for, so nothing in the table itself keeps a partition from
having two rows, or from losing its row to another partition.

* `mem_record`, `mem_erase`: which rows there are after a change.
* `workloads_record`: a workload never has two rows.
* `partitions_record`: a partition has no two rows if it had none before its record.
* `latest?_eq_some_iff`: the latest row of a partition with one row is that row.
* `run_recordPlacement`, `run_removePlacement`: what the statements do to the table; no other one
  changes it.
-/

namespace VparFleet.Store.PlacementTable

variable {table : PlacementTable} {row r : PlacementRow} {workload partition : String}

/-! ## Changes -/

/-- After a record the rows are the new one and those of other workloads. -/
theorem mem_record : r ∈ table.record row ↔ r = row ∨ r ∈ table ∧ r.workload ≠ row.workload := by
  unfold record
  by_cases hold : table.any (·.workload = row.workload) = true
  · -- the row of the workload is there, and is replaced where it stands
    rw [if_pos hold, List.mem_map]
    constructor
    · rintro ⟨old, hmem, rfl⟩
      by_cases h : old.workload = row.workload
      · rw [if_pos h]
        exact Or.inl rfl
      · rw [if_neg h]
        exact Or.inr ⟨hmem, h⟩
    · rintro (rfl | ⟨hmem, h⟩)
      · obtain ⟨old, hmem, h⟩ := List.any_eq_true.mp hold
        exact ⟨old, hmem, if_pos (by simpa using h)⟩
      · exact ⟨r, hmem, if_neg h⟩
  · -- the workload is new, and its row comes last
    have hnone : ∀ old ∈ table, old.workload ≠ row.workload := by simpa using hold
    rw [if_neg hold, List.mem_append, List.mem_singleton]
    constructor
    · rintro (hmem | rfl)
      · exact Or.inr ⟨hmem, hnone r hmem⟩
      · exact Or.inl rfl
    · rintro (rfl | ⟨hmem, -⟩)
      · exact Or.inr rfl
      · exact Or.inl hmem

theorem mem_erase : r ∈ table.erase workload ↔ r ∈ table ∧ r.workload ≠ workload := by
  simp [erase]

/-! ## Keys -/

/-- A record keeps the workloads different. -/
theorem workloads_record (h : (table.map (·.workload)).Nodup) :
    ((table.record row).map (·.workload)).Nodup := by
  unfold record
  by_cases hold : table.any (·.workload = row.workload) = true
  · -- a row that is replaced has the same key
    have hsame : (table.map fun old => if old.workload = row.workload then row else old).map
        (·.workload) = table.map (·.workload) := by
      rw [List.map_map]
      refine List.map_congr_left fun old _ => ?_
      by_cases h : old.workload = row.workload
      · simp [h]
      · simp [h]
    rw [if_pos hold, hsame]
    exact h
  · have hnone : ∀ old ∈ table, old.workload ≠ row.workload := by simpa using hold
    rw [if_neg hold, List.map_append, List.nodup_append]
    refine ⟨h, by simp, ?_⟩
    -- the new workload differs from all that have a row
    intro key hkey key' hkey' heq
    obtain ⟨old, hmem, rfl⟩ := List.mem_map.mp hkey
    exact hnone old hmem (heq.trans (by simpa using hkey'))

/-- Two rows of one partition are the same row, before and after its partition gets a row. -/
theorem partitions_record (hw : (table.map (·.workload)).Nodup)
    (hp : (table.map (·.partition)).Nodup) (hfree : ∀ r ∈ table, r.partition ≠ row.partition) :
    ((table.record row).map (·.partition)).Nodup := by
  refine List.Nodup.map_on ?_ (List.Nodup.of_map _ (workloads_record hw))
  intro a ha b hb heq
  -- an old row and the new one are of different partitions, by `hfree`
  rcases mem_record.mp ha with ha' | ⟨ha', -⟩ <;> rcases mem_record.mp hb with hb' | ⟨hb', -⟩
  · rw [ha', hb']
  · exact absurd (heq.symm.trans (ha' ▸ rfl)) (hfree b hb')
  · exact absurd (heq.trans (hb' ▸ rfl)) (hfree a ha')
  · exact List.inj_on_of_nodup_map hp ha' hb' heq

theorem workloads_erase (h : (table.map (·.workload)).Nodup) :
    ((table.erase workload).map (·.workload)).Nodup :=
  h.sublist (List.filter_sublist.map _)

theorem partitions_erase (h : (table.map (·.partition)).Nodup) :
    ((table.erase workload).map (·.partition)).Nodup :=
  h.sublist (List.filter_sublist.map _)

/-! ## The latest row -/

/-- The later of two rows is one of them. -/
theorem later_eq (best : Option PlacementRow) (row : PlacementRow) :
    later best row = some row ∨ later best row = best ∧ best ≠ none := by
  rcases best with _ | old
  · exact Or.inl rfl
  · unfold later
    dsimp only
    split
    · exact Or.inl rfl
    · exact Or.inr ⟨rfl, nofun⟩

/-- The latest of some rows is one of them, and there is one unless there are no rows. -/
theorem foldl_later (rows : List PlacementRow) (best : Option PlacementRow) :
    (rows = [] ∧ rows.foldl later best = best) ∨
      ∃ row, rows.foldl later best = some row ∧ (row ∈ rows ∨ best = some row) := by
  induction rows generalizing best with
  | nil => exact Or.inl ⟨rfl, rfl⟩
  | cons first rows ih =>
    refine Or.inr ?_
    rw [List.foldl_cons]
    -- the best so far is either the old best one or the row just passed
    rcases ih (later best first) with ⟨rfl, h⟩ | ⟨row, h, hrow⟩
    · rcases later_eq best first with hl | ⟨hl, hbest⟩
      · exact ⟨first, h.trans hl, Or.inl List.mem_cons_self⟩
      · obtain ⟨old, rfl⟩ := Option.ne_none_iff_exists'.mp hbest
        exact ⟨old, h.trans hl, Or.inr rfl⟩
    · rcases hrow with hrow | hrow
      · exact ⟨row, h, Or.inl (List.mem_cons_of_mem _ hrow)⟩
      · rcases later_eq best first with hl | ⟨hl, -⟩
        · obtain rfl := Option.some.inj (hl.symm.trans hrow)
          exact ⟨first, h, Or.inl List.mem_cons_self⟩
        · exact ⟨row, h, Or.inr (hl.symm.trans hrow)⟩

/-- What is found is a row of the partition. -/
theorem mem_of_latest?_eq_some (h : table.latest? partition = some row) :
    row ∈ table ∧ row.partition = partition := by
  rcases foldl_later (table.filter (·.partition = partition)) none with ⟨-, hnone⟩ | ⟨r, hr, hmem⟩
  · exact nomatch hnone.symm.trans h
  · obtain rfl := Option.some.inj (hr.symm.trans h)
    -- the best row is one that was passed, for there was none at the start
    rcases hmem with hmem | hmem
    · simpa using hmem
    · exact nomatch hmem

/-- Nothing is found exactly when the partition has no row. -/
theorem latest?_eq_none_iff :
    table.latest? partition = none ↔ ∀ r ∈ table, r.partition ≠ partition := by
  rcases foldl_later (table.filter (·.partition = partition)) none with ⟨hnil, h⟩ | ⟨r, hr, hmem⟩
  · refine ⟨fun _ => ?_, fun _ => h⟩
    simpa using hnil
  · refine ⟨fun h => (nomatch hr.symm.trans h), fun hall => ?_⟩
    rcases hmem with hmem | hmem
    · obtain ⟨hmem, hp⟩ := List.mem_filter.mp hmem
      exact absurd (by simpa using hp) (hall r hmem)
    · exact nomatch hmem

/-- With no two rows of a partition, the latest one is the only one. -/
theorem latest?_eq_some_iff (hp : (table.map (·.partition)).Nodup) :
    table.latest? partition = some row ↔ row ∈ table ∧ row.partition = partition := by
  refine ⟨mem_of_latest?_eq_some, ?_⟩
  rintro ⟨hmem, rfl⟩
  cases h : table.latest? row.partition with
  | none => exact absurd rfl (latest?_eq_none_iff.mp h row hmem)
  | some r =>
    obtain ⟨hr, heq⟩ := mem_of_latest?_eq_some h
    rw [List.inj_on_of_nodup_map hp hr hmem heq]

end VparFleet.Store.PlacementTable

/-! ## Statements -/

namespace VparFleet.Store

variable {store : Store}

/-- An open store records a placement. -/
theorem run_recordPlacement (placement : Placement) (h : store.isOpen = true) :
    (recordPlacement placement).run.run store =
      (.ok (), { store with placements := store.placements.record (.ofPlacement placement) }) := by
  obtain ⟨nodes, placements, isOpen⟩ := store
  obtain rfl : isOpen = true := h
  rfl

/-- A closed one records nothing. -/
theorem run_recordPlacement_closed (placement : Placement) (h : store.isOpen = false) :
    (recordPlacement placement).run.run store = (.error StoreCause.closed.fault, store) := by
  obtain ⟨nodes, placements, isOpen⟩ := store
  obtain rfl : isOpen = false := h
  rfl

/-- An open store removes the row of a workload, and tells whether there was one. -/
theorem run_removePlacement (workload : String) (h : store.isOpen = true) :
    (removePlacement workload).run.run store =
      (.ok (store.placements.holds workload),
        { store with placements := store.placements.erase workload }) := by
  obtain ⟨nodes, placements, isOpen⟩ := store
  obtain rfl : isOpen = true := h
  rfl

/-- A closed one removes nothing. -/
theorem run_removePlacement_closed (workload : String) (h : store.isOpen = false) :
    (removePlacement workload).run.run store = (.error StoreCause.closed.fault, store) := by
  obtain ⟨nodes, placements, isOpen⟩ := store
  obtain rfl : isOpen = false := h
  rfl

/-- An open store lets a statement go on. -/
theorem run_whenOpen_bind {α : Type} (k : Unit → Statement α) (h : store.isOpen = true) :
    (whenOpen >>= k).run.run store = (k ()).run.run store := by
  obtain ⟨nodes, placements, isOpen⟩ := store
  obtain rfl : isOpen = true := h
  rfl

theorem run_get_bind {α : Type} (k : Store → Statement α) :
    (get >>= k).run.run store = (k store).run.run store :=
  rfl

/-- What a search for a placement is answered with. -/
theorem run_findPlacement (partition : String) (h : store.isOpen = true) :
    (findPlacement partition).run.run store =
      (match store.placements.latest? partition with
        | some row => row.toPlacement.map some
        | none => .ok none, store) := by
  rw [findPlacement, run_whenOpen_bind _ h, run_get_bind]
  cases store.placements.latest? partition with
  | none => rfl
  | some row =>
    dsimp only
    rcases row.toPlacement with fault | placement <;> rfl

/-- A closed store answers no search. -/
theorem run_findPlacement_closed (partition : String) (h : store.isOpen = false) :
    (findPlacement partition).run.run store = (.error StoreCause.closed.fault, store) := by
  obtain ⟨nodes, placements, isOpen⟩ := store
  obtain rfl : isOpen = false := h
  rfl

/-- What a list of the nodes is answered with. -/
def nodesAnswer (store : Store) : Outcome (List Node) :=
  (listNodes.run.run store).1

/-- What a search for a placement is answered with. -/
def placementAnswer (store : Store) (partition : String) : Outcome (Option Placement) :=
  ((findPlacement partition).run.run store).1

/-- A search changes nothing. -/
theorem run_findPlacement_answer (partition : String) :
    (findPlacement partition).run.run store = (store.placementAnswer partition, store) := by
  rcases Bool.eq_false_or_eq_true store.isOpen with ho | ho
  · rw [placementAnswer, run_findPlacement partition ho]
  · rw [placementAnswer, run_findPlacement_closed partition ho]

/-- Listing the nodes changes nothing. -/
theorem run_listNodes : listNodes.run.run store = (store.nodesAnswer, store) := by
  obtain ⟨nodes, placements, isOpen⟩ := store
  cases isOpen <;> rfl

/-- Only an open store lists its nodes. -/
theorem isOpen_of_nodesAnswer {nodes : List Node} (h : store.nodesAnswer = .ok nodes) :
    store.isOpen = true := by
  obtain ⟨nodes, placements, isOpen⟩ := store
  cases isOpen with
  | true => rfl
  | false => exact nomatch h

/-- A search for a node changes nothing. -/
theorem findNode_store (address : String) (store : Store) :
    ((findNode address).run.run store).2 = store := by
  cases ho : store.isOpen with
  | false =>
    obtain ⟨nodes, placements, isOpen⟩ := store
    obtain rfl : isOpen = false := ho
    rfl
  | true =>
    rw [findNode, run_whenOpen_bind _ ho, run_get_bind]
    cases store.nodes.find? address with
    | none => rfl
    | some row =>
      dsimp only
      rcases row.toNode with fault | node <;> rfl

/-- Adding a node leaves all but the node table as it is. -/
theorem addNode_store (node : Node) (store : Store) :
    ∃ nodes, ((addNode node).run.run store).2 = { store with nodes } := by
  obtain ⟨nodes, placements, isOpen⟩ := store
  unfold addNode insertNodeRow
  -- a node that does not fit is refused before the table is looked at
  rcases NodeRow.ofNode node with fault | row
  · exact ⟨_, rfl⟩
  cases isOpen with
  | false => exact ⟨_, rfl⟩
  | true =>
    -- the table refuses the row or takes it, and the rest of the store stays
    show ∃ nodes', (StateT.run (ExceptT.run (ofRefusal (nodes.insert row) >>= _
      : Statement Unit)) _).2 = ⟨nodes', placements, true⟩
    rcases nodes.insert row with cause | nodes <;> exact ⟨_, rfl⟩

/-- Updating a node leaves all but the node table as it is. -/
theorem updateNode_store (node : Node) (store : Store) :
    ∃ nodes, ((updateNode node).run.run store).2 = { store with nodes } := by
  obtain ⟨nodes, placements, isOpen⟩ := store
  unfold updateNode
  rcases NodeRow.ofNode node with fault | row
  · exact ⟨_, rfl⟩
  cases isOpen with
  | false => exact ⟨_, rfl⟩
  | true =>
    show ∃ nodes', (StateT.run (ExceptT.run (ofRefusal (nodes.replace? row) >>= _
      : Statement Unit)) _).2 = ⟨nodes', placements, true⟩
    rcases nodes.replace? row with cause | _ | nodes <;> exact ⟨_, rfl⟩

/-- A search is answered from the placement table of an open store. -/
theorem placementAnswer_congr {store' : Store} {partition : String}
    (ho : store'.isOpen = store.isOpen)
    (hl : store'.placements.latest? partition = store.placements.latest? partition) :
    store'.placementAnswer partition = store.placementAnswer partition := by
  unfold placementAnswer
  cases h : store.isOpen with
  | true =>
    rw [run_findPlacement partition h, run_findPlacement partition (ho.trans h), hl]
  | false =>
    rw [run_findPlacement_closed partition h, run_findPlacement_closed partition (ho.trans h)]

/-- What is found is a row of the table. -/
theorem of_placementAnswer_eq_some {partition : String} {placement : Placement}
    (h : store.placementAnswer partition = .ok (some placement)) :
    store.isOpen = true ∧ ∃ row, store.placements.latest? partition = some row ∧
      row.workload = placement.workload ∧ row.node = placement.node := by
  unfold placementAnswer at h
  cases ho : store.isOpen with
  | false =>
    rw [run_findPlacement_closed partition ho] at h
    exact nomatch h
  | true =>
    rw [run_findPlacement partition ho] at h
    cases hl : store.placements.latest? partition with
    | none =>
      rw [hl] at h
      exact nomatch h
    | some row =>
      rw [hl] at h
      refine ⟨rfl, row, rfl, ?_⟩
      -- reading a row takes only its instant from a text
      dsimp only [PlacementRow.toPlacement] at h
      split at h
      · injection h with h
        injection h with h
        rw [← h]
        exact ⟨rfl, rfl⟩
      · exact nomatch h

/-- Nothing is found when the table has no row of the partition. -/
theorem latest?_of_placementAnswer_eq_none {partition : String}
    (h : store.placementAnswer partition = .ok none) :
    store.placements.latest? partition = none := by
  unfold placementAnswer at h
  cases ho : store.isOpen with
  | false =>
    rw [run_findPlacement_closed partition ho] at h
    exact nomatch h
  | true =>
    rw [run_findPlacement partition ho] at h
    cases hl : store.placements.latest? partition with
    | none => rfl
    | some row =>
      rw [hl] at h
      dsimp only [PlacementRow.toPlacement] at h
      split at h <;> exact nomatch h

/-- Nothing is found in an open store without rows of the partition. -/
theorem placementAnswer_eq_none {partition : String} (ho : store.isOpen = true)
    (hl : store.placements.latest? partition = none) :
    store.placementAnswer partition = .ok none := by
  unfold placementAnswer
  rw [run_findPlacement partition ho, hl]

/-- With no two rows of a partition, nothing is found when the row that was found is taken out. -/
theorem placementAnswer_erase {partition : String} {placement : Placement}
    (hp : (store.placements.map (·.partition)).Nodup)
    (h : store.placementAnswer partition = .ok (some placement)) :
    { store with placements := store.placements.erase placement.workload }.placementAnswer
      partition = .ok none := by
  obtain ⟨ho, row, hlatest, hworkload, -⟩ := of_placementAnswer_eq_some h
  obtain ⟨hrow, rfl⟩ := PlacementTable.mem_of_latest?_eq_some hlatest
  refine placementAnswer_eq_none ho (PlacementTable.latest?_eq_none_iff.mpr fun r hr heq => ?_)
  -- a row of the partition is the one that was found, and that one is gone
  obtain ⟨hr, hne⟩ := PlacementTable.mem_erase.mp hr
  obtain rfl := List.inj_on_of_nodup_map hp hr hrow heq
  exact hne hworkload

end VparFleet.Store
