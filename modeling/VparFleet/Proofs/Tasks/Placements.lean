import VparFleet.Proofs.Store.Placements
import VparFleet.Proofs.Tasks.History

/-!
# Placements in a run

The placement table changes only where a record or a removal is answered, and a search for a
placement is answered from the table as it is at that moment.

* `Step.store`, `Step.placements`: what a step does to the store and to the table.
* `Step.found_none`, `Step.found_some`: what the answer to a search says about the table.
-/

namespace VparFleet

open Store

/-- What becomes of the placement table with an exchange. -/
def Exchange.onPlacements : Exchange → PlacementTable → PlacementTable
  | ⟨.recordPlacement placement, .ok _⟩, table => table.record (.ofPlacement placement)
  | ⟨.removePlacement workload, .ok _⟩, table => table.erase workload
  | _, table => table

/-- An exchange with the table records a row, removes one, or changes nothing. -/
theorem Exchange.onPlacements_cases (exchange : Exchange) :
    (∃ placement, exchange = ⟨.recordPlacement placement, .ok ()⟩) ∨
      (∃ workload there, exchange = ⟨.removePlacement workload, .ok there⟩) ∨
        ∀ table : PlacementTable, exchange.onPlacements table = table := by
  obtain ⟨action, reply⟩ := exchange
  cases action with
  | recordPlacement placement =>
    rcases reply with fault | ⟨⟩
    · exact Or.inr (Or.inr fun table => rfl)
    · exact Or.inl ⟨placement, rfl⟩
  | removePlacement workload =>
    rcases reply with fault | there
    · exact Or.inr (Or.inr fun table => rfl)
    · exact Or.inr (Or.inl ⟨workload, there, rfl⟩)
  | _ => exact Or.inr (Or.inr fun table => rfl)

namespace Shared

variable {shared shared' : Shared} {task : Nat}

/-- Locking a name leaves the store as it is. -/
theorem lockName_store (shared : Shared) (task : Nat) (name : String) :
    (shared.lockName task name).2.store = shared.store := by
  unfold lockName
  dsimp only
  split <;> rfl

/-- A record changes the store as its answer says, be the store open or not. -/
theorem recordPlacement_store (placement : Placement) (store : Store) :
    let result := (recordPlacement placement).run.run store
    result.2 = ⟨store.nodes,
      Exchange.onPlacements ⟨.recordPlacement placement, result.1⟩ store.placements,
      store.isOpen⟩ := by
  intro result
  have hresult : result = (recordPlacement placement).run.run store := rfl
  rcases Bool.eq_false_or_eq_true store.isOpen with ho | ho
  · rw [hresult, run_recordPlacement placement ho]
    rfl
  · rw [hresult, run_recordPlacement_closed placement ho]
    rfl

/-- A removal changes the store as its answer says. -/
theorem removePlacement_store (workload : String) (store : Store) :
    let result := (removePlacement workload).run.run store
    result.2 = ⟨store.nodes,
      Exchange.onPlacements ⟨.removePlacement workload, result.1⟩ store.placements,
      store.isOpen⟩ := by
  intro result
  have hresult : result = (removePlacement workload).run.run store := rfl
  rcases Bool.eq_false_or_eq_true store.isOpen with ho | ho
  · rw [hresult, run_removePlacement workload ho]
    rfl
  · rw [hresult, run_removePlacement_closed workload ho]
    rfl

/-- What an answer does to the store. -/
theorem answer_store {action : Action} {reply : action.Reply}
    (h : shared.answer task action = .reply reply shared') :
    ∃ nodes, shared'.store =
      ⟨nodes, Exchange.onPlacements ⟨action, reply⟩ shared.store.placements,
        shared.store.isOpen⟩ := by
  cases action with
  | lockName name =>
    rw [answer] at h
    dsimp only at h
    split at h
    · injection h with _ h
      rw [← h]
      exact ⟨_, lockName_store shared task name⟩
    · exact nomatch h
  | lockRefresh =>
    rw [answer] at h
    dsimp only at h
    split at h
    · injection h with _ h
      rw [← h]
      exact ⟨_, rfl⟩
    · exact nomatch h
  -- the two statements that change the table
  | recordPlacement placement =>
    injection h with hr hs
    rw [← hr, ← hs]
    exact ⟨_, recordPlacement_store placement shared.store⟩
  | removePlacement workload =>
    injection h with hr hs
    rw [← hr, ← hs]
    exact ⟨_, removePlacement_store workload shared.store⟩
  -- searches and lists change nothing
  | findPlacement partition =>
    injection h with _ hs
    rw [← hs]
    rw [query, run_findPlacement_answer]
    exact ⟨_, rfl⟩
  | listNodes =>
    injection h with _ hs
    rw [← hs]
    rw [query, run_listNodes]
    exact ⟨_, rfl⟩
  -- the node table is all that these can change
  | findNode address =>
    injection h with _ hs
    rw [← hs]
    exact ⟨_, findNode_store address shared.store⟩
  | addNode node =>
    injection h with _ hs
    rw [← hs]
    exact addNode_store node shared.store
  | updateNode node =>
    injection h with _ hs
    rw [← hs]
    exact updateNode_store node shared.store
  | run | openConsole | send | waitForPrompt | closeConsole | pause | clock => exact nomatch h
  | unlockName | unlockRefresh | generation | cached | publish | bumpGeneration =>
    injection h with _ hs
    subst hs
    exact ⟨_, rfl⟩

/-- Waiting leaves the store as it is. -/
theorem answer_wait_store {action : Action} (h : shared.answer task action = .wait shared') :
    shared'.store = shared.store := by
  cases action with
  | lockName name =>
    rw [answer] at h
    dsimp only at h
    split at h
    · exact nomatch h
    · injection h with h
      rw [← h]
      exact lockName_store shared task name
  | lockRefresh =>
    rw [answer] at h
    dsimp only at h
    split at h
    · exact nomatch h
    · injection h with h
      rw [← h]
      rfl
  | _ => exact nomatch h

theorem answer_listNodes (shared : Shared) (task : Nat) :
    shared.answer task .listNodes = .reply shared.store.nodesAnswer shared := by
  rw [answer, query, run_listNodes]
  rfl

/-- Whoever looks for a placement is answered from the store. -/
theorem answer_findPlacement (shared : Shared) (task : Nat) (partition : String) :
    shared.answer task (.findPlacement partition) =
        .reply (shared.store.placementAnswer partition) shared := by
  rw [answer, query, run_findPlacement_answer]
  rfl

/-- An open store records what it is given. -/
theorem answer_recordPlacement (shared : Shared) (task : Nat) (placement : Placement)
    (h : shared.store.isOpen = true) :
    shared.answer task (.recordPlacement placement) = .reply (.ok ()) { shared with
      store := { shared.store with
        placements := shared.store.placements.record (.ofPlacement placement) } } := by
  rw [answer, query, run_recordPlacement placement h]
  rfl

/-- An open store removes what it is told to. -/
theorem answer_removePlacement (shared : Shared) (task : Nat) (workload : String)
    (h : shared.store.isOpen = true) :
    shared.answer task (.removePlacement workload) =
      .reply (.ok (shared.store.placements.holds workload)) { shared with
        store := { shared.store with placements := shared.store.placements.erase workload } } := by
  rw [answer, query, run_removePlacement workload h]
  rfl

/-- What hosts and the clock answer has nothing to do with placements. -/
theorem onPlacements_of_outside {action : Action} (h : shared.answer task action = .outside)
    (reply : action.Reply) (table : PlacementTable) :
    Exchange.onPlacements ⟨action, reply⟩ table = table := by
  cases action with
  -- the statements that change the table are answered inside
  | recordPlacement | removePlacement => exact nomatch h
  | _ => rfl

/-- A search that finds nothing is answered by a table without rows of the partition. -/
theorem answer_found_none {partition : String}
    (h : shared.answer task (.findPlacement partition) = .reply (.ok none) shared') :
    ∀ row ∈ shared.store.placements, row.partition ≠ partition := by
  rw [answer_findPlacement] at h
  injection h with hr _
  exact PlacementTable.latest?_eq_none_iff.mp (latest?_of_placementAnswer_eq_none hr)

/-- A search that finds a placement is answered by a row of the table. -/
theorem answer_found_some {partition : String} {placement : Placement}
    (h : shared.answer task (.findPlacement partition) = .reply (.ok (some placement)) shared') :
    ∃ row ∈ shared.store.placements, row.partition = partition ∧
      row.workload = placement.workload ∧ row.node = placement.node := by
  rw [answer_findPlacement] at h
  injection h with hr _
  obtain ⟨-, row, hl, hrow⟩ := of_placementAnswer_eq_some hr
  obtain ⟨hmem, hp⟩ := PlacementTable.mem_of_latest?_eq_some hl
  exact ⟨row, hmem, hp, hrow⟩

end Shared

namespace Tasks

variable {α : Type} {tasks next : Tasks α} {x : Happening} {i : Nat} {partition : String}

/-- What a step does to the store. -/
theorem Step.store (h : Step tasks (some x) next) :
    ∃ nodes, next.shared.store =
      ⟨nodes, x.exchange.onPlacements tasks.shared.store.placements,
        tasks.shared.store.isOpen⟩ := by
  cases h with
  | inside hp ha => exact Shared.answer_store ha
  | @outside _ action _ reply hp ha =>
    have hsame := Shared.onPlacements_of_outside ha reply tasks.shared.store.placements
    exact ⟨tasks.shared.store.nodes, congrArg (Store.mk _ · _) hsame.symm⟩

theorem Step.placements (h : Step tasks (some x) next) :
    next.shared.store.placements = x.exchange.onPlacements tasks.shared.store.placements := by
  obtain ⟨nodes, hstore⟩ := h.store
  rw [hstore]

theorem Step.waited_store (h : Step tasks none next) : next.shared.store = tasks.shared.store := by
  cases h with
  | wait hp ha => exact Shared.answer_wait_store ha

/-- A run leaves a store open or closed. -/
theorem Run.isOpen {happenings : List Happening} (run : Run tasks happenings next) :
    next.shared.store.isOpen = tasks.shared.store.isOpen := by
  refine run.invariant (fun _ next => next.shared.store.isOpen = tasks.shared.store.isOpen) rfl ?_
  intro past between happening next _ hbetween hs
  cases happening with
  | none => rw [hs.waited_store, hbetween]
  | some x =>
    obtain ⟨nodes, hstore⟩ := hs.store
    rw [hstore, hbetween]

/-- Who finds nothing meets a table without rows of the partition. -/
theorem Step.found_none (h : Step tasks (some ⟨i, .findPlacement partition, .ok none⟩) next) :
    ∀ row ∈ tasks.shared.store.placements, row.partition ≠ partition := by
  cases h with
  | inside hp ha => exact Shared.answer_found_none ha
  | outside hp ha => exact nomatch ha

/-- Who finds a placement meets its row. -/
theorem Step.found_some {placement : Placement}
    (h : Step tasks (some ⟨i, .findPlacement partition, .ok (some placement)⟩) next) :
    ∃ row ∈ tasks.shared.store.placements, row.partition = partition ∧
      row.workload = placement.workload ∧ row.node = placement.node := by
  cases h with
  | inside hp ha => exact Shared.answer_found_some ha
  | outside hp ha => exact nomatch ha

end Tasks

end VparFleet
