import Mathlib.Logic.Function.Basic
import VparFleet.Proofs.Instant.Reading
import VparFleet.Proofs.Store.Calls
import VparFleet.Proofs.Tasks.Placements

/-!
# Calls on the placement table

However placements are recorded, removed and searched for, the placement table maps every workload
to the placement that was recorded last and has not been removed since. Instants are compared as
text, but the order of the texts is that of the instants, so a search for a partition finds a latest
one of its placements, exactly as it was recorded.

* `createdAt_le_of_latest?`: no row is later than the one that is found.
* `Ledger`, `Ledger.find?`: a table that can be read, and the placement of each workload in it.
* `Ledger.Step`: what a call makes of a ledger, and what it ends with.
* `Ledger.ends`: one call; `placement_calls_keep_latest`: any number of them.
-/

namespace VparFleet

/-! ## The latest row -/

namespace Store.PlacementTable

variable {table : PlacementTable} {row : PlacementRow} {partition : String}

/-- No row that was passed is later than the best. -/
theorem createdAt_le_of_foldl_later {rows : List PlacementRow} {best : Option PlacementRow}
    (h : rows.foldl later best = some row) :
    (∀ old, best = some old → old.createdAt ≤ row.createdAt) ∧
      ∀ r ∈ rows, r.createdAt ≤ row.createdAt := by
  induction rows generalizing best with
  | nil =>
    refine ⟨?_, nofun⟩
    rintro old rfl
    obtain rfl := Option.some.inj h
    exact String.le_refl _
  | cons first rows ih =>
    rw [List.foldl_cons] at h
    obtain ⟨hbest, hrows⟩ := ih h
    -- neither the best row so far nor the next one is later than the later one of the two
    have hlater : (∀ old, best = some old → old.createdAt ≤ row.createdAt) ∧
        first.createdAt ≤ row.createdAt := by
      rcases best with _ | old
      · exact ⟨nofun, hbest first rfl⟩
      · by_cases hlt : old.createdAt < first.createdAt
        · have hfirst := hbest first (if_pos hlt)
          refine ⟨?_, hfirst⟩
          rintro _ ⟨⟩
          exact String.le_trans (String.not_lt.mp (String.lt_asymm hlt)) hfirst
        · have hold := hbest old (if_neg hlt)
          refine ⟨?_, String.le_trans (String.not_lt.mp hlt) hold⟩
          rintro _ ⟨⟩
          exact hold
    exact ⟨hlater.1, List.forall_mem_cons.mpr ⟨hlater.2, hrows⟩⟩

theorem createdAt_le_of_latest? (h : table.latest? partition = some row) :
    ∀ r ∈ table, r.partition = partition → r.createdAt ≤ row.createdAt := by
  intro r hr hp
  exact (createdAt_le_of_foldl_later h).2 r (List.mem_filter.mpr ⟨hr, by simpa using hp⟩)

end Store.PlacementTable

/-! ## Ledgers -/

/-- A placement that was recorded at an instant that a clock shows, in a year of four digits. -/
structure Placement.Dated (placement : Placement) : Prop where
  proper : placement.createdAt.Proper
  year : placement.createdAt.HasFourDigitYear

open Store

/-- The placement of a row is the one that the row was made of. -/
theorem Placement.Dated.toPlacement {placement : Placement} (h : placement.Dated) :
    (PlacementRow.ofPlacement placement).toPlacement = .ok placement := by
  unfold PlacementRow.toPlacement PlacementRow.ofPlacement
  dsimp only
  rw [Instant.readStored?_storedText h.proper h.year]

/-- A table in which every workload has one placement at most, and every row can be read. -/
structure Ledger where
  table : PlacementTable
  distinct : (table.map (·.workload)).Nodup
  dated : ∀ row ∈ table, ∃ placement : Placement, placement.Dated ∧ row = .ofPlacement placement

namespace Ledger

variable {ledger : Ledger} {placement : Placement} {workload partition : String}

def empty : Ledger := ⟨[], List.nodup_nil, nofun⟩

/-- The placement of a workload. -/
def find? (ledger : Ledger) (workload : String) : Option Placement :=
  (ledger.table.find? (·.workload = workload)).bind (·.toPlacement.toOption)

/-- The placement of a workload is the one of its row. -/
theorem find?_eq_some_iff :
    ledger.find? workload = some placement ↔
      placement.Dated ∧ .ofPlacement placement ∈ ledger.table ∧ placement.workload = workload := by
  unfold find?
  constructor
  · -- a row can be read, so its placement is the one that it was made of
    intro h
    obtain ⟨row, hrow, h⟩ := Option.bind_eq_some_iff.mp h
    have hmem := List.mem_of_find?_eq_some hrow
    have hworkload : row.workload = workload := by simpa using List.find?_some hrow
    obtain ⟨other, hdated, rfl⟩ := ledger.dated row hmem
    rw [hdated.toPlacement] at h
    obtain rfl : other = placement := Option.some.inj h
    exact ⟨hdated, hmem, hworkload⟩
  · rintro ⟨hdated, hmem, rfl⟩
    have hsome : (ledger.table.find? (·.workload = placement.workload)).isSome := by
      rw [List.find?_isSome]
      exact ⟨_, hmem, decide_eq_true rfl⟩
    obtain ⟨row, hrow⟩ := Option.isSome_iff_exists.mp hsome
    have hworkload : row.workload = placement.workload := by simpa using List.find?_some hrow
    -- no other row is of the workload
    obtain rfl : row = .ofPlacement placement :=
      List.inj_on_of_nodup_map ledger.distinct (List.mem_of_find?_eq_some hrow) hmem hworkload
    rw [hrow, Option.bind_some, hdated.toPlacement]
    rfl

/-- A placement takes the place of that of its workload. -/
theorem exists_record (ledger : Ledger) (h : placement.Dated) :
    ∃ after : Ledger, after.table = ledger.table.record (.ofPlacement placement) ∧
      after.find? = Function.update ledger.find? placement.workload (some placement) := by
  have hdated : ∀ row ∈ ledger.table.record (.ofPlacement placement),
      ∃ other : Placement, other.Dated ∧ row = .ofPlacement other := by
    intro row hrow
    rcases PlacementTable.mem_record.mp hrow with rfl | ⟨hrow, -⟩
    · exact ⟨placement, h, rfl⟩
    · exact ledger.dated row hrow
  let after : Ledger :=
    ⟨ledger.table.record (.ofPlacement placement),
      PlacementTable.workloads_record ledger.distinct, hdated⟩
  refine ⟨after, rfl, funext fun workload => Option.ext fun other => ?_⟩
  rw [find?_eq_some_iff, PlacementTable.mem_record]
  -- the new row is the only one of its workload, and no other workload has lost its row
  by_cases hw : workload = placement.workload
  · subst hw
    rw [Function.update_self]
    constructor
    · rintro ⟨hother, heq | ⟨-, hne⟩, hworkload⟩
      · -- rows tell placements apart
        have hread := hother.toPlacement
        rw [heq, h.toPlacement] at hread
        rw [Except.ok.inj hread]
      · exact absurd hworkload hne
    · rintro ⟨⟩
      exact ⟨h, Or.inl rfl, rfl⟩
  · rw [Function.update_of_ne hw, find?_eq_some_iff]
    constructor
    · rintro ⟨hother, heq | ⟨hmem, -⟩, rfl⟩
      · exact absurd (congrArg PlacementRow.workload heq) hw
      · exact ⟨hother, hmem, rfl⟩
    · rintro ⟨hother, hmem, rfl⟩
      exact ⟨hother, Or.inr ⟨hmem, hw⟩, rfl⟩

/-- A workload is left without a placement. -/
theorem exists_erase (ledger : Ledger) (workload : String) :
    ∃ after : Ledger, after.table = ledger.table.erase workload ∧
      after.find? = Function.update ledger.find? workload none := by
  have hdated : ∀ row ∈ ledger.table.erase workload,
      ∃ other : Placement, other.Dated ∧ row = .ofPlacement other :=
    fun row hrow => ledger.dated row (PlacementTable.mem_erase.mp hrow).1
  let after : Ledger :=
    ⟨ledger.table.erase workload, PlacementTable.workloads_erase ledger.distinct, hdated⟩
  refine ⟨after, rfl, funext fun asked => Option.ext fun other => ?_⟩
  rw [find?_eq_some_iff, PlacementTable.mem_erase]
  -- no row of the workload is left, and no other row is gone
  by_cases hw : asked = workload
  · subst hw
    rw [Function.update_self]
    refine ⟨?_, nofun⟩
    rintro ⟨-, ⟨-, hne⟩, hworkload⟩
    exact absurd hworkload hne
  · rw [Function.update_of_ne hw, find?_eq_some_iff]
    constructor
    · rintro ⟨hother, ⟨hmem, -⟩, hworkload⟩
      exact ⟨hother, hmem, hworkload⟩
    · rintro ⟨hother, hmem, rfl⟩
      exact ⟨hother, ⟨hmem, hw⟩, rfl⟩

/-- Whether a workload has a placement is whether it has a row. -/
theorem holds_eq (ledger : Ledger) (workload : String) :
    ledger.table.holds workload = (ledger.find? workload).isSome := by
  rw [Bool.eq_iff_iff, Option.isSome_iff_exists, PlacementTable.holds, List.any_eq_true]
  constructor
  · rintro ⟨row, hrow, hworkload⟩
    obtain ⟨placement, hdated, rfl⟩ := ledger.dated row hrow
    exact ⟨placement, find?_eq_some_iff.mpr ⟨hdated, hrow, of_decide_eq_true hworkload⟩⟩
  · rintro ⟨placement, h⟩
    obtain ⟨-, hmem, rfl⟩ := find?_eq_some_iff.mp h
    exact ⟨_, hmem, decide_eq_true rfl⟩

/-- A placement of the partition is the latest one of it. -/
structure IsLatest (ledger : Ledger) (partition : String) (placement : Placement) : Prop where
  stored : ledger.find? placement.workload = some placement
  there : placement.partition = partition
  latest : ∀ workload other, ledger.find? workload = some other → other.partition = partition →
    ¬ placement.createdAt.Before other.createdAt

/-- A search for a partition is answered with a latest placement of it, if it has any. -/
theorem placementAnswer_ledger (store : Store) (ho : store.isOpen = true)
    (htable : store.placements = ledger.table) (partition : String) :
    (store.placementAnswer partition = .ok none ∧
      ∀ workload placement, ledger.find? workload = some placement →
        placement.partition ≠ partition) ∨
    ∃ placement, store.placementAnswer partition = .ok (some placement) ∧
      ledger.IsLatest partition placement := by
  rw [placementAnswer, run_findPlacement partition ho, htable]
  cases hlatest : ledger.table.latest? partition with
  -- no row of the partition, so no placement of it
  | none =>
    refine Or.inl ⟨rfl, fun workload placement h => ?_⟩
    obtain ⟨-, hmem, -⟩ := find?_eq_some_iff.mp h
    exact PlacementTable.latest?_eq_none_iff.mp hlatest _ hmem
  | some row =>
    obtain ⟨hmem, hpartition⟩ := PlacementTable.mem_of_latest?_eq_some hlatest
    -- the row that is found is that of a placement
    obtain ⟨placement, hdated, rfl⟩ := ledger.dated row hmem
    refine Or.inr ⟨placement, ?_, find?_eq_some_iff.mpr ⟨hdated, hmem, rfl⟩, hpartition, ?_⟩
    · dsimp only
      rw [hdated.toPlacement]
      rfl
    · intro workload other hother hp
      obtain ⟨hdated', hmem', -⟩ := find?_eq_some_iff.mp hother
      -- the rows were compared as texts
      have hle := PlacementTable.createdAt_le_of_latest? hlatest _ hmem' hp
      rw [← Instant.storedText_lt_iff hdated.proper hdated'.proper hdated.year hdated'.year]
      exact String.not_lt.mpr hle

end Ledger

/-! ## Calls -/

/-- What can be called on the placement table. -/
inductive PlacementCall where
  | record (placement : Placement)
  | remove (workload : String)
  | find (partition : String)

namespace PlacementCall

/-- What a call ends with unless it fails. -/
def Result : PlacementCall → Type
  | record _ => Unit
  | remove _ => Bool
  | find _ => Option Placement

/-- The program of a call. -/
def operation : (call : PlacementCall) → Operation call.Result
  | record placement => .recordPlacement placement
  | remove workload => .removePlacement workload
  | find partition => .findPlacement partition

/-- The workload whose placement a call changes. -/
def workload? : PlacementCall → Option String
  | record placement => some placement.workload
  | remove workload => some workload
  | find _ => none

end PlacementCall

/-- Of the calls that change the placement of a workload, the last one has recorded this one. -/
def LastRecorded (calls : List PlacementCall) (workload : String) (placement : Placement) : Prop :=
  ∃ earlier later, calls = earlier ++ .record placement :: later ∧
    placement.workload = workload ∧ ∀ call ∈ later, call.workload? ≠ some workload

namespace Ledger

/-- What a call makes of a ledger, and what it ends with. -/
inductive Step : Ledger → Ended PlacementCall.Result → Ledger → Prop where
  | recorded {before after : Ledger} {placement : Placement}
      (hafter : after.find? =
        Function.update before.find? placement.workload (some placement)) :
      Step before ⟨.record placement, .ok ()⟩ after
  | removed {before after : Ledger} {workload : String}
      (hafter : after.find? = Function.update before.find? workload none) :
      Step before ⟨.remove workload, .ok (before.find? workload).isSome⟩ after
  | missed {before : Ledger} {partition : String}
      (hnone : ∀ workload placement, before.find? workload = some placement →
        placement.partition ≠ partition) :
      Step before ⟨.find partition, .ok none⟩ before
  | found {before : Ledger} {partition : String} {placement : Placement}
      (h : before.IsLatest partition placement) :
      Step before ⟨.find partition, .ok (some placement)⟩ before

/-- Nothing has been done but to fill the placement table. -/
def shared (ledger : Ledger) : Shared :=
  .ofStore { Store.empty with placements := ledger.table }

/-- What holds of every call, whatever it is. -/
structure Keeps (before : Ledger) (x : Ended PlacementCall.Result) (after : Ledger) : Prop where
  ends : x.call.operation.run.Ends before.shared x.outcome after.shared
  step : Step before x after

open Program in
/-- A call does to the ledger what it has to do. -/
theorem ends (ledger : Ledger) (call : PlacementCall)
    (hdated : ∀ placement, call = .record placement → placement.Dated) :
    ∃ outcome after, ledger.Keeps ⟨call, outcome⟩ after := by
  -- each call is one statement, and the store is open
  cases call with
  | record placement =>
    obtain ⟨after, htable, hfind⟩ := ledger.exists_record (hdated placement rfl)
    refine ⟨.ok (), after, ?_, .recorded hfind⟩
    have ha := ledger.shared.answer_recordPlacement 0 placement rfl
    unfold shared at *
    rw [htable]
    exact (ends_act ha).mpr ends_done
  | remove workload =>
    obtain ⟨after, htable, hfind⟩ := ledger.exists_erase workload
    refine ⟨.ok (ledger.find? workload).isSome, after, ?_, .removed hfind⟩
    have ha := ledger.shared.answer_removePlacement 0 workload rfl
    unfold shared at *
    rw [htable, ← ledger.holds_eq]
    exact (ends_act ha).mpr ends_done
  | find partition =>
    have ha := ledger.shared.answer_findPlacement 0 partition
    rcases placementAnswer_ledger ledger.shared.store rfl rfl partition with
      ⟨hanswer, hnone⟩ | ⟨placement, hanswer, hlatest⟩
    · rw [hanswer] at ha
      exact ⟨.ok none, ledger, (ends_act ha).mpr ends_done, .missed hnone⟩
    · rw [hanswer] at ha
      exact ⟨.ok (some placement), ledger, (ends_act ha).mpr ends_done, .found hlatest⟩

/-! ## Any number of calls -/

variable {before after : Ledger} {x : Ended PlacementCall.Result}
  {past : List (Ended PlacementCall.Result)}

/-- What a call does to the placement of one workload. -/
theorem Step.find?_eq_some_iff (h : Step before x after) {workload : String}
    {placement : Placement} :
    after.find? workload = some placement ↔
      x.call = .record placement ∧ placement.workload = workload ∨
        before.find? workload = some placement ∧ x.call.workload? ≠ some workload := by
  cases h with
  | @recorded _ written hafter =>
    rw [hafter]
    dsimp only [PlacementCall.workload?]
    -- the workload is the one that was recorded, or its placement was left alone
    by_cases hw : workload = written.workload
    · subst hw
      rw [Function.update_self, Option.some.injEq, PlacementCall.record.injEq]
      constructor
      · rintro rfl
        exact Or.inl ⟨rfl, rfl⟩
      · rintro (⟨heq, -⟩ | ⟨-, hne⟩)
        · exact heq
        · exact absurd rfl hne
    · rw [Function.update_of_ne hw]
      constructor
      · intro hold
        exact Or.inr ⟨hold, fun heq => hw (Option.some.inj heq).symm⟩
      · rintro (⟨heq, rfl⟩ | ⟨hold, -⟩)
        · exact absurd (congrArg Placement.workload (PlacementCall.record.inj heq)).symm hw
        · exact hold
  | @removed _ taken hafter =>
    rw [hafter]
    dsimp only [PlacementCall.workload?]
    -- the same for a removal, which leaves none
    by_cases hw : workload = taken
    · subst hw
      rw [Function.update_self]
      refine ⟨nofun, ?_⟩
      rintro (⟨heq, -⟩ | ⟨-, hne⟩)
      · exact nomatch heq
      · exact absurd rfl hne
    · rw [Function.update_of_ne hw]
      constructor
      · intro hold
        exact Or.inr ⟨hold, fun heq => hw (Option.some.inj heq).symm⟩
      · rintro (⟨heq, -⟩ | ⟨hold, -⟩)
        · exact nomatch heq
        · exact hold
  | missed hnone => simp [PlacementCall.workload?]
  | found h => simp [PlacementCall.workload?]

end Ledger

/-- A placement is the last one of its workload in what follows, or the first call has recorded it.
-/
theorem lastRecorded_cons_iff {call : PlacementCall} {calls : List PlacementCall}
    {workload : String} {placement : Placement} :
    LastRecorded (call :: calls) workload placement ↔
      LastRecorded calls workload placement ∨
        (call = .record placement ∧ placement.workload = workload ∧
          ∀ later ∈ calls, later.workload? ≠ some workload) := by
  constructor
  · rintro ⟨earlier, later, heq, hworkload, hlater⟩
    -- the call that has recorded it is the first one, or comes later
    cases earlier with
    | nil =>
      obtain ⟨rfl, rfl⟩ := List.cons.inj heq
      exact Or.inr ⟨rfl, hworkload, hlater⟩
    | cons first earlier =>
      obtain ⟨rfl, rfl⟩ := List.cons.inj heq
      exact Or.inl ⟨earlier, later, rfl, hworkload, hlater⟩
  · rintro (⟨earlier, later, rfl, hworkload, hlater⟩ | ⟨rfl, hworkload, hlater⟩)
    · exact ⟨call :: earlier, later, rfl, hworkload, hlater⟩
    · exact ⟨[], calls, rfl, hworkload, hlater⟩

/-- A placement is there at the end if it was recorded last, or was there and was left alone. -/
theorem Ledger.find?_of_follows {before after : Ledger} {past : List (Ended PlacementCall.Result)}
    (h : Follows Ledger.Keeps before past after) {workload : String} {placement : Placement} :
    after.find? workload = some placement ↔
      LastRecorded (past.map (·.call)) workload placement ∨
        before.find? workload = some placement ∧
          ∀ call ∈ past.map (·.call), call.workload? ≠ some workload := by
  induction h with
  | stop ledger =>
    have hnever : ¬ LastRecorded [] workload placement := by
      rintro ⟨earlier, later, heq, -⟩
      simp at heq
    simp [hnever]
  | @step before middle last x past hx hrest ih =>
    -- what the first call does, and then the others
    rw [ih, hx.step.find?_eq_some_iff, List.map_cons, lastRecorded_cons_iff, List.forall_mem_cons]
    tauto

/-- However placements are recorded, removed and searched for, the placement table maps every
workload to the placement that was recorded last and has not been removed since, and a search for a
partition finds a latest one of those that are in the partition. -/
theorem placement_calls_keep_latest (calls : List PlacementCall)
    (hdated : ∀ placement, .record placement ∈ calls → placement.Dated) :
    ∃ (past : List (Ended PlacementCall.Result)) (ledger : Ledger),
      (inTurn PlacementCall.operation calls).Ends (.ofStore .empty) past ledger.shared ∧
      past.map (·.call) = calls ∧
      Follows Ledger.Keeps .empty past ledger ∧
      ∀ workload placement,
        ledger.find? workload = some placement ↔ LastRecorded calls workload placement := by
  have hstep : ∀ call ∈ calls, ∀ (ledger : Ledger) (shared : Shared), shared = ledger.shared →
      ∃ outcome middle after, call.operation.run.Ends shared outcome after ∧
        Ledger.Keeps ledger ⟨call, outcome⟩ middle ∧ after = middle.shared := by
    rintro call hcall ledger _ rfl
    obtain ⟨outcome, middle, hkeeps⟩ :=
      ledger.ends call fun placement heq => hdated placement (heq ▸ hcall)
    exact ⟨outcome, middle, _, hkeeps.ends, hkeeps, rfl⟩
  have hstart : Shared.ofStore .empty = Ledger.empty.shared := rfl
  obtain ⟨past, ledger, _, hends, rfl, hfollows, rfl⟩ := inTurn_follows hstep hstart
  refine ⟨past, ledger, hends, rfl, hfollows, fun workload placement => ?_⟩
  -- nothing was there before the calls
  have hempty : Ledger.empty.find? workload = none := rfl
  rw [Ledger.find?_of_follows hfollows, hempty]
  simp

/-- Two workloads come to share a partition within one second, and the later one leaves it. -/
def PlacementCall.sample : List PlacementCall :=
  [.record ⟨"w1", "vpar1", "10.0.0.1", ⟨19782, 3600, 0⟩⟩,
    .record ⟨"w2", "vpar1", "10.0.0.2", ⟨19782, 3600, 500000000⟩⟩, .find "vpar1", .remove "w2",
    .find "vpar1"]

/-- Instants of one second, with and without a fraction. -/
theorem placement_calls_keep_latest_sample :
    (∀ placement, .record placement ∈ PlacementCall.sample → placement.Dated) ∧
      ∃ (past : List (Ended PlacementCall.Result)) (ledger : Ledger),
        (inTurn PlacementCall.operation PlacementCall.sample).Ends (.ofStore .empty) past
          ledger.shared ∧
        past.map (·.call) = PlacementCall.sample ∧
        Follows Ledger.Keeps .empty past ledger ∧
        ∀ workload placement, ledger.find? workload = some placement ↔
          LastRecorded PlacementCall.sample workload placement := by
  have hdated : ∀ placement, .record placement ∈ PlacementCall.sample → placement.Dated := by
    have hyear : (0 ≤ (Instant.toDate 19782).1) ∧ (Instant.toDate 19782).1 ≤ 9999 := by
      decide +kernel
    intro placement h
    simp only [PlacementCall.sample, List.mem_cons, PlacementCall.record.injEq, reduceCtorEq,
      List.not_mem_nil, or_false] at h
    rcases h with rfl | rfl
    · exact ⟨⟨by decide, Or.inl (by decide)⟩, ⟨hyear.1, hyear.2⟩⟩
    · exact ⟨⟨by decide, Or.inl (by decide)⟩, ⟨hyear.1, hyear.2⟩⟩
  exact ⟨hdated, placement_calls_keep_latest PlacementCall.sample hdated⟩

end VparFleet
