import Mathlib.Data.List.Infix
import VparFleet.Partition.Lifecycle

/-!
# Histories of a partition

Whatever moves are tried, a life enters the stages of a way along the legal moves. So what is common
to all such ways holds at every moment of every walk.

* `Stage.History`: the ways to a stage of a partition of which nothing existed.
* `Lifecycle.walk_history`: at every moment, a walk has entered such a way.
* `History.beginning`: a way begins with the volume and the definition, unless it begins with a
  power off.
* `History.of_removed`: a way to the end has seen the partition down after a power off.
* `walk_founded`: both for every moment of a life from its beginning.
* `not_always_defined`: a life that begins with a power off, and is started without a definition.
-/

namespace VparFleet

namespace Stage

variable {stage next : Stage} {entered : List Stage}

/-! ## Ways along legal moves -/

/-- The ways to a stage: the stages that are entered, one by one, from nothing on. -/
inductive History : Stage → List Stage → Prop where
  | nothing : History undefined []
  | move {stage next : Stage} {entered : List Stage} (h : History stage entered)
      (hm : stage.canMoveTo next = true) : History next (entered ++ [next])

/-- A stage that is reached was entered last, from one that is followed by it. -/
theorem History.last (h : History stage entered) (hs : stage ≠ undefined) :
    ∃ previous earlier, previous.canMoveTo stage = true ∧ History previous earlier ∧
      entered = earlier ++ [stage] := by
  cases h with
  | nothing => exact absurd rfl hs
  | move h hm => exact ⟨_, _, hm, h, rfl⟩

/-- How a way begins: with the volume and the definition, or with a power off. -/
inductive Beginning : Stage → List Stage → Prop where
  | nothing : Beginning undefined []
  | volume : Beginning storageAllocated [storageAllocated]
  | powerOff : Beginning poweringOff [poweringOff]
  | founded {stage : Stage} {entered : List Stage}
      (h : [storageAllocated, defined] <+: entered) : Beginning stage entered
  | stopped {stage : Stage} {entered : List Stage}
      (h : [poweringOff, stopped] <+: entered) : Beginning stage entered

/-- A move goes on with the beginning of a life. -/
theorem Beginning.move (h : Beginning stage entered) (hm : stage.canMoveTo next = true) :
    Beginning next (entered ++ [next]) := by
  have hnext : next ∈ stage.successors := List.contains_iff_mem.mp hm
  -- one case per row of the table of moves
  cases h with
  | nothing =>
    rcases List.mem_pair.mp hnext with rfl | rfl
    · exact .volume
    · exact .powerOff
  | volume =>
    rw [List.mem_singleton.mp hnext]
    exact .founded List.prefix_rfl
  | powerOff =>
    rw [List.mem_singleton.mp hnext]
    exact .stopped List.prefix_rfl
  | founded h => exact .founded (h.trans (List.prefix_append _ _))
  | stopped h => exact .stopped (h.trans (List.prefix_append _ _))

/-- Every life has one of these beginnings. -/
theorem History.beginning (h : History stage entered) : Beginning stage entered := by
  induction h with
  | nothing => exact .nothing
  | move _ hm ih => exact ih.move hm

/-- A partition that was started to its firmware was defined before, or was powered off at first. -/
theorem History.founded_or_stopped (h : History stage entered)
    (hs : stage ∈ [bootedToFirmware, networkRegistered, running]) :
    [storageAllocated, defined] <+: entered ∨ [poweringOff, stopped] <+: entered := by
  cases h.beginning with
  | nothing | volume | powerOff => exact absurd hs (by decide)
  | founded h => exact .inl h
  | stopped h => exact .inr h

theorem eq_stopped_of_canMoveTo_removed (h : stage.canMoveTo removed = true) : stage = stopped := by
  cases stage with
  | stopped => rfl
  | _ => exact absurd h (by decide)

theorem eq_poweringOff_of_canMoveTo_stopped (h : stage.canMoveTo stopped = true) :
    stage = poweringOff := by
  cases stage with
  | poweringOff => rfl
  | _ => exact absurd h (by decide)

/-- What is removed was powered off and seen down right before. -/
theorem History.of_removed (h : History removed entered) :
    [poweringOff, stopped, removed] <:+ entered := by
  obtain ⟨previous, earlier, hm, hstopped, rfl⟩ := h.last (by decide)
  obtain rfl := eq_stopped_of_canMoveTo_removed hm
  obtain ⟨previous, earlier, hm, hoff, rfl⟩ := hstopped.last (by decide)
  obtain rfl := eq_poweringOff_of_canMoveTo_stopped hm
  obtain ⟨previous, earlier, -, -, rfl⟩ := hoff.last (by decide)
  exact ⟨earlier, by simp⟩

end Stage

namespace Lifecycle

open Stage

variable {life : Lifecycle} {moves : List Stage} {before : List Stage} {stage : Stage}
  {log later : List (Outcome Unit × Stage)} {result : Outcome Unit}

/-! ## Walks -/

/-- The stages that were entered, of the moves in the log of a walk: those of the accepted moves. -/
def entered (log : List (Outcome Unit × Stage)) : List Stage :=
  log.filterMap fun entry => entry.1.toOption.map fun _ => entry.2

/-- A move is legal and changes only the stage, or it is refused. -/
theorem advance_cases (life : Lifecycle) (next : Stage) :
    (life.stage.canMoveTo next = true ∧ life.advance next = .ok { life with stage := next }) ∨
      (life.stage.canMoveTo next = false ∧ ∃ fault, life.advance next = .error fault) := by
  cases hm : life.stage.canMoveTo next with
  | true => exact .inl ⟨rfl, advance_ok_iff.mpr ⟨hm, rfl⟩⟩
  | false => exact .inr ⟨rfl, _, if_neg (by simp [hm])⟩

/-- One move of a walk: an accepted one makes the way longer, a refused one leaves it as it is. -/
theorem exists_walk_cons (h : History life.stage before) (next : Stage) (rest : List Stage) :
    ∃ result stage, life.walk (next :: rest) =
        (result, stage) :: walk { life with stage := stage } rest ∧
      History stage (before ++ entered [(result, stage)]) := by
  obtain ⟨hm, hadvance⟩ | ⟨-, fault, hadvance⟩ := life.advance_cases next
  · refine ⟨.ok (), next, ?_, h.move hm⟩
    rw [walk, hadvance]
  · refine ⟨.error fault, life.stage, ?_, ?_⟩
    · rw [walk, hadvance]
    · rw [show entered [(.error fault, life.stage)] = [] from rfl, List.append_nil]
      exact h

/-- At every moment of a walk, its stage has been reached along legal moves, and the rest is a walk
from there. -/
theorem walk_history (h : History life.stage before)
    (hw : life.walk moves = log ++ (result, stage) :: later) :
    History stage (before ++ entered (log ++ [(result, stage)])) ∧
      ∃ rest, later = walk { life with stage := stage } rest := by
  induction moves generalizing life before log with
  | nil => exact absurd hw.symm (by simp [walk])
  | cons next rest ih =>
    obtain ⟨first, reached, hcons, hhistory⟩ := exists_walk_cons h next rest
    rw [hcons] at hw
    -- the entry is that of the first move or of a later one
    rcases List.cons_eq_append_iff.mp hw with ⟨rfl, hfirst⟩ | ⟨log, rfl, hrest⟩
    · obtain ⟨hentry, rfl⟩ := List.cons.inj hfirst
      obtain ⟨rfl, rfl⟩ := Prod.mk.inj hentry
      exact ⟨hhistory, rest, rfl⟩
    · have hmoved : History (Lifecycle.stage { life with stage := reached }) _ := hhistory
      obtain ⟨hlonger, hlater⟩ := ih hmoved hrest
      rw [List.append_assoc, entered, entered, ← List.filterMap_append] at hlonger
      exact ⟨hlonger, hlater⟩

/-- Nothing follows the end of a life. -/
theorem refused_of_removed (hlife : life.stage = removed) :
    ∀ entry ∈ life.walk moves, (∃ fault, entry.1 = .error fault) ∧ entry.2 = removed := by
  induction moves with
  | nil => exact List.forall_mem_nil _
  | cons next rest ih =>
    obtain ⟨hm, -⟩ | ⟨-, fault, hadvance⟩ := life.advance_cases next
    · rw [hlife] at hm
      exact nomatch hm
    · rw [walk, hadvance]
      exact List.forall_mem_cons.mpr ⟨⟨⟨fault, rfl⟩, hlife⟩, ih⟩

/-- At every moment of every life: a partition that is started, registered or running was given its
volume and its definition first, unless the life began with a power off and the partition being seen
down; and a partition that is removed was powered off and seen down right before, and accepts no
move any more. -/
theorem walk_founded (name : String)
    (hw : (fresh name).walk moves = log ++ (result, stage) :: later) :
    (stage ∈ [bootedToFirmware, networkRegistered, running] →
      [storageAllocated, defined] <+: entered (log ++ [(result, stage)]) ∨
        [poweringOff, stopped] <+: entered (log ++ [(result, stage)])) ∧
    (stage = removed →
      [poweringOff, stopped, removed] <:+ entered (log ++ [(result, stage)]) ∧
        ∀ entry ∈ later, (∃ fault, entry.1 = .error fault) ∧ entry.2 = removed) := by
  -- a new partition has no history
  have hstart : History (fresh name).stage [] := .nothing
  obtain ⟨hhistory, rest, rfl⟩ := walk_history hstart hw
  rw [List.nil_append] at hhistory
  refine ⟨hhistory.founded_or_stopped, ?_⟩
  rintro rfl
  exact ⟨hhistory.of_removed, refused_of_removed rfl⟩

/-- A life from its beginning to its end, with one move that is refused on the way and one after the
end. -/
def fullLife : List Stage :=
  [storageAllocated, running, defined, bootedToFirmware, networkRegistered, running, poweringOff,
    stopped, removed, bootedToFirmware]

theorem walk_founded_sample :
    (∃ log later, (fresh "vpar1").walk fullLife = log ++ (.ok (), running) :: later ∧
      [storageAllocated, defined] <+: entered (log ++ [(.ok (), running)])) ∧
    ∃ log later fault, (fresh "vpar1").walk fullLife = log ++ (.ok (), removed) :: later ∧
      [poweringOff, stopped, removed] <:+ entered (log ++ [(.ok (), removed)]) ∧
      later = [(.error fault, removed)] := by
  obtain ⟨log, later, hwalk, hentered⟩ : ∃ log later,
      (fresh "vpar1").walk fullLife = log ++ (.ok (), running) :: later ∧
      ¬[poweringOff, stopped] <+: entered (log ++ [(.ok (), running)]) :=
    ⟨((fresh "vpar1").walk fullLife).take 5, _, rfl, by decide⟩
  obtain ⟨log', later', fault, hwalk', hlater'⟩ : ∃ log later fault,
      (fresh "vpar1").walk fullLife = log ++ (.ok (), removed) :: later ∧
      later = [(.error fault, removed)] :=
    ⟨((fresh "vpar1").walk fullLife).take 8, _, _, rfl, rfl⟩
  -- it runs without having been powered off, so it was founded
  have hfounded := (walk_founded "vpar1" hwalk).1 (by decide)
  have hremoved := (walk_founded "vpar1" hwalk').2 rfl
  exact ⟨⟨log, later, hwalk, hfounded.resolve_right hentered⟩,
    log', later', fault, hwalk', hremoved.1, hlater'⟩

/-- A life that begins with a power off: the partition is started, and was never defined. -/
theorem not_always_defined :
    (fresh "vpar1").walk [poweringOff, stopped, bootedToFirmware] =
      [(.ok (), poweringOff), (.ok (), stopped), (.ok (), bootedToFirmware)] ∧
    storageAllocated ∉ entered ((fresh "vpar1").walk [poweringOff, stopped, bootedToFirmware]) ∧
    defined ∉ entered ((fresh "vpar1").walk [poweringOff, stopped, bootedToFirmware]) := by
  refine ⟨rfl, ?_, ?_⟩
  · decide
  · decide

end Lifecycle

end VparFleet
