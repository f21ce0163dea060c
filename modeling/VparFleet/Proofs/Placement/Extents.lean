import Mathlib.Algebra.Order.Floor.Div
import VparFleet.Command
import VparFleet.Placement.FirstFit
import VparFleet.Proofs.Report.Bounds

/-!
# Room in the volume group

The space of a volume group is counted in extents and compared in gigabytes. Its total and its used
space are rounded down, each for itself, so the gigabytes that seem free can be more than are free,
by less than one. A volume takes whole extents, which rounds the other way. Both are made up for by
the strict comparison of a placement, which leaves a gigabyte over.

* `used_add_lt_of_lt_free`: less than the gigabytes that seem free is less than what is free.
* `extents_for_placed_volume_free`: a volume that is placed takes no more extents than are free.
-/

namespace VparFleet

open Report

namespace Report.VolumeGroup

variable {size extents allocated count : Nat}

/-- A report that gives the size of an extent and the numbers of all and of allocated extents. -/
def Tells (text : List Char) (size extents allocated : Nat) : Prop :=
  (Text.lines text).foldlM readLine ⟨none, none, none⟩ =
    .ok ⟨some size, some extents, some allocated⟩

theorem read_of_tells {text : List Char} (h : Tells text size extents allocated) :
    read text = .ok (usage size extents allocated) := by
  rw [read, h]
  rfl

/-- What rounding to gigabytes takes away is less than one. -/
theorem gigabytes_bounds (size count : Nat) :
    gigabytes size count * 1024 ≤ size * count ∧
      size * count < gigabytes size count * 1024 + 1024 := by
  unfold gigabytes
  omega

/-- The gigabytes that seem free are off by less than one. -/
theorem used_add_lt_of_lt_free {disk : Nat} (h : disk < (usage size extents allocated).free) :
    size * allocated + disk * 1024 < size * extents := by
  have htotal := (gigabytes_bounds size extents).1
  have hused := (gigabytes_bounds size allocated).2
  have hfree : disk < gigabytes size extents - gigabytes size allocated := h
  omega

/-- A volume fits the free extents when it fits what they hold, because they are whole. -/
theorem extents_le_of_lt {megabytes : Nat} (h : size * allocated + megabytes < size * extents) :
    0 < size ∧ allocated < extents ∧ megabytes ⌈/⌉ size ≤ extents - allocated := by
  have hsize : 0 < size := by
    rcases Nat.eq_zero_or_pos size with rfl | hpos
    · omega
    · exact hpos
  have hallocated : allocated < extents := by
    have hlt : size * allocated < size * extents := by omega
    exact Nat.lt_of_mul_lt_mul_left hlt
  refine ⟨hsize, hallocated, ?_⟩
  rw [ceilDiv_le_iff_le_mul hsize, Nat.mul_sub]
  omega

end Report.VolumeGroup

open Report.VolumeGroup

/-- On a node that was observed, more disk space seems free than a placement asks for. -/
theorem ResourceRequest.disk_lt_of_choose {request : ResourceRequest} {nodes : List Node}
    {address : String} {hostname : Option String} {model : String} {c cf m mf d df : Nat}
    (h : request.choose nodes = some (.observed address hostname model c cf m mf d df)) :
    request.disk < min d df := by
  have hfits := (ResourceRequest.choose_eq_some_iff.mp h).1
  rw [ResourceRequest.fits, Bool.and_eq_true, decide_eq_true_eq] at hfits
  rw [← (Node.observed_free address hostname model c cf m mf d df).2.2]
  exact hfits.2

/-- A volume that is placed by what a report says takes no more extents than are free, whatever the
sizes are, and its command asks for all of its megabytes. -/
theorem extents_for_placed_volume_free {text : List Char} {size extents allocated : Nat}
    (htells : Tells text size extents allocated) (hfits : Fits text) :
    ∃ disk, VolumeGroup.read text = .ok disk ∧
      ∀ (address : String) (hostname : Option String) (model : String) (c cf m mf : Nat)
        (nodes : List Node) (request : ResourceRequest),
        request.choose nodes =
            some (.observed address hostname model c cf m mf disk.total disk.free) →
          0 < size ∧ allocated < extents ∧
            (∀ group volume, Command.volumeName request.workload = volume →
              Command.createVolume group request.workload request.disk =
                s!"lvcreate -L {request.disk * 1024} -n {volume} {group}") ∧
            (request.disk * 1024) ⌈/⌉ size ≤ extents - allocated := by
  refine ⟨usage size extents allocated, read_of_tells htells, ?_⟩
  intro address hostname model c cf m mf nodes request hchosen
  have hdisk := lt_of_lt_of_le (request.disk_lt_of_choose hchosen) (min_le_right _ _)
  have hroom := used_add_lt_of_lt_free hdisk
  obtain ⟨hsize, hlt, hcount⟩ := extents_le_of_lt hroom
  refine ⟨hsize, hlt, fun group volume hvolume => ?_, hcount⟩
  -- the megabytes are no more than the group has, and those fit 64 bits
  have hexact : Command.megabytes request.disk = request.disk * 1024 := by
    have hbound := (hfits _ _ _ htells).1
    unfold Command.megabytes
    omega
  unfold Command.createVolume
  rw [hexact, hvolume]

/-- Two gigabytes seem free where there is hardly more than one. -/
theorem extents_for_placed_volume_free_sample :
    let text := "PE Size (Mbytes)   64\r\nTotal PE           33\r\nAlloc PE           15\r\n".toList
    let node : Node := .observed "10.0.0.11" none "rx2800" 8 8 4096 4096 2 2
    let request : ResourceRequest := ⟨"shop", 1024, 2, 1⟩
    Tells text 64 33 15 ∧ Fits text ∧ VolumeGroup.read text = .ok ⟨2, 0, 2⟩ ∧
      request.choose [node] = some node ∧
      Command.createVolume "/dev/vg00" "shop" 1 = "lvcreate -L 1024 -n lv-shop /dev/vg00" ∧
      (1 * 1024) ⌈/⌉ 64 ≤ 33 - 15 := by
  intro text node request
  have htells : Tells text 64 33 15 := by
    unfold Tells
    decide +kernel
  -- one gigabyte takes sixteen extents of the eighteen that are free
  have hfits : Fits text := by
    intro size extents allocated hread
    cases htells.symm.trans hread
    decide
  have hchosen : request.choose [node] = some node := by decide
  obtain ⟨disk, hread, hplaced⟩ := extents_for_placed_volume_free htells hfits
  obtain rfl : usage 64 33 15 = disk :=
    Except.ok.inj ((read_of_tells htells).symm.trans hread)
  obtain ⟨-, -, hcommand, hcount⟩ := hplaced _ _ _ _ _ _ _ _ _ hchosen
  exact ⟨htells, hfits, hread, hchosen, (hcommand "/dev/vg00" _ rfl).trans (by decide +kernel),
    hcount⟩

-- With an exact fit let through, one gigabyte would go where one megabyte is free.
example : usage 1 1024 1023 = ⟨1, 0, 1⟩ := by decide

end VparFleet
