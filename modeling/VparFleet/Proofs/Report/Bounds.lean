import VparFleet.Proofs.Outcome
import VparFleet.Report.Capacity
import VparFleet.Report.Inventory

/-!
# How large the numbers in reports can be

Numbers in reports are read into fields of a certain width, so what is computed from them is
bounded. Only the products of a volume group report are not bounded by the width of its fields.

* `Client.Bounded`, `Client.bounded_of_readAll`: processors and memory of the clients of an
  inventory.
* `VolumeGroup.Fits`, `VolumeGroup.total_lt`: a volume group whose products fit their fields.
-/

namespace VparFleet.Report

open Text.Decimal

/-- A number that is read is within its bound. -/
theorem number_lt {bound n : Nat} {label : String} {value : List Char}
    (h : number bound label value = .ok n) : n < bound := by
  dsimp only [number] at h
  split at h
  · next m hm =>
    obtain rfl := Except.ok.inj h
    exact read?_eq_some_lt hm
  · exact nomatch h

namespace Client

/-- A client whose processors fit 32 bits, and whose memory, in kilobytes, fits 64 bits. -/
structure Bounded (client : Client) : Prop where
  cpus : client.cpus.getD 0 < word32
  memory : client.memory.getD 0 < word64 / 1024

/-- Reading one more attribute keeps a client within the bounds. -/
theorem Bounded.readAttribute {client client' : Client} {attr : Element} (h : client.Bounded)
    (hread : client.readAttribute attr = .ok client') : client'.Bounded := by
  dsimp only [Client.readAttribute] at hread
  -- only the memory and the processors are bounded, and each is read as a number
  split at hread
  · obtain rfl := Except.ok.inj hread
    exact ⟨h.cpus, h.memory⟩
  · obtain rfl := Except.ok.inj hread
    exact ⟨h.cpus, h.memory⟩
  · obtain rfl := Except.ok.inj hread
    exact ⟨h.cpus, h.memory⟩
  · obtain ⟨kilobytes, hnumber, hread⟩ := bind_eq_ok_iff.mp hread
    obtain rfl := Except.ok.inj hread
    have hlt := number_lt hnumber
    refine ⟨h.cpus, ?_⟩
    show kilobytes / 1024 < word64 / 1024
    unfold word64 at hlt ⊢
    omega
  · obtain ⟨cpus, hnumber, hread⟩ := bind_eq_ok_iff.mp hread
    obtain rfl := Except.ok.inj hread
    exact ⟨number_lt hnumber, h.memory⟩
  · obtain rfl := Except.ok.inj hread
    exact h

/-- Every client of an inventory is within the bounds. -/
theorem bounded_of_readAll {text : List Char} {clients : List Client}
    (h : readAll text = .ok clients) : ∀ client ∈ clients, client.Bounded := by
  intro client hmem
  obtain ⟨e, -, he⟩ := exists_of_mem_mapM h hmem
  -- a client that nothing has been read of says nothing, and so nothing too large
  have hstart : (⟨String.ofList (unescape e.name), "", "", none, none, none⟩ : Client).Bounded :=
    ⟨show 0 < word32 by decide, show 0 < word64 / 1024 by decide⟩
  exact preserved_of_foldlM (fun _ _ _ _ hbounded hread => hbounded.readAttribute hread) hstart he

end Client

namespace VolumeGroup

/-- A report whose products of extents fit the fields that they are computed in. -/
def Fits (text : List Char) : Prop :=
  ∀ size extents allocated,
    (Text.lines text).foldlM readLine ⟨none, none, none⟩ =
      .ok ⟨some size, some extents, some allocated⟩ →
    size * extents < word64 ∧ size * allocated < word64

/-- What a report says about the space of a group is what its extents take. -/
theorem exists_of_read {text : List Char} {disk : DiskUsage} (h : read text = .ok disk) :
    ∃ size extents allocated, (Text.lines text).foldlM readLine ⟨none, none, none⟩ =
      .ok ⟨some size, some extents, some allocated⟩ ∧ disk = usage size extents allocated := by
  have hneed {label : String} {value : Option Nat} {n : Nat} (hn : need label value = .ok n) :
      value = some n := by
    cases value with
    | none => exact nomatch hn
    | some m => rw [Except.ok.inj hn]
  obtain ⟨⟨size?, extents?, allocated?⟩, hgroup, h⟩ := bind_eq_ok_iff.mp h
  -- all three values have to be there
  obtain ⟨size, hsize, h⟩ := bind_eq_ok_iff.mp h
  obtain ⟨extents, hextents, h⟩ := bind_eq_ok_iff.mp h
  obtain ⟨allocated, hallocated, h⟩ := bind_eq_ok_iff.mp h
  obtain rfl := hneed hsize
  obtain rfl := hneed hextents
  obtain rfl := hneed hallocated
  exact ⟨size, extents, allocated, hgroup, (Except.ok.inj h).symm⟩

/-- If the products fit, the total is within the bound of a size in megabytes. -/
theorem total_lt {text : List Char} {disk : DiskUsage} (hfits : Fits text)
    (h : read text = .ok disk) : disk.total < word64 / 1024 := by
  obtain ⟨size, extents, allocated, hgroup, rfl⟩ := exists_of_read h
  have hlt := (hfits size extents allocated hgroup).1
  show size * extents / 1024 < word64 / 1024
  unfold word64 at hlt ⊢
  omega

end VolumeGroup

end VparFleet.Report
