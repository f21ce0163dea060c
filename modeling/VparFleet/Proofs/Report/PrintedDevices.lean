import VparFleet.Proofs.Text.Parts
import VparFleet.Report.Device

/-!
# Printed devices

A detailed status report prints one token for each device of a partition. The colon fields of a
token are the kind of device, its driver, its address, and what it is attached to; the address is
made of comma fields.

* `Card`, `Disk`, `Device`: device tokens as they are printed.
* `Device.tokenMac?_text`: a card has a hardware address and a disk has none.
* `DeviceLike`, `deviceLike_of_tokenMac?`: words that are no device tokens have none either.
-/

namespace VparFleet.Report

open Text

/-- Whether a character can stand inside a field of a token. -/
def IsBare (c : Char) : Prop :=
  isBlank c = false ∧ c ≠ ':' ∧ c ≠ ','

/-- A text that can be a field of a token. -/
structure BareField where
  chars : List Char
  bare : ∀ c ∈ chars, IsBare c

/-- A network card as it is printed. -/
structure Card where
  bus : BareField
  device : BareField
  /-- The letter of the hexadecimal mark `0x`. -/
  mark : Char
  mark_eq : mark = 'x' ∨ mark = 'X'
  /-- The digits of the hardware address. -/
  digits : List Char
  digits_ne_nil : digits ≠ []
  hex : ∀ c ∈ digits, isHexDigit c = true
  /-- The virtual switch that the card is attached to. -/
  switch : String
  switch_bare : ∀ c ∈ switch.toList, isBlank c = false ∧ c ≠ ':'
  /-- The number of the port. -/
  port : BareField

/-- A disk as it is printed. -/
structure Disk where
  bus : BareField
  device : BareField
  /-- A decimal number. -/
  target : List Char
  target_digits : ∀ c ∈ target, c.isDigit = true
  /-- The path of its volume. -/
  path : String
  path_solid : ∀ c ∈ path.toList, isBlank c = false

/-- A first colon field, and what comes after it. -/
def keyed (key : String) (rest : List Char) : List Char :=
  key.toList ++ ':' :: rest

/-- The colon fields of a token; the last of these holds all that the device is attached to. -/
def token (kind driver : String) (address attachment : List Char) : List Char :=
  keyed kind (keyed driver (address ++ ':' :: attachment))

/-- The comma fields of an address. -/
def addressText (bus device : BareField) (last : List Char) : List Char :=
  bus.chars ++ ',' :: (device.chars ++ ',' :: last)

namespace Card

variable (card : Card)

/-- The hardware address as it is printed. -/
def printedMac : List Char :=
  '0' :: card.mark :: card.digits

/-- The hardware address in its normal form. -/
def mac : String :=
  "0x" ++ String.ofList (card.digits.map Char.toUpper)

/-- The switch and the port. -/
def attachment : List Char :=
  keyed "vswitch" (keyed card.switch (keyed "portid" card.port.chars))

/-- The token of a card. -/
def text : List Char :=
  token "network" "avio_lan" (addressText card.bus card.device card.printedMac) card.attachment

end Card

namespace Disk

variable (disk : Disk)

/-- The volume. -/
def attachment : List Char :=
  keyed "lv" disk.path.toList

/-- The token of a disk. -/
def text : List Char :=
  token "disk" "avio_stor" (addressText disk.bus disk.device disk.target) disk.attachment

end Disk

/-- A device as it is printed. -/
inductive Device where
  | card (card : Card)
  | disk (disk : Disk)

namespace Device

/-- The token of a device. -/
def text : Device → List Char
  | .card nic => nic.text
  | .disk volume => volume.text

/-- The name of its driver. -/
def driver : Device → String
  | .card _ => "avio_lan"
  | .disk _ => "avio_stor"

/-- The network card that a device is. -/
def card? : Device → Option Card
  | .card nic => some nic
  | .disk _ => none

end Device

/-! ## Characters of tokens -/

/-- A hexadecimal digit separates nothing. -/
theorem isBare_of_isHexDigit {c : Char} (h : isHexDigit c = true) : IsBare c := by
  -- no separator has its code in these ranges
  have hcode : 48 ≤ c.val.toNat ∧ c.val.toNat ≤ 57 ∨ 65 ≤ c.val.toNat ∧ c.val.toNat ≤ 102 := by
    simp only [isHexDigit, Char.isDigit, Bool.or_eq_true, Bool.and_eq_true, decide_eq_true_eq,
      Char.le_def, UInt32.le_iff_toNat_le, ge_iff_le] at h
    have hdigits : '0'.val.toNat = 48 ∧ '9'.val.toNat = 57 := ⟨rfl, rfl⟩
    have hlower : 'a'.val.toNat = 97 ∧ 'f'.val.toNat = 102 := ⟨rfl, rfl⟩
    have hupper : 'A'.val.toNat = 65 ∧ 'F'.val.toNat = 70 := ⟨rfl, rfl⟩
    omega
  refine ⟨?_, ?_, ?_⟩
  · simp only [isBlank, Bool.or_eq_false_iff, Bool.and_eq_false_iff, decide_eq_false_iff_not,
      beq_eq_false_iff_ne, Char.toNat]
    omega
  · rintro rfl
    exact absurd hcode (by decide)
  · rintro rfl
    exact absurd hcode (by decide)

theorem isBare_of_isDigit {c : Char} (h : c.isDigit = true) : IsBare c :=
  isBare_of_isHexDigit (by simp [isHexDigit, h])

/-- A field that is one digit. -/
def digitField (c : Char) (h : c.isDigit = true) : BareField :=
  ⟨[c], by simpa using isBare_of_isDigit h⟩

theorem isDigit_zero : ∀ c ∈ ['0'], c.isDigit = true :=
  List.forall_mem_singleton.mpr rfl

/-- The bus and the device that are counted first. -/
def zeroField : BareField :=
  digitField '0' rfl

/-- A card with a hardware address on a switch, with the address `0,1` and on port 3. -/
def sampleCard (digits switch : String)
    (h : digits.toList ≠ [] ∧ digits.toList.all isHexDigit = true ∧
      switch.toList.all (fun c => !isBlank c && c != ':') = true) : Card where
  bus := zeroField
  device := digitField '1' rfl
  mark := 'x'
  mark_eq := .inl rfl
  digits := digits.toList
  digits_ne_nil := h.1
  hex := List.all_eq_true.mp h.2.1
  switch := switch
  switch_bare := by simpa using h.2.2
  port := digitField '3' rfl

/-- A hardware address is one field. -/
theorem Card.printedMac_bare (card : Card) : ∀ c ∈ card.printedMac, IsBare c := by
  have hmark : IsBare card.mark := by
    rcases card.mark_eq with h | h <;> rw [h] <;> exact ⟨by decide, by decide, by decide⟩
  refine List.forall_mem_cons.mpr ⟨⟨by decide, by decide, by decide⟩, ?_⟩
  exact List.forall_mem_cons.mpr ⟨hmark, fun c hc => isBare_of_isHexDigit (card.hex c hc)⟩

theorem Disk.target_bare (disk : Disk) : ∀ c ∈ disk.target, IsBare c :=
  fun c hc => isBare_of_isDigit (disk.target_digits c hc)

/-- The address of a device holds neither blanks nor colons. -/
theorem addressText_bare (bus device : BareField) {last : List Char} (h : ∀ c ∈ last, IsBare c) :
    ∀ c ∈ addressText bus device last, isBlank c = false ∧ c ≠ ':' := by
  have hbare (field : List Char) (hfield : ∀ c ∈ field, IsBare c) :
      ∀ c ∈ field, isBlank c = false ∧ c ≠ ':' :=
    fun c hc => ⟨(hfield c hc).1, (hfield c hc).2.1⟩
  have hcomma : isBlank ',' = false ∧ ',' ≠ ':' := by decide
  refine List.forall_mem_append.mpr ⟨hbare _ bus.bare, List.forall_mem_cons.mpr ⟨hcomma, ?_⟩⟩
  exact List.forall_mem_append.mpr
    ⟨hbare _ device.bare, List.forall_mem_cons.mpr ⟨hcomma, hbare _ h⟩⟩

theorem keyed_solid {key : String} {rest : List Char} (hkey : ∀ c ∈ key.toList, isBlank c = false)
    (hrest : ∀ c ∈ rest, isBlank c = false) : ∀ c ∈ keyed key rest, isBlank c = false :=
  List.forall_mem_append.mpr ⟨hkey, List.forall_mem_cons.mpr ⟨by decide, hrest⟩⟩

/-- A token is one word if all its fields are. -/
theorem token_solid {kind driver : String} {address attachment : List Char}
    (hkind : ∀ c ∈ kind.toList, isBlank c = false)
    (hdriver : ∀ c ∈ driver.toList, isBlank c = false)
    (haddress : ∀ c ∈ address, isBlank c = false)
    (hattachment : ∀ c ∈ attachment, isBlank c = false) :
    ∀ c ∈ token kind driver address attachment, isBlank c = false := by
  refine keyed_solid hkind (keyed_solid hdriver ?_)
  exact List.forall_mem_append.mpr ⟨haddress, List.forall_mem_cons.mpr ⟨by decide, hattachment⟩⟩

namespace Device

variable (device : Device)

/-- A token is one word. -/
theorem solid : ∀ c ∈ device.text, isBlank c = false := by
  cases device with
  | card card =>
    have hattachment : ∀ c ∈ card.attachment, isBlank c = false := by
      refine keyed_solid (solid_of_all rfl) (keyed_solid ?_ (keyed_solid (solid_of_all rfl) ?_))
      · exact fun c hc => (card.switch_bare c hc).1
      · exact fun c hc => (card.port.bare c hc).1
    exact token_solid (solid_of_all rfl) (solid_of_all rfl)
      (fun c hc => (addressText_bare _ _ card.printedMac_bare c hc).1) hattachment
  | disk disk =>
    have hattachment : ∀ c ∈ disk.attachment, isBlank c = false :=
      keyed_solid (solid_of_all rfl) disk.path_solid
    exact token_solid (solid_of_all rfl) (solid_of_all rfl)
      (fun c hc => (addressText_bare _ _ disk.target_bare c hc).1) hattachment

/-- Drivers are words. -/
theorem driver_solid : ∀ c ∈ device.driver.toList, isBlank c = false := by
  have hcard : ∀ c ∈ "avio_lan".toList, isBlank c = false := solid_of_all rfl
  have hdisk : ∀ c ∈ "avio_stor".toList, isBlank c = false := solid_of_all rfl
  cases device with
  | card => exact hcard
  | disk => exact hdisk

/-- The driver is the second field. -/
theorem exists_text_eq : ∃ kind rest, ':' ∉ kind.toList ∧ ':' ∉ device.driver.toList ∧
    device.text = keyed kind (keyed device.driver rest) := by
  cases device with
  | card =>
    have hdriver : ':' ∉ "avio_lan".toList := by decide
    exact ⟨"network", _, by decide, hdriver, rfl⟩
  | disk =>
    have hdriver : ':' ∉ "avio_stor".toList := by decide
    exact ⟨"disk", _, by decide, hdriver, rfl⟩

end Device

/-! ## Hardware addresses -/

/-- What counts is the third comma field of the third colon field. -/
theorem tokenMac?_token {kind driver : String} {last attachment : List Char}
    (bus device : BareField) (hkind : ':' ∉ kind.toList) (hdriver : ':' ∉ driver.toList)
    (hlast : ∀ c ∈ last, IsBare c) :
    tokenMac? (token kind driver (addressText bus device last) attachment) = normalMac? last := by
  have hno {field : List Char} (h : ∀ c ∈ field, IsBare c) : ',' ∉ field :=
    fun hc => (h ',' hc).2.2 rfl
  have haddress : ':' ∉ addressText bus device last :=
    fun hc => (addressText_bare bus device hlast ':' hc).2 rfl
  rw [tokenMac?, token, keyed, keyed, List.splitOn_append_cons_self_of_not_mem hkind,
    List.splitOn_append_cons_self_of_not_mem hdriver,
    List.splitOn_append_cons_self_of_not_mem haddress]
  simp only [List.getElem?_cons_succ, List.getElem?_cons_zero, Option.bind_eq_bind,
    Option.bind_some]
  rw [addressText, List.splitOn_append_cons_self_of_not_mem (hno bus.bare),
    List.splitOn_append_cons_self_of_not_mem (hno device.bare),
    List.splitOn_eq_singleton (hno hlast)]
  rfl

/-- The hardware address of a card is read in its normal form. -/
theorem Card.tokenMac?_text (card : Card) : tokenMac? card.text = some card.mac := by
  rw [text, tokenMac?_token card.bus card.device (by decide) (by decide) card.printedMac_bare]
  have hmark : (card.mark = 'x' ∨ card.mark = 'X') := card.mark_eq
  simp [normalMac?, printedMac, hmark, card.digits_ne_nil, mac]
  exact card.hex

/-- The number of a disk is no hardware address. -/
theorem Disk.tokenMac?_text (disk : Disk) : tokenMac? disk.text = none := by
  rw [text, tokenMac?_token disk.bus disk.device (by decide) (by decide) disk.target_bare]
  unfold normalMac?
  split
  · next x digits htarget =>
    -- a hexadecimal mark is no digit
    have hx : x.isDigit = true := disk.target_digits x (by simp [htarget])
    have hmark : (x = 'x' || x = 'X') = false := by
      by_contra hmark
      simp only [Bool.not_eq_false, Bool.or_eq_true, decide_eq_true_eq] at hmark
      rcases hmark with rfl | rfl <;> exact absurd hx (by decide)
    simp [hmark]
  · rfl

/-- Of all devices, cards have hardware addresses. -/
theorem Device.tokenMac?_text (device : Device) :
    tokenMac? device.text = device.card?.map Card.mac := by
  cases device with
  | card card => exact card.tokenMac?_text
  | disk disk => exact disk.tokenMac?_text

/-! ## Other words -/

/-- Whether a word has the form of a device token: a kind, a driver, and an address whose third
part may be a hardware address. -/
def DeviceLike (word : List Char) : Prop :=
  ∃ kind driver bus device rest, ':' ∉ kind ∧ ':' ∉ driver ∧ (':' ∉ bus ∧ ',' ∉ bus) ∧
    (':' ∉ device ∧ ',' ∉ device) ∧
    word = kind ++ ':' :: (driver ++ ':' :: (bus ++ ',' :: (device ++ ',' :: rest)))

/-- A word with a hardware address has the form of a device token. -/
theorem deviceLike_of_tokenMac? {word : List Char} {mac : String}
    (h : tokenMac? word = some mac) : DeviceLike word := by
  obtain ⟨address, hthird, h⟩ := Option.bind_eq_some_iff.mp h
  obtain ⟨last, hlast, -⟩ := Option.bind_eq_some_iff.mp h
  -- field by field, from the one that is found back to the front
  obtain ⟨kind, afterKind, hkind, rfl, hsecond⟩ := exists_of_later_field hthird
  obtain ⟨driver, afterDriver, hdriver, rfl, hfirst⟩ := exists_of_later_field hsecond
  obtain ⟨hcolon, rest, rfl⟩ := prefix_of_first_field hfirst
  obtain ⟨bus, afterBus, hbus, rfl, hafter⟩ := exists_of_later_field hlast
  obtain ⟨device, afterDevice, hdevice, rfl, -⟩ := exists_of_later_field hafter
  simp only [List.mem_append, List.mem_cons, not_or] at hcolon
  exact ⟨kind, driver, bus, device, afterDevice ++ rest, hkind, hdriver, ⟨hcolon.1, hbus⟩,
    ⟨hcolon.2.2.1, hdevice⟩, by simp⟩

end VparFleet.Report
