import VparFleet.Command
import VparFleet.Proofs.Report.Attributes
import VparFleet.Proofs.Report.PrintedDevices
import VparFleet.Proofs.Report.Table
import VparFleet.Proofs.Shell.Alphabets

/-!
# Printed descriptions of a partition

A detailed status report has a line for each of the name, the run state, the processors and the
memory, and at its end one token for each device. Lines are told apart by the labels that they
carry anywhere, and later lines take the place of earlier ones. So the processors and the memory
are read as they are printed, and the name of the partition does not matter; but the token of a
device that mentions the label of the run state is taken for the line of the run state.

* `PrintedDetail`: descriptions as they are printed.
* `Reads`: what some lines do to what has been read so far, with one lemma for each kind of line.
* `reads_device`, `reads_cards`: device tokens that mention the label set the run state to their
  driver.
* `detail_of_printed`: what is read from a description.
* `not_always_runState`: a workload whose volume mentions the label.
-/

namespace VparFleet.Report

open Text

/-- A line that says nothing about run state, processors and memory. -/
structure SilentLine where
  chars : List Char
  inLine : '\n' ∉ chars
  silent : ∀ label ∈ [Detail.runStateLabel, Detail.cpusLabel, Detail.memoryLabel],
    carries label chars = false

/-- A name that may stand in a command line is one word. -/
theorem solid_of_isShellSafe {name : String} (h : isShellSafe name = true) :
    ∀ c ∈ name.toList, isBlank c = false :=
  fun c hc => ((isShellSafe_iff.mp h).2 c hc).isBlank_eq_false

/-- The path of a raw device, cut at its separators. -/
theorem toList_rawVolumePath (group workload : String) :
    (Command.rawVolumePath group workload).toList
      = group.toList ++ '/' :: ("rlv".toList ++ '-' :: workload.toList) := by
  have hpath : Command.rawVolumePath group workload = group ++ "/r" ++ ("lv-" ++ workload) := rfl
  simp [hpath]

/-- The path is one word if the group is. -/
theorem rawVolumePath_solid {group workload : String}
    (hgroup : ∀ c ∈ group.toList, isBlank c = false) (hworkload : isShellSafe workload = true) :
    ∀ c ∈ (Command.rawVolumePath group workload).toList, isBlank c = false := by
  have hvolume : ∀ c ∈ "rlv".toList ++ '-' :: workload.toList, isBlank c = false :=
    List.forall_mem_append.mpr
      ⟨solid_of_all rfl, List.forall_mem_cons.mpr ⟨by decide, solid_of_isShellSafe hworkload⟩⟩
  rw [toList_rawVolumePath]
  exact List.forall_mem_append.mpr ⟨hgroup, List.forall_mem_cons.mpr ⟨by decide, hvolume⟩⟩

/-- A description of a partition as it is printed. -/
structure PrintedDetail where
  name : String
  name_safe : isShellSafe name = true
  workload : String
  workload_safe : isShellSafe workload = true
  runState : String
  runState_bare : ∀ c ∈ runState.toList, isBlank c = false ∧ c ≠ ':'
  cpus : Decimal.PrintedNumber Decimal.word32
  memory : Decimal.PrintedNumber Decimal.word64
  /-- The volume group of the disk. -/
  group : String
  group_solid : ∀ c ∈ group.toList, isBlank c = false
  cards : List Card
  /-- What is printed between a label and its value. -/
  pad : String → Padding
  beforeName : List SilentLine
  /-- The administrative state is one of these lines. -/
  afterRunState : List SilentLine
  afterCpus : List SilentLine
  afterMemory : List SilentLine
  afterDevices : List SilentLine

namespace PrintedDetail

variable (detail : PrintedDetail)

/-- A line with a label. -/
def labelled (label : String) (value : List Char) : List Char :=
  keyed label ((detail.pad label).chars ++ value)

/-- The disk that the workload was given. -/
def disk : Disk where
  bus := zeroField
  device := zeroField
  target := ['0']
  target_digits := isDigit_zero
  path := Command.rawVolumePath detail.group detail.workload
  path_solid := rawVolumePath_solid detail.group_solid detail.workload_safe

/-- The lines without their ends. -/
def lines : List (List Char) :=
  detail.beforeName.map SilentLine.chars ++
    ([detail.labelled "Name" detail.name.toList] ++
    ([detail.labelled Detail.runStateLabel detail.runState.toList] ++
    (detail.afterRunState.map SilentLine.chars ++
    ([detail.labelled Detail.cpusLabel detail.cpus.numeral] ++
    (detail.afterCpus.map SilentLine.chars ++
    ([detail.labelled Detail.memoryLabel detail.memory.numeral] ++
    (detail.afterMemory.map SilentLine.chars ++
    ([detail.disk.text] ++
    (detail.cards.map Card.text ++
    detail.afterDevices.map SilentLine.chars)))))))))

/-- The text; each line ends with a carriage return and a line feed. -/
def text : List Char :=
  detail.lines.flatMap (· ++ ['\r', '\n'])

/-- The run state that is read: a device whose token mentions its label comes later. -/
def readState : String :=
  if detail.cards.any (carries Detail.runStateLabel ·.text) then "avio_lan"
  else if carries Detail.runStateLabel detail.group.toList ||
      carries Detail.runStateLabel detail.workload.toList then "avio_stor"
  else detail.runState

end PrintedDetail

/-! ## Lines that are read -/

/-- What lines do to what has been read before them. -/
def Reads (lines : List (List Char)) (before after : Detail) : Prop :=
  lines.foldlM Detail.readLine before = .ok after

section Reads

variable {lines lines' : List (List Char)} {line : List Char} {first second third : Detail}

theorem Reads.append (h : Reads lines first second) (h' : Reads lines' second third) :
    Reads (lines ++ lines') first third := by
  rw [Reads, List.foldlM_append, h]
  exact h'

theorem reads_nil (state : Detail) : Reads [] state state :=
  rfl

theorem reads_singleton (h : Detail.readLine first line = .ok second) :
    Reads [line] first second := by
  rw [Reads, List.foldlM_cons, h]
  rfl

/-- Lines that say nothing change nothing. -/
theorem reads_silent (lines : List SilentLine) (state : Detail) :
    Reads (lines.map SilentLine.chars) state state := by
  induction lines with
  | nil => exact reads_nil state
  | cons line lines ih =>
    obtain ⟨hrunState, hlabels⟩ := List.forall_mem_cons.mp line.silent
    obtain ⟨hcpus, hlast⟩ := List.forall_mem_cons.mp hlabels
    have hmemory := List.forall_mem_singleton.mp hlast
    have hread : Detail.readLine state line.chars = .ok state := by
      simp [Detail.readLine, hrunState, hcpus, hmemory, pure, Except.pure]
    exact (reads_singleton hread).append ih

end Reads

/-- A character that is in a label but not in a line. -/
theorem carries_eq_false {label : String} {line : List Char} {c : Char} (hlabel : c ∈ label.toList)
    (hline : c ∉ line) : carries label line = false :=
  Bool.eq_false_iff.mpr fun h => not_infix_of_mem hlabel hline (occurs_iff.mp h)

/-- The value after a label is what stands there, without blanks around it. -/
theorem labelValue?_keyed {label : String} {rest : List Char} (hlabel : ':' ∉ label.toList)
    (hrest : ':' ∉ rest) : labelValue? (keyed label rest) = some (trim rest) := by
  rw [labelValue?, keyed, List.splitOn_append_cons_self_of_not_mem hlabel,
    List.splitOn_eq_singleton hrest]
  rfl

/-- What stands after the first colon of a device token is its driver. -/
theorem labelValue?_device (device : Device) :
    labelValue? device.text = some device.driver.toList := by
  obtain ⟨kind, rest, hkind, hdriver, htext⟩ := device.exists_text_eq
  rw [labelValue?, htext, keyed, List.splitOn_append_cons_self_of_not_mem hkind, keyed,
    List.splitOn_append_cons_self_of_not_mem hdriver]
  exact congrArg some (trim_of_solid device.driver_solid)

namespace PrintedDetail

variable (detail : PrintedDetail)

/-- A character of a line with a label is one of the label or of the value, or stands between
them. -/
theorem notMem_labelled {label : String} {value : List Char} {c : Char} (hlabel : c ∉ label.toList)
    (hcolon : c ≠ ':') (hsolid : isBlank c = false) (hvalue : c ∉ value) :
    c ∉ detail.labelled label value := by
  have hpad : c ∉ (detail.pad label).chars := (detail.pad label).notMem hsolid
  simp [labelled, keyed, hlabel, hcolon, hpad, hvalue]

/-- A printed value is read as it is. -/
theorem labelValue?_labelled {label : String} {value : List Char} (hlabel : ':' ∉ label.toList)
    (hvalue : ∀ c ∈ value, isBlank c = false ∧ c ≠ ':') :
    labelValue? (detail.labelled label value) = some value := by
  have hrest : ':' ∉ (detail.pad label).chars ++ value := by
    have hpad : ':' ∉ (detail.pad label).chars := (detail.pad label).notMem (by decide)
    have hbare : ':' ∉ value := fun h => (hvalue ':' h).2 rfl
    exact List.mem_append.not.mpr (not_or.mpr ⟨hpad, hbare⟩)
  rw [labelled, labelValue?_keyed hlabel hrest, trim_append_left (detail.pad label).blank,
    trim_of_solid fun c hc => (hvalue c hc).1]

theorem carries_labelled (label : String) (value : List Char) :
    carries label (detail.labelled label value) = true :=
  occurs_iff.mpr (List.prefix_append _ _).isInfix

/-- The line of the run state. -/
theorem reads_runState (state : Detail) :
    Reads [detail.labelled Detail.runStateLabel detail.runState.toList] state
      { state with runState := some detail.runState } := by
  have hvalue : labelValue? (detail.labelled Detail.runStateLabel detail.runState.toList)
      = some detail.runState.toList :=
    detail.labelValue?_labelled (by decide) detail.runState_bare
  refine reads_singleton ?_
  rw [Detail.readLine, if_pos (detail.carries_labelled _ _), hvalue, Option.map_some,
    String.ofList_toList]
  rfl

/-- The line of the name may be taken for that of the run state, but for no other. -/
theorem reads_name (state : Detail) :
    ∃ runState, Reads [detail.labelled "Name" detail.name.toList] state
      { state with runState := runState } := by
  have hlacks {c : Char} (hlabel : c ∉ "Name".toList) (hcolon : c ≠ ':')
      (hsolid : isBlank c = false) (hname : isNameChar c = false) :
      c ∉ detail.labelled "Name" detail.name.toList := by
    refine detail.notMem_labelled hlabel hcolon hsolid fun hc => ?_
    rw [isNameChar_iff.mpr ((isShellSafe_iff.mp detail.name_safe).2 c hc)] at hname
    exact nomatch hname
  have hcpus : carries Detail.cpusLabel (detail.labelled "Name" detail.name.toList) = false :=
    carries_eq_false (by decide : '[' ∈ Detail.cpusLabel.toList)
      (hlacks (by decide) (by decide) (by decide) (by decide))
  have hmemory : carries Detail.memoryLabel (detail.labelled "Name" detail.name.toList) = false :=
    carries_eq_false (by decide : '(' ∈ Detail.memoryLabel.toList)
      (hlacks (by decide) (by decide) (by decide) (by decide))
  -- the name itself may hold the label; what is read then is overwritten by the next line
  by_cases hrunState : carries Detail.runStateLabel (detail.labelled "Name" detail.name.toList)
  · refine ⟨(labelValue? (detail.labelled "Name" detail.name.toList)).map String.ofList,
      reads_singleton ?_⟩
    rw [Detail.readLine, if_pos hrunState]
    rfl
  · refine ⟨state.runState, reads_singleton ?_⟩
    simp [Detail.readLine, hrunState, hcpus, hmemory, pure, Except.pure]

/-- A line with a number is read as that number. -/
theorem number_labelled {bound : Nat} {label : String} (printed : Decimal.PrintedNumber bound)
    (hlabel : ':' ∉ label.toList) :
    number bound label (labelValue (detail.labelled label printed.numeral)) =
      .ok printed.value := by
  have hbare : ∀ c ∈ printed.numeral, isBlank c = false ∧ c ≠ ':' := by
    refine fun c hc => ⟨printed.solid c hc, ?_⟩
    rintro rfl
    exact Decimal.notMem_numeral printed.writes (by decide) (by decide) hc
  rw [labelValue, detail.labelValue?_labelled hlabel hbare, Option.getD_some,
    Client.number_numeral]

/-- A line with a number carries no label with a character that its own lacks. -/
theorem carries_number {bound : Nat} {label other : String} (printed : Decimal.PrintedNumber bound)
    {c : Char} (hother : c ∈ other.toList) (hlabel : c ∉ label.toList) (hcolon : c ≠ ':')
    (hsolid : isBlank c = false) (hdigit : c ≠ '+' ∧ c.isDigit = false) :
    carries other (detail.labelled label printed.numeral) = false := by
  have hvalue : c ∉ printed.numeral := Decimal.notMem_numeral printed.writes hdigit.1 hdigit.2
  exact carries_eq_false hother (detail.notMem_labelled hlabel hcolon hsolid hvalue)

/-- The line of the processors is read as their number. -/
theorem reads_cpus (state : Detail) :
    Reads [detail.labelled Detail.cpusLabel detail.cpus.numeral] state
      { state with cpus := some detail.cpus.value } := by
  have hrunState : carries Detail.runStateLabel
      (detail.labelled Detail.cpusLabel detail.cpus.numeral) = false :=
    detail.carries_number detail.cpus (by decide : 'R' ∈ Detail.runStateLabel.toList)
      (by decide) (by decide) (by decide) (by decide)
  refine reads_singleton ?_
  rw [Detail.readLine, hrunState, detail.carries_labelled,
    detail.number_labelled detail.cpus (by decide)]
  rfl

/-- The line of the memory is read as its size. -/
theorem reads_memory (state : Detail) :
    Reads [detail.labelled Detail.memoryLabel detail.memory.numeral] state
      { state with memory := some detail.memory.value } := by
  have hrunState : carries Detail.runStateLabel
      (detail.labelled Detail.memoryLabel detail.memory.numeral) = false :=
    detail.carries_number detail.memory (by decide : 'R' ∈ Detail.runStateLabel.toList)
      (by decide) (by decide) (by decide) (by decide)
  have hcpus : carries Detail.cpusLabel
      (detail.labelled Detail.memoryLabel detail.memory.numeral) = false :=
    detail.carries_number detail.memory (by decide : '[' ∈ Detail.cpusLabel.toList)
      (by decide) (by decide) (by decide) (by decide)
  refine reads_singleton ?_
  rw [Detail.readLine, hrunState, hcpus, detail.carries_labelled,
    detail.number_labelled detail.memory (by decide)]
  rfl

end PrintedDetail

/-- A device token is read only for the run state. -/
theorem reads_device (device : Device) (state : Detail) :
    Reads [device.text] state { state with
      runState := if carries Detail.runStateLabel device.text then some device.driver
        else state.runState } := by
  have hblank {label : String} (hlabel : ' ' ∈ label.toList) :
      carries label device.text = false :=
    carries_eq_false hlabel fun hc => absurd (device.solid ' ' hc) (by decide)
  have hcpus : carries Detail.cpusLabel device.text = false := hblank (by decide)
  have hmemory : carries Detail.memoryLabel device.text = false := hblank (by decide)
  refine reads_singleton ?_
  -- a token has no blank in it, and both other labels have one
  by_cases hrunState : carries Detail.runStateLabel device.text = true
  · rw [Detail.readLine, if_pos hrunState, if_pos hrunState, labelValue?_device, Option.map_some,
      String.ofList_toList]
    rfl
  · rw [Detail.readLine, if_neg hrunState, if_neg hrunState, hcpus, hmemory]
    rfl

/-- The cards set the run state if any of them mentions its label. -/
theorem reads_cards (cards : List Card) (state : Detail) :
    Reads (cards.map Card.text) state { state with
      runState := if cards.any (carries Detail.runStateLabel ·.text) then some "avio_lan"
        else state.runState } := by
  induction cards generalizing state with
  | nil => exact reads_nil state
  | cons card cards ih =>
    have hreads := (reads_device (.card card) state).append (ih _)
    rw [List.any_cons]
    -- a later card sets the run state again, and to the same driver
    cases hcard : carries Detail.runStateLabel card.text with
    | false => simpa [Device.text, hcard] using hreads
    | true => simpa [Device.text, Device.driver, hcard] using hreads

namespace PrintedDetail

variable (detail : PrintedDetail)

/-- The token of the disk mentions what its volume group or its workload mentions. -/
theorem carries_disk :
    carries Detail.runStateLabel detail.disk.text =
      (carries Detail.runStateLabel detail.group.toList ||
        carries Detail.runStateLabel detail.workload.toList) := by
  have htext : detail.disk.text = "disk:avio_stor:0,0,0:lv".toList ++ ':' ::
      (detail.group.toList ++ '/' :: ("rlv".toList ++ '-' :: detail.workload.toList)) := by
    rw [Disk.text, Disk.attachment, disk, toList_rawVolumePath]
    simp [token, keyed, addressText, zeroField, digitField]
  have hlabel : Detail.runStateLabel.toList ≠ [] := by decide
  have hfront : ¬Detail.runStateLabel.toList <:+: "disk:avio_stor:0,0,0:lv".toList := by decide
  have hname : ¬Detail.runStateLabel.toList <:+: "rlv".toList := by decide
  -- the label has none of the separators, so it is between two of them
  rw [Bool.eq_iff_iff, Bool.or_eq_true, carries, carries, carries, occurs_iff, occurs_iff,
    occurs_iff, htext, infix_append_cons_iff hlabel (by decide), or_iff_right hfront,
    infix_append_cons_iff hlabel (by decide), infix_append_cons_iff hlabel (by decide),
    or_iff_right hname]

/-- Line by line, the description is read as it is printed but for the run state. -/
theorem reads_lines (state : Detail) :
    Reads detail.lines state
      ⟨some detail.readState, some detail.cpus.value, some detail.memory.value⟩ := by
  obtain ⟨nameState, hname⟩ := detail.reads_name state
  have hlines := (reads_silent detail.beforeName state).append <| hname.append <|
    (detail.reads_runState _).append <| (reads_silent detail.afterRunState _).append <|
    (detail.reads_cpus _).append <| (reads_silent detail.afterCpus _).append <|
    (detail.reads_memory _).append <| (reads_silent detail.afterMemory _).append <|
    (reads_device (.disk detail.disk) _).append <| (reads_cards detail.cards _).append <|
    reads_silent detail.afterDevices _
  -- the cards come after the disk, and both after the line of the run state
  have hstate : (if detail.cards.any (carries Detail.runStateLabel ·.text) then some "avio_lan"
      else if carries Detail.runStateLabel detail.disk.text then some "avio_stor"
      else some detail.runState) = some detail.readState := by
    rw [carries_disk, readState, apply_ite some, apply_ite some]
  rw [← hstate]
  exact hlines

theorem inLine_labelled (label : String) {value : List Char} (hlabel : '\n' ∉ label.toList)
    (hvalue : ∀ c ∈ value, isBlank c = false) : '\n' ∉ detail.labelled label value := by
  have hline : '\n' ∉ value := fun h => absurd (hvalue '\n' h) (by decide)
  simp [labelled, keyed, hlabel, (detail.pad label).inLine, hline]

/-- None of the lines of a description breaks in two. -/
theorem inLine : ∀ line ∈ detail.lines, '\n' ∉ line := by
  have hsilent (lines : List SilentLine) : ∀ line ∈ lines.map SilentLine.chars, '\n' ∉ line := by
    rw [List.forall_mem_map]
    exact fun line _ => line.inLine
  have hdevice (device : Device) : '\n' ∉ device.text := fun h =>
    absurd (device.solid '\n' h) (by decide)
  have hcards : ∀ line ∈ detail.cards.map Card.text, '\n' ∉ line := by
    rw [List.forall_mem_map]
    exact fun card _ => hdevice (.card card)
  have hname := detail.inLine_labelled "Name" (by decide)
    (solid_of_isShellSafe detail.name_safe)
  have hrunState := detail.inLine_labelled Detail.runStateLabel (by decide)
    fun c hc => (detail.runState_bare c hc).1
  have hcpus := detail.inLine_labelled Detail.cpusLabel (by decide) detail.cpus.solid
  have hmemory := detail.inLine_labelled Detail.memoryLabel (by decide)
    detail.memory.solid
  simp only [lines, List.forall_mem_append, List.forall_mem_singleton]
  exact ⟨hsilent _, hname, hrunState, hsilent _, hcpus, hsilent _, hmemory, hsilent _,
    hdevice (.disk detail.disk), hcards, hsilent _⟩

/-- Processors and memory are read as they are printed, whatever the names are. The run state is so
too, unless the label of the run state is part of the volume group, the workload or a card. -/
theorem detail_of_printed :
    Detail.read detail.text
      = .ok ⟨some detail.readState, some detail.cpus.value, some detail.memory.value⟩ := by
  rw [Detail.read, text, lines_flatMap_ended detail.inLine]
  exact detail.reads_lines _

end PrintedDetail

/-- A description of a partition that is down, with the disk of a workload and one card. -/
def sampleDetail (workload : String) (h : isShellSafe workload = true) : PrintedDetail where
  name := "vpar1"
  name_safe := rfl
  workload := workload
  workload_safe := h
  runState := "DOWN"
  runState_bare := by simp [isBlank]
  cpus := ⟨2, by decide, ['2'], ['2'], .inl rfl, by decide, by simp, rfl⟩
  memory := ⟨2048, by decide, "2048".toList, "2048".toList, .inl rfl, by decide, by simp, rfl⟩
  group := "/dev/vg00"
  group_solid := solid_of_all rfl
  cards := [sampleCard "56a1b2c3d4e5" "sitelan" (by decide)]
  pad := fun _ => ⟨[' '], List.forall_mem_singleton.mpr rfl, by decide⟩
  beforeName := []
  afterRunState := [⟨"State: Inactive".toList, by decide, by decide⟩]
  afterCpus := []
  afterMemory := []
  afterDevices := []

/-- A workload that does not mention the label. -/
theorem detail_of_printed_sample :
    Detail.read ("Name: vpar1\r\nRunState: DOWN\r\nState: Inactive\r\n".toList ++
      "System assigned [Count]: 2\r\nTotal Memory(MB): 2048\r\n".toList ++
      "disk:avio_stor:0,0,0:lv:/dev/vg00/rlv-w1\r\n".toList ++
      "network:avio_lan:0,1,0x56a1b2c3d4e5:vswitch:sitelan:portid:3\r\n".toList)
        = .ok ⟨some "DOWN", some 2, some 2048⟩ := by
  have hread := (sampleDetail "w1" rfl).detail_of_printed
  have hstate : (sampleDetail "w1" rfl).readState = "DOWN" := by decide +kernel
  rw [hstate] at hread
  exact (congrArg Detail.read (by decide +kernel)).trans hread

/-- The volume of a workload is taken for the run state, and the driver of its disk is read. -/
theorem not_always_runState :
    let detail := sampleDetail "RunState" rfl
    detail.text = "Name: vpar1\r\nRunState: DOWN\r\nState: Inactive\r\n".toList ++
      "System assigned [Count]: 2\r\nTotal Memory(MB): 2048\r\n".toList ++
      "disk:avio_stor:0,0,0:lv:/dev/vg00/rlv-RunState\r\n".toList ++
      "network:avio_lan:0,1,0x56a1b2c3d4e5:vswitch:sitelan:portid:3\r\n".toList ∧
    detail.runState = "DOWN" ∧
    Detail.read detail.text = .ok ⟨some "avio_stor", some 2, some 2048⟩ := by
  decide +kernel

end VparFleet.Report
