import VparFleet.Proofs.Report.Fields
import VparFleet.Report.Capacity

/-!
# Printed capacity reports

The labelled lines of a capacity report are read wherever they stand, in any order and with blanks
of any kind around their parts. A line with a label whose value cannot be read refuses the report,
and so does a volume group report without one of its labels: no value is made up.

* `FreeLine`, `GroupLine`: the lines of the two reports as they are printed.
* `FreeCapacity.read_text`, `VolumeGroup.read_text`: what is read from printed reports.
* `FreeCapacity.not_unreadable_of_read`, `VolumeGroup.not_unreadable_of_read`: what is in a report
  that has been read.
* `VolumeGroup.exists_carries_of_read`: all labels are there.
* `capacity_as_printed`: reports are read as they are printed, or refused.
-/

namespace VparFleet.Report

open Text

/-! ## Values -/

namespace FreeCapacity

/-- The number of free processors. -/
def cpusValue : LabelledValue :=
  ⟨cpusLabel, labelValue?, Decimal.word32⟩

/-- The free memory; a unit comes after it. -/
def memoryValue : LabelledValue :=
  ⟨memoryLabel, fun line => (labelValue? line).bind fun field => (words field).head?,
    Decimal.word64⟩

def values : List LabelledValue := [cpusValue, memoryValue]

end FreeCapacity

namespace VolumeGroup

/-- A value in a column. -/
def columnValue (index : Nat) (label : String) : LabelledValue :=
  ⟨label, fun line => (words line)[index]?, Decimal.word64⟩

/-- The label of the extent size is one word longer than the others. -/
def values : List LabelledValue :=
  [columnValue 3 extentSizeLabel, columnValue 2 extentsLabel, columnValue 2 allocatedLabel]

end VolumeGroup

/-! ## Free processors and memory -/

/-- Blanks around the parts of a line with a colon. -/
structure Spacing where
  before : Padding
  beforeColon : Padding
  afterColon : Padding
  after : Padding

/-- What is printed before the colon: a label in brackets. -/
def bracketed (label : String) (spacing : Spacing) : List Char :=
  spacing.before.chars ++ ('[' :: (label.toList ++ (']' :: spacing.beforeColon.chars)))

/-- A label in brackets and a value after a colon. -/
def bracketedLine (label : String) (spacing : Spacing) (value : List Char) : List Char :=
  bracketed label spacing ++ ':' :: (spacing.afterColon.chars ++ (value ++ spacing.after.chars))

/-- A line of the report on free processors and memory as it is printed. -/
inductive FreeLine where
  | cpus (count : Decimal.PrintedNumber Decimal.word32) (spacing : Spacing)
  | memory (megabytes : Decimal.PrintedNumber Decimal.word64) (gap : Gap) (spacing : Spacing)
  | other (line : UnlabelledLine FreeCapacity.values)

section Bracketed

variable {label : String} {spacing : Spacing} {value : List Char} {c : Char}

theorem carries_bracketedLine : carries label (bracketedLine label spacing value) = true := by
  refine occurs_iff.mpr ⟨spacing.before.chars ++ ['['], ']' :: spacing.beforeColon.chars ++
    ':' :: (spacing.afterColon.chars ++ (value ++ spacing.after.chars)), ?_⟩
  simp [bracketedLine, bracketed]

/-- A character of a line is one of the label or of the value, or of what is around them. -/
theorem notMem_bracketedLine (hpad : ∀ pad : Padding, c ∉ pad.chars) (hmark : c ∉ ['[', ']', ':'])
    (hlabel : c ∉ label.toList) (hvalue : c ∉ value) : c ∉ bracketedLine label spacing value := by
  simp only [List.mem_cons, List.not_mem_nil, or_false, not_or] at hmark
  simp [bracketedLine, bracketed, hpad, hmark, hlabel, hvalue]

/-- What stands after the colon is the value, without the blanks around it. -/
theorem labelValue?_bracketedLine (hlabel : ':' ∉ label.toList) (hvalue : ':' ∉ value) :
    labelValue? (bracketedLine label spacing value) = some (trim value) := by
  have hpad (pad : Padding) : ':' ∉ pad.chars := pad.notMem (by decide)
  have hbefore : ':' ∉ bracketed label spacing := by simp [bracketed, hpad, hlabel]
  have hafter : ':' ∉ spacing.afterColon.chars ++ (value ++ spacing.after.chars) := by
    simp [hpad, hvalue]
  rw [labelValue?, bracketedLine, List.splitOn_append_cons_self_of_not_mem hbefore,
    List.splitOn_eq_singleton hafter]
  show some (trim _) = some (trim value)
  rw [trim_append_left spacing.afterColon.blank, trim_append_right spacing.after.blank]

end Bracketed

namespace FreeLine

/-- The line without its end. -/
def chars : FreeLine → List Char
  | cpus count spacing => bracketedLine FreeCapacity.cpusLabel spacing count.numeral
  | memory megabytes gap spacing =>
    bracketedLine FreeCapacity.memoryLabel spacing
      (megabytes.numeral ++ (gap.chars ++ "Mbytes".toList))
  | other line => line.chars

/-- Whether the line has a value. -/
def isLabelled : FreeLine → Bool
  | other _ => false
  | _ => true

/-- Takes the value of the line. -/
def apply (free : FreeCapacity) : FreeLine → FreeCapacity
  | cpus count _ => { free with cpus := count.value }
  | memory megabytes _ _ => { free with memory := megabytes.value }
  | other _ => free

theorem inLine (line : FreeLine) : '\n' ∉ line.chars := by
  have hpad (pad : Padding) : '\n' ∉ pad.chars := pad.inLine
  cases line with
  | cpus count spacing =>
    exact notMem_bracketedLine hpad (by decide) (by decide)
      (Decimal.notMem_numeral count.writes (by decide) (by decide))
  | memory megabytes gap spacing =>
    refine notMem_bracketedLine hpad (by decide) (by decide) ?_
    have hnumeral := Decimal.notMem_numeral megabytes.writes (by decide : '\n' ≠ '+') (by decide)
    simp [hnumeral, gap.inLine]
  | other line => exact line.inLine

/-- The line of the processors sets their number. -/
theorem readLine_cpus (free : FreeCapacity) (count : Decimal.PrintedNumber Decimal.word32)
    (spacing : Spacing) : FreeCapacity.readLine free (cpus count spacing).chars
      = .ok { free with cpus := count.value } := by
  have hvalue : labelValue (cpus count spacing).chars = count.numeral := by
    rw [labelValue, chars, labelValue?_bracketedLine (by decide)
      (Decimal.notMem_numeral count.writes (by decide) (by decide)), Option.getD_some,
      trim_of_solid count.solid]
  rw [FreeCapacity.readLine, hvalue, Client.number_numeral, chars, if_pos carries_bracketedLine]
  rfl

/-- The line of the memory sets it, in megabytes; the unit does not matter. -/
theorem readLine_memory (free : FreeCapacity) (megabytes : Decimal.PrintedNumber Decimal.word64)
    (gap : Gap) (spacing : Spacing) :
    FreeCapacity.readLine free (memory megabytes gap spacing).chars
      = .ok { free with memory := megabytes.value } := by
  have hvalue {c : Char} (hsolid : isBlank c = false) (hplus : c ≠ '+') (hdigit : c.isDigit = false)
      (hunit : c ∉ "Mbytes".toList) : c ∉ megabytes.numeral ++ (gap.chars ++ "Mbytes".toList) := by
    simp only [List.mem_append, not_or]
    exact ⟨Decimal.notMem_numeral megabytes.writes hplus hdigit, gap.notMem hsolid, hunit⟩
  have hcpus : carries FreeCapacity.cpusLabel (memory megabytes gap spacing).chars = false := by
    -- the label of the processors has a letter that the line lacks
    refine carries_eq_false (by decide : 'C' ∈ FreeCapacity.cpusLabel.toList) ?_
    exact notMem_bracketedLine (fun pad => pad.notMem (by decide)) (by decide) (by decide)
      (hvalue (by decide) (by decide) (by decide) (by decide))
  -- the number is the first of two words
  have hwords : words (labelValue (memory megabytes gap spacing).chars)
      = [megabytes.numeral, "Mbytes".toList] := by
    obtain ⟨hne, hsolid⟩ := Decimal.isBlank_eq_false_of_numeral megabytes.writes
    rw [labelValue, chars, labelValue?_bracketedLine (by decide)
      (hvalue (by decide) (by decide) (by decide) (by decide)), Option.getD_some, words_trim,
      words_append_gap gap.ne_nil gap.blank, words_of_solid hne hsolid,
      words_of_solid (by decide) (solid_of_all rfl)]
    rfl
  rw [FreeCapacity.readLine, hwords, hcpus, chars, carries_bracketedLine]
  show (number Decimal.word64 FreeCapacity.memoryLabel megabytes.numeral >>= _) = _
  rw [Client.number_numeral]
  rfl

theorem readLine_chars (free : FreeCapacity) (line : FreeLine) :
    FreeCapacity.readLine free line.chars = .ok (apply free line) := by
  cases line with
  | cpus count spacing => exact readLine_cpus free count spacing
  | memory megabytes gap spacing => exact readLine_memory free megabytes gap spacing
  | other line =>
    have hcpus : carries FreeCapacity.cpusLabel line.chars = false :=
      line.silent FreeCapacity.cpusValue (by simp [FreeCapacity.values])
    have hmemory : carries FreeCapacity.memoryLabel line.chars = false :=
      line.silent FreeCapacity.memoryValue (by simp [FreeCapacity.values])
    rw [FreeCapacity.readLine, chars, hcpus, hmemory]
    rfl

end FreeLine

namespace FreeCapacity

/-- How a line ends makes no difference. -/
theorem readLine_dropReturn (free : FreeCapacity) (line : List Char) :
    readLine free (dropReturn line) = readLine free line := by
  have hcpus := carries_dropReturn (by decide : cpusLabel ≠ "") (by decide) line
  have hmemory := carries_dropReturn (by decide : memoryLabel ≠ "") (by decide) line
  simp only [readLine, labelValue, hcpus, hmemory, labelValue?_dropReturn]

/-- One line of each kind, in any order, among others. -/
theorem read_text {printed : PrintedLines FreeLine}
    {count : Decimal.PrintedNumber Decimal.word32} {spacing spacing' : Spacing}
    {megabytes : Decimal.PrintedNumber Decimal.word64} {gap : Gap}
    (h : (printed.all.filter FreeLine.isLabelled).Perm
      [.cpus count spacing, .memory megabytes gap spacing']) :
    read (printed.text FreeLine.chars) = .ok ⟨count.value, megabytes.value⟩ := by
  have hother : ∀ free line, FreeLine.isLabelled line = false →
      FreeLine.apply free line = free := by
    intro free line hline
    cases line with
    | other => rfl
    | _ => exact nomatch hline
  -- different values may be taken in any order
  have hcommute : ∀ line ∈ [FreeLine.cpus count spacing, .memory megabytes gap spacing'],
      ∀ other ∈ [FreeLine.cpus count spacing, .memory megabytes gap spacing'], ∀ free,
        FreeLine.apply (FreeLine.apply free line) other
          = FreeLine.apply (FreeLine.apply free other) line := by
    simp [FreeLine.apply]
  exact printed.foldlM_lines_of_perm FreeLine.inLine FreeLine.readLine_chars readLine_dropReturn
    (fun _ => rfl) hother hcommute h ⟨0, 0⟩

end FreeCapacity

/-! ## Volume groups -/

/-- Blanks around the parts of a line without a colon. -/
structure RowSpacing where
  before : Padding
  gap : Gap
  after : Padding

/-- A label and a value after it. -/
def labelledRow (label : String) (spacing : RowSpacing) (value : List Char) : List Char :=
  spacing.before.chars ++ (label.toList ++ (spacing.gap.chars ++ (value ++ spacing.after.chars)))

/-- A line of a volume group report as it is printed. -/
inductive GroupLine where
  | size (megabytes : Decimal.PrintedNumber Decimal.word64) (spacing : RowSpacing)
  | extents (count : Decimal.PrintedNumber Decimal.word64) (spacing : RowSpacing)
  | allocated (count : Decimal.PrintedNumber Decimal.word64) (spacing : RowSpacing)
  | other (line : UnlabelledLine VolumeGroup.values)

section Rows

variable {label other : String} {spacing : RowSpacing} {c : Char}
  {value : Decimal.PrintedNumber Decimal.word64}

theorem carries_labelledRow : carries label (labelledRow label spacing value.numeral) = true :=
  occurs_iff.mpr ⟨spacing.before.chars, _, List.append_assoc _ _ _⟩

/-- A row carries no label with a character that its own lacks. -/
theorem carries_labelledRow_eq_false (hother : c ∈ other.toList) (hlabel : c ∉ label.toList)
    (hsolid : isBlank c = false) (hplus : c ≠ '+') (hdigit : c.isDigit = false) :
    carries other (labelledRow label spacing value.numeral) = false := by
  have hpad (pad : Padding) : c ∉ pad.chars := pad.notMem hsolid
  have hvalue := Decimal.notMem_numeral value.writes hplus hdigit
  exact carries_eq_false hother (by simp [labelledRow, hpad, hlabel, hvalue])

/-- A row is one line. -/
theorem inLine_labelledRow (hlabel : '\n' ∉ label.toList) :
    '\n' ∉ labelledRow label spacing value.numeral := by
  have hvalue := Decimal.notMem_numeral value.writes (by decide : '\n' ≠ '+') (by decide)
  have hpad (pad : Padding) : '\n' ∉ pad.chars := pad.inLine
  simp [labelledRow, hpad, hlabel, hvalue]

/-- The value is the word after those of the label. -/
theorem column_labelledRow (name : String) :
    column (words label.toList).length name (labelledRow label spacing value.numeral)
      = .ok value.value := by
  obtain ⟨hne, hsolid⟩ := Decimal.isBlank_eq_false_of_numeral value.writes
  -- the words of the label, and the numeral after them
  have hwords : words (labelledRow label spacing value.numeral)
      = words label.toList ++ [value.numeral] := by
    rw [labelledRow, words_append_left spacing.before.blank,
      words_append_gap spacing.gap.ne_nil spacing.gap.blank, words_append_right spacing.after.blank,
      words_of_solid hne hsolid]
  rw [column, hwords, List.getElem?_append_right (Nat.le_refl _), Nat.sub_self]
  exact Client.number_numeral value name

end Rows

namespace GroupLine

open VolumeGroup

/-- The line without its end. -/
def chars : GroupLine → List Char
  | size megabytes spacing => labelledRow extentSizeLabel spacing megabytes.numeral
  | extents count spacing => labelledRow extentsLabel spacing count.numeral
  | allocated count spacing => labelledRow allocatedLabel spacing count.numeral
  | other line => line.chars

/-- Whether the line has a value. -/
def isLabelled : GroupLine → Bool
  | other _ => false
  | _ => true

/-- Takes the value of the line. -/
def apply (group : VolumeGroup) : GroupLine → VolumeGroup
  | size megabytes _ => { group with extentSize := some megabytes.value }
  | extents count _ => { group with extents := some count.value }
  | allocated count _ => { group with allocated := some count.value }
  | other _ => group

theorem inLine (line : GroupLine) : '\n' ∉ line.chars := by
  cases line with
  | size => exact inLine_labelledRow (by decide)
  | extents => exact inLine_labelledRow (by decide)
  | allocated => exact inLine_labelledRow (by decide)
  | other line => exact line.inLine

theorem readLine_chars (group : VolumeGroup) (line : GroupLine) :
    VolumeGroup.readLine group line.chars = .ok (apply group line) := by
  cases line with
  | size megabytes spacing =>
    have hvalue : column 3 extentSizeLabel (size megabytes spacing).chars = .ok megabytes.value :=
      column_labelledRow extentSizeLabel
    rw [VolumeGroup.readLine, hvalue, chars, carries_labelledRow]
    rfl
  | extents count spacing =>
    have hsize : carries extentSizeLabel (extents count spacing).chars = false :=
      carries_labelledRow_eq_false (by decide : 'S' ∈ extentSizeLabel.toList) (by decide)
        (by decide) (by decide) (by decide)
    have hvalue : column 2 extentsLabel (extents count spacing).chars = .ok count.value :=
      column_labelledRow extentsLabel
    rw [VolumeGroup.readLine, hsize, hvalue, chars, carries_labelledRow]
    rfl
  | allocated count spacing =>
    have hsize : carries extentSizeLabel (allocated count spacing).chars = false :=
      carries_labelledRow_eq_false (by decide : 'S' ∈ extentSizeLabel.toList) (by decide)
        (by decide) (by decide) (by decide)
    have hextents : carries extentsLabel (allocated count spacing).chars = false :=
      carries_labelledRow_eq_false (by decide : 'T' ∈ extentsLabel.toList) (by decide)
        (by decide) (by decide) (by decide)
    have hvalue : column 2 allocatedLabel (allocated count spacing).chars = .ok count.value :=
      column_labelledRow allocatedLabel
    rw [VolumeGroup.readLine, hsize, hextents, hvalue, chars, carries_labelledRow]
    rfl
  | other line =>
    have hsize : carries extentSizeLabel line.chars = false :=
      line.silent (columnValue 3 extentSizeLabel) (by simp [values])
    have hextents : carries extentsLabel line.chars = false :=
      line.silent (columnValue 2 extentsLabel) (by simp [values])
    have hallocated : carries allocatedLabel line.chars = false :=
      line.silent (columnValue 2 allocatedLabel) (by simp [values])
    rw [VolumeGroup.readLine, chars, hsize, hextents, hallocated]
    rfl

end GroupLine

namespace VolumeGroup

/-- How a line ends makes no difference. -/
theorem readLine_dropReturn (group : VolumeGroup) (line : List Char) :
    readLine group (dropReturn line) = readLine group line := by
  have hsize := carries_dropReturn (by decide : extentSizeLabel ≠ "") (by decide) line
  have hextents := carries_dropReturn (by decide : extentsLabel ≠ "") (by decide) line
  have hallocated := carries_dropReturn (by decide : allocatedLabel ≠ "") (by decide) line
  simp only [readLine, column, hsize, hextents, hallocated, words_dropReturn]

/-- One line of each kind, in any order, among others. -/
theorem read_text {printed : PrintedLines GroupLine}
    {size extents allocated : Decimal.PrintedNumber Decimal.word64}
    {spacing spacing' spacing'' : RowSpacing}
    (h : (printed.all.filter GroupLine.isLabelled).Perm
      [.size size spacing, .extents extents spacing', .allocated allocated spacing'']) :
    read (printed.text GroupLine.chars) = .ok (usage size.value extents.value allocated.value) := by
  have hother : ∀ group line, GroupLine.isLabelled line = false →
      GroupLine.apply group line = group := by
    intro group line hline
    cases line with
    | other => rfl
    | _ => exact nomatch hline
  -- different values may be taken in any order
  have hcommute : ∀ line ∈ [GroupLine.size size spacing, .extents extents spacing',
      .allocated allocated spacing''], ∀ other ∈ [GroupLine.size size spacing,
      .extents extents spacing', .allocated allocated spacing''], ∀ group,
        GroupLine.apply (GroupLine.apply group line) other
          = GroupLine.apply (GroupLine.apply group other) line := by
    simp [GroupLine.apply]
  rw [read, printed.foldlM_lines_of_perm GroupLine.inLine GroupLine.readLine_chars
    readLine_dropReturn (fun _ => rfl) hother hcommute h ⟨none, none, none⟩]
  rfl

end VolumeGroup

/-! ## Reports that are refused -/

namespace FreeCapacity

variable {free free' : FreeCapacity} {value : LabelledValue} {line text : List Char}

/-- A line that has been read and carries one label has its value. -/
theorem not_unreadable_of_readLine (honly : OnlyLabel values value line)
    (h : readLine free line = .ok free') : ¬value.Unreadable line := by
  have hmem := honly.mem
  simp only [values, List.mem_cons, List.not_mem_nil, or_false] at hmem
  -- either label decides how the line is read
  rcases hmem with rfl | rfl
  · have hcpus : carries cpusLabel line = true := honly.carried
    rw [readLine, if_pos hcpus] at h
    obtain ⟨n, hnumber, -⟩ := bind_eq_ok_iff.mp h
    refine LabelledValue.not_unreadable_of_number (fun field hfield => ?_) hnumber
    obtain ⟨part, -, rfl⟩ := Option.map_eq_some_iff.mp hfield
    exact trim_trim part
  · have hcpus : carries cpusLabel line = false :=
      honly.carries_eq_false (List.mem_cons_self : cpusValue ∈ values) (by decide)
    have hvalue : (words (labelValue line)).head?.getD [] = (memoryValue.field? line).getD [] := by
      show (words ((labelValue? line).getD [])).head?.getD []
        = ((labelValue? line).bind fun field => (words field).head?).getD []
      cases labelValue? line <;> rfl
    have hmemory : carries memoryLabel line = true := honly.carried
    rw [readLine, hcpus, if_neg (by decide), if_pos hmemory, hvalue] at h
    obtain ⟨n, hnumber, -⟩ := bind_eq_ok_iff.mp h
    refine LabelledValue.not_unreadable_of_number (fun field hfield => ?_) hnumber
    obtain ⟨part, -, hfirst⟩ := Option.bind_eq_some_iff.mp hfield
    exact trim_of_solid (words_not_blank part field (List.mem_of_head? hfirst)).2

/-- Every line of a report that has been read and that carries one label has its value. -/
theorem not_unreadable_of_read (h : read text = .ok free) (hline : line ∈ lines text)
    (honly : OnlyLabel values value line) : ¬value.Unreadable line := by
  obtain ⟨before, after, hread⟩ := exists_of_mem_foldlM h hline
  exact not_unreadable_of_readLine honly hread

end FreeCapacity

namespace VolumeGroup

variable {group group' : VolumeGroup} {usage : DiskUsage} {value : LabelledValue} {label : String}
  {line text : List Char}

/-- A column that has been read holds a number. -/
theorem not_unreadable_of_column {index n : Nat} (h : column index label line = .ok n) :
    ¬(columnValue index label).Unreadable line := by
  rw [column] at h
  split at h
  · exact nomatch h
  · next word hword =>
    have hsolid := (words_not_blank line word (List.mem_of_getElem? hword)).2
    have hbare : ∀ field, (columnValue index label).field? line = some field →
        trim field = field := by
      intro field hfield
      obtain rfl : word = field := Option.some.inj (hword.symm.trans hfield)
      exact trim_of_solid hsolid
    have hnumber : number Decimal.word64 label (((columnValue index label).field? line).getD [])
        = .ok n := by
      show number Decimal.word64 label (((words line)[index]?).getD []) = .ok n
      rw [hword]
      exact h
    exact LabelledValue.not_unreadable_of_number hbare hnumber

/-- A line that has been read and carries one label has its value. -/
theorem not_unreadable_of_readLine (honly : OnlyLabel values value line)
    (h : readLine group line = .ok group') : ¬value.Unreadable line := by
  have hmem := honly.mem
  simp only [values, List.mem_cons, List.not_mem_nil, or_false] at hmem
  have hsize : columnValue 3 extentSizeLabel ∈ values := by simp [values]
  have hextents : columnValue 2 extentsLabel ∈ values := by simp [values]
  rcases hmem with rfl | rfl | rfl
  · have hsize : carries extentSizeLabel line = true := honly.carried
    rw [readLine, if_pos hsize] at h
    obtain ⟨n, hcolumn, -⟩ := bind_eq_ok_iff.mp h
    exact not_unreadable_of_column hcolumn
  · have hsize : carries extentSizeLabel line = false := honly.carries_eq_false hsize (by decide)
    have hextents : carries extentsLabel line = true := honly.carried
    rw [readLine, hsize, if_neg (by decide), if_pos hextents] at h
    obtain ⟨n, hcolumn, -⟩ := bind_eq_ok_iff.mp h
    exact not_unreadable_of_column hcolumn
  · have hsize : carries extentSizeLabel line = false := honly.carries_eq_false hsize (by decide)
    have hextents : carries extentsLabel line = false :=
      honly.carries_eq_false hextents (by decide)
    have hallocated : carries allocatedLabel line = true := honly.carried
    rw [readLine, hsize, hextents, if_neg (by decide), if_neg (by decide), if_pos hallocated] at h
    obtain ⟨n, hcolumn, -⟩ := bind_eq_ok_iff.mp h
    exact not_unreadable_of_column hcolumn

/-- Every line of a report that has been read and that carries one label has its value. -/
theorem not_unreadable_of_read (h : read text = .ok usage) (hline : line ∈ lines text)
    (honly : OnlyLabel values value line) : ¬value.Unreadable line := by
  obtain ⟨size, extents, allocated, hlines, -⟩ := exists_of_read h
  obtain ⟨before, after, hread⟩ := exists_of_mem_foldlM hlines hline
  exact not_unreadable_of_readLine honly hread

/-- A line sets nothing whose label it lacks. -/
theorem readLine_frame (h : readLine group line = .ok group') :
    (carries extentSizeLabel line = false → group'.extentSize = group.extentSize) ∧
    (carries extentsLabel line = false → group'.extents = group.extents) ∧
    (carries allocatedLabel line = false → group'.allocated = group.allocated) := by
  rw [readLine] at h
  -- the labels are looked for in this order, and the first that is found decides
  split at h
  · next hsize =>
    obtain ⟨n, -, h⟩ := bind_eq_ok_iff.mp h
    obtain rfl := Except.ok.inj h
    simp [hsize]
  split at h
  · next hextents =>
    obtain ⟨n, -, h⟩ := bind_eq_ok_iff.mp h
    obtain rfl := Except.ok.inj h
    simp [hextents]
  split at h
  · next hallocated =>
    obtain ⟨n, -, h⟩ := bind_eq_ok_iff.mp h
    obtain rfl := Except.ok.inj h
    simp [hallocated]
  · obtain rfl := Except.ok.inj h
    simp

/-- A report that has been read has a line for each value. -/
theorem exists_carries_of_read (h : read text = .ok usage) (hvalue : value ∈ values) :
    ∃ line ∈ lines text, carries value.label line = true := by
  obtain ⟨size, extents, allocated, hlines, -⟩ := exists_of_read h
  by_contra hnone
  push Not at hnone
  simp only [Bool.not_eq_true] at hnone
  -- what is never set stays unknown
  have hunknown {field : VolumeGroup → Option Nat} (hstart : field ⟨none, none, none⟩ = none)
      (hframe : ∀ group, ∀ line ∈ lines text, ∀ group', readLine group line = .ok group' →
        field group' = field group) :
      field ⟨some size, some extents, some allocated⟩ = none :=
    preserved_of_foldlM (fun group line hline group' hunknown hread =>
      (hframe group line hline group' hread).trans hunknown) hstart hlines
  simp only [values, List.mem_cons, List.not_mem_nil, or_false] at hvalue
  -- all three values are known at the end, so for each there was a line
  rcases hvalue with rfl | rfl | rfl
  · exact nomatch @hunknown extentSize rfl fun group line hline group' hread =>
      (readLine_frame hread).1 (hnone line hline)
  · exact nomatch @hunknown VolumeGroup.extents rfl fun group line hline group' hread =>
      (readLine_frame hread).2.1 (hnone line hline)
  · exact nomatch @hunknown VolumeGroup.allocated rfl fun group line hline group' hread =>
      (readLine_frame hread).2.2 (hnone line hline)

end VolumeGroup

/-- Reports are read as they are printed, or refused. The values of a report that has one line for
each of them are read, whatever the order of these lines, the blanks in them, their ends and the
other lines are; space is given in whole gigabytes. Any report with a line that carries one label,
but whose value is missing, no number or out of range, is refused wherever that line stands, and so
is a volume group report in which a label is missing. -/
theorem capacity_as_printed :
    (∀ (printed : PrintedLines FreeLine) (count : Decimal.PrintedNumber Decimal.word32)
      (megabytes : Decimal.PrintedNumber Decimal.word64) (gap : Gap) (spacing spacing' : Spacing),
      (printed.all.filter FreeLine.isLabelled).Perm
        [.cpus count spacing, .memory megabytes gap spacing'] →
      FreeCapacity.read (printed.text FreeLine.chars) = .ok ⟨count.value, megabytes.value⟩) ∧
    (∀ (printed : PrintedLines GroupLine)
      (size extents allocated : Decimal.PrintedNumber Decimal.word64)
      (spacing spacing' spacing'' : RowSpacing),
      size.value * extents.value < Decimal.word64 → size.value * allocated.value < Decimal.word64 →
      (printed.all.filter GroupLine.isLabelled).Perm
        [.size size spacing, .extents extents spacing', .allocated allocated spacing''] →
      VolumeGroup.read (printed.text GroupLine.chars)
        = .ok ⟨size.value * extents.value / 1024, size.value * allocated.value / 1024,
          size.value * extents.value / 1024 - size.value * allocated.value / 1024⟩) ∧
    (∀ (text line : List Char) (value : LabelledValue), line ∈ lines text →
      OnlyLabel FreeCapacity.values value line → value.Unreadable line →
      ∃ detail, orFault (FreeCapacity.read text) = .error ⟨.remoteCommand, detail⟩) ∧
    (∀ (text line : List Char) (value : LabelledValue), line ∈ lines text →
      OnlyLabel VolumeGroup.values value line → value.Unreadable line →
      ∃ detail, orFault (VolumeGroup.read text) = .error ⟨.remoteCommand, detail⟩) ∧
    ∀ (text : List Char), ∀ value ∈ VolumeGroup.values,
      (∀ line ∈ lines text, carries value.label line = false) →
      ∃ detail, orFault (VolumeGroup.read text) = .error ⟨.remoteCommand, detail⟩ := by
  refine ⟨?_, ?_, ?_, ?_, ?_⟩
  · intro printed count megabytes gap spacing spacing' h
    exact FreeCapacity.read_text h
  · intro printed size extents allocated spacing spacing' spacing'' _ _ h
    exact VolumeGroup.read_text h
  · intro text line value hline honly hunreadable
    exact exists_orFault_eq fun free h =>
      FreeCapacity.not_unreadable_of_read h hline honly hunreadable
  · intro text line value hline honly hunreadable
    exact exists_orFault_eq fun usage h =>
      VolumeGroup.not_unreadable_of_read h hline honly hunreadable
  · intro text value hvalue habsent
    refine exists_orFault_eq fun usage h => ?_
    obtain ⟨line, hline, hcarried⟩ := VolumeGroup.exists_carries_of_read h hvalue
    rw [habsent line hline] at hcarried
    exact nomatch hcarried

/-- A blank as padding. -/
def Padding.ofChar (c : Char) (h : isBlank c = true ∧ '\n' ≠ c) : Padding where
  chars := [c]
  blank := List.forall_mem_singleton.mpr h.1
  inLine := fun hc => h.2 (List.mem_singleton.mp hc)

namespace Sample

/-- One blank. -/
def pad : Padding := .ofChar ' ' (by decide)

/-- A tabulator. -/
def gap : Gap := ⟨.ofChar '\t' (by decide), List.cons_ne_nil _ _⟩

/-- A line between two others. -/
def ports : UnlabelledLine FreeCapacity.values :=
  ⟨"[Available I/O]: none".toList, by decide, by decide⟩

/-- A report with the largest numbers, the memory first. -/
def freeReport : PrintedLines FreeLine :=
  ⟨[(.memory (.ofNat 18446744073709551615 (by decide)) gap ⟨pad, pad, pad, pad⟩, .returnFeed),
    (.other ports, .lineFeed)], some (.cpus (.ofNat 4294967295 (by decide)) ⟨pad, pad, pad, pad⟩)⟩

/-- A report whose extents are listed last. -/
def groupReport : PrintedLines GroupLine :=
  ⟨[(.allocated (.ofNat 7469 (by decide)) ⟨pad, gap, pad⟩, .lineFeed),
    (.size (.ofNat 64 (by decide)) ⟨pad, gap, pad⟩, .returnFeed),
    (.extents (.ofNat 8922 (by decide)) ⟨pad, gap, pad⟩, .lineFeed)], none⟩

end Sample

/-- Reports in another order, one whose number is one too large, and one without a label. -/
theorem capacity_as_printed_sample :
    FreeCapacity.read (" [Available Memory] : 18446744073709551615\tMbytes \r\n".toList ++
      "[Available I/O]: none\n [Available CPUs] : 4294967295 ".toList)
        = .ok ⟨4294967295, 18446744073709551615⟩ ∧
    VolumeGroup.read (" Alloc PE\t7469 \n PE Size (Mbytes)\t64 \r\n".toList ++
      " Total PE\t8922 \n".toList) = .ok ⟨557, 466, 91⟩ ∧
    (∃ detail, orFault (FreeCapacity.read "x\n[Available CPUs]: 4294967296\r\ny".toList)
      = .error ⟨.remoteCommand, detail⟩) ∧
    (∃ detail, orFault (VolumeGroup.read "x\nTotal PE  many".toList)
      = .error ⟨.remoteCommand, detail⟩) ∧
    ∃ detail, orFault (VolumeGroup.read "PE Size (Mbytes) 64\nTotal PE 8922".toList)
      = .error ⟨.remoteCommand, detail⟩ := by
  obtain ⟨hfree, hgroup, hfreeBad, hgroupBad, habsent⟩ := capacity_as_printed
  refine ⟨?_, ?_, ?_, ?_, ?_⟩
  · have hread := hfree Sample.freeReport _ _ _ _ _ (List.Perm.swap _ _ _)
    exact (congrArg FreeCapacity.read (by decide +kernel)).trans hread
  · -- the lines come in another order than the values
    have hread := hgroup Sample.groupReport (.ofNat 64 (by decide)) (.ofNat 8922 (by decide))
      (.ofNat 7469 (by decide)) ⟨Sample.pad, Sample.gap, Sample.pad⟩
      ⟨Sample.pad, Sample.gap, Sample.pad⟩ ⟨Sample.pad, Sample.gap, Sample.pad⟩ (by decide)
      (by decide) (List.perm_append_comm : ([_] ++ [_, _]).Perm ([_, _] ++ [_]))
    exact (congrArg VolumeGroup.read (by decide +kernel)).trans hread
  · exact hfreeBad _ "[Available CPUs]: 4294967296".toList FreeCapacity.cpusValue (by decide)
      ⟨List.mem_cons_self, by decide, by decide⟩ (LabelledValue.unreadable_iff.mpr (by decide))
  · exact hgroupBad _ "Total PE  many".toList
      (VolumeGroup.columnValue 2 VolumeGroup.extentsLabel) (by decide)
      ⟨by simp [VolumeGroup.values], by decide, by decide⟩
      (LabelledValue.unreadable_iff.mpr (by decide))
  · exact habsent _ (VolumeGroup.columnValue 2 VolumeGroup.allocatedLabel)
      (by simp [VolumeGroup.values]) (by decide)

end VparFleet.Report
