import VparFleet.Proofs.Text.Printed
import VparFleet.Report.Status

/-!
# Printed status tables

A status table is printed as rows of four fields, with blanks of any kind and number between them,
among lines that do not begin with a number. Lines end in either way, and the last one may lack its
end. What is read back are the rows, in their order and with repetitions.

* `PrintedRow`, `PrintedLine`, `PrintedTable`: tables as they are printed.
* `read_text`: reading gives the rows; `runningNames_text`: and the names of those that are up.
* `ofRunState_eq_running_iff`: which rows are those of running partitions.
-/

namespace VparFleet.Report

open Text

/-- Blanks that do not end a line. -/
structure Padding where
  chars : List Char
  blank : ∀ c ∈ chars, isBlank c = true
  inLine : '\n' ∉ chars

theorem Padding.notMem (pad : Padding) {c : Char} (h : isBlank c = false) : c ∉ pad.chars := by
  intro hc
  rw [pad.blank c hc] at h
  exact nomatch h

/-- Blanks between two fields. -/
structure Gap extends Padding where
  ne_nil : chars ≠ []

/-- A field that holds a text without blanks. -/
structure SolidField where
  text : String
  ne_empty : text ≠ ""
  solid : ∀ c ∈ text.toList, isBlank c = false

/-- A row as it is printed. -/
structure PrintedRow where
  /-- The number of the partition. -/
  num : Nat
  inRange : num < Decimal.word32
  /-- The text of the number. -/
  numeral : List Char
  writes : Decimal.Numeral num numeral
  name : SolidField
  runState : SolidField
  state : SolidField
  before : Padding
  afterNum : Gap
  afterName : Gap
  afterRunState : Gap
  after : Padding

namespace PrintedRow

variable (r : PrintedRow)

/-- The line without its end. -/
def line : List Char :=
  r.before.chars ++ (r.numeral ++ (r.afterNum.chars ++ (r.name.text.toList ++
    (r.afterName.chars ++ (r.runState.text.toList ++ (r.afterRunState.chars ++
      (r.state.text.toList ++ r.after.chars)))))))

/-- What the row says. -/
def row : StatusRow :=
  ⟨r.num, r.name.text, r.runState.text, r.state.text⟩

end PrintedRow

namespace SolidField

theorem words_text (field : SolidField) : words field.text.toList = [field.text.toList] := by
  refine words_of_solid ?_ field.solid
  simpa using field.ne_empty

theorem inLine (field : SolidField) : '\n' ∉ field.text.toList := by
  intro h
  exact absurd (field.solid '\n' h) (by decide)

end SolidField

namespace PrintedRow

/-- A printed row has four words. -/
theorem words_line (r : PrintedRow) :
    words r.line =
      [r.numeral, r.name.text.toList, r.runState.text.toList, r.state.text.toList] := by
  obtain ⟨hne, hsolid⟩ := Decimal.isBlank_eq_false_of_numeral r.writes
  rw [line, words_append_left r.before.blank, words_append_gap r.afterNum.ne_nil r.afterNum.blank,
    words_append_gap r.afterName.ne_nil r.afterName.blank,
    words_append_gap r.afterRunState.ne_nil r.afterRunState.blank,
    words_append_right r.after.blank, words_of_solid hne hsolid, r.name.words_text,
    r.runState.words_text, r.state.words_text]
  rfl

/-- A printed row is read as what it says. -/
theorem ofLine?_line (r : PrintedRow) : StatusRow.ofLine? r.line = some r.row := by
  have hnum : Decimal.read? Decimal.word32 r.numeral = some r.num :=
    Decimal.read?_eq_some_iff.mpr ⟨r.writes, r.inRange⟩
  simp only [StatusRow.ofLine?, r.words_line, hnum, Option.map_some, String.ofList_toList]
  rfl

theorem inLine (r : PrintedRow) : '\n' ∉ r.line := by
  obtain ⟨-, hsolid⟩ := Decimal.isBlank_eq_false_of_numeral r.writes
  have hnumeral : '\n' ∉ r.numeral := fun h => absurd (hsolid '\n' h) (by decide)
  simp [line, r.before.inLine, r.afterNum.inLine, r.afterName.inLine, r.afterRunState.inLine,
    r.after.inLine, r.name.inLine, r.runState.inLine, r.state.inLine, hnumeral]

end PrintedRow

/-- A line that does not begin with a number: a header, a separator, or nothing but blanks. -/
structure OtherLine where
  chars : List Char
  inLine : '\n' ∉ chars
  unnumbered : ∀ word, (words chars).head? = some word → ∀ n < Decimal.word32,
    ¬Decimal.Numeral n word

/-- A line that does not begin with a number is no row. -/
theorem OtherLine.ofLine?_chars (line : OtherLine) : StatusRow.ofLine? line.chars = none := by
  unfold StatusRow.ofLine?
  split
  · next num name runState state rest hwords =>
    have hnum : Decimal.read? Decimal.word32 num = none := by
      refine Option.eq_none_iff_forall_ne_some.mpr fun n hread => ?_
      obtain ⟨hnumeral, hn⟩ := Decimal.read?_eq_some_iff.mp hread
      exact line.unnumbered num (by rw [hwords]; rfl) n hn hnumeral
    rw [hnum, Option.map_none]
  · rfl

/-- A line as it is printed. -/
inductive PrintedLine where
  | row (r : PrintedRow)
  | other (line : OtherLine)

namespace PrintedLine

/-- The line without its end. -/
def chars : PrintedLine → List Char
  | row r => r.line
  | other line => line.chars

/-- The row in a line. -/
def row? : PrintedLine → Option StatusRow
  | row r => some r.row
  | other _ => none

theorem inLine (line : PrintedLine) : '\n' ∉ line.chars := by
  cases line with
  | row r => exact r.inLine
  | other line => exact line.inLine

theorem ofLine?_chars (line : PrintedLine) : StatusRow.ofLine? line.chars = line.row? := by
  cases line with
  | row r => exact r.ofLine?_line
  | other line => exact line.ofLine?_chars

end PrintedLine

/-- The ends of lines. -/
inductive LineEnd where
  | lineFeed
  /-- A carriage return and a line feed. -/
  | returnFeed

/-- What is printed before the line feed. -/
def LineEnd.return : LineEnd → List Char
  | lineFeed => []
  | returnFeed => ['\r']

/-- A table as it is printed. -/
structure PrintedTable where
  /-- The lines with their ends. -/
  ended : List (PrintedLine × LineEnd)
  /-- A last line without an end. -/
  last : Option PrintedLine

/-- Only the words of a line matter. -/
theorem ofLine?_congr {line line' : List Char} (h : words line = words line') :
    StatusRow.ofLine? line = StatusRow.ofLine? line' := by
  rw [StatusRow.ofLine?, StatusRow.ofLine?, h]

/-- Reading goes line by line, however the first one ends. -/
theorem read_append (line : PrintedLine) (lineEnd : LineEnd) (rest : List Char) :
    StatusRow.read (line.chars ++ (lineEnd.return ++ '\n' :: rest))
      = line.row?.toList ++ StatusRow.read rest := by
  have hreturn : ∀ c ∈ lineEnd.return, isBlank c = true ∧ c ≠ '\n' := by
    cases lineEnd with
    | lineFeed => exact nofun
    | returnFeed => exact List.forall_mem_singleton.mpr ⟨rfl, by decide⟩
  have hinLine : '\n' ∉ line.chars ++ lineEnd.return := by
    intro h
    rcases List.mem_append.mp h with h | h
    · exact line.inLine h
    · exact (hreturn _ h).2 rfl
  -- the carriage return is a blank, so it makes no difference to the words
  have hline : StatusRow.ofLine? (dropReturn (line.chars ++ lineEnd.return)) = line.row? := by
    rw [← line.ofLine?_chars]
    refine ofLine?_congr ?_
    rw [words_dropReturn, words_append_right fun c hc => (hreturn c hc).1]
  rw [StatusRow.read, ← List.append_assoc, lines_append_cons hinLine, List.filterMap_cons, hline,
    StatusRow.read]
  cases line.row? with
  | none => rfl
  | some row => rfl

/-- A line without an end is read like any other. -/
theorem read_chars (line : PrintedLine) : StatusRow.read line.chars = line.row?.toList := by
  rw [StatusRow.read, lines_of_notMem line.inLine, ← line.ofLine?_chars]
  -- an empty line is no line at all
  split
  · next hnil =>
    rw [hnil]
    rfl
  · cases hrow : StatusRow.ofLine? line.chars <;> simp [hrow]

namespace PrintedTable

variable (table : PrintedTable)

/-- The text of a table. -/
def text : List Char :=
  table.ended.flatMap (fun (line, lineEnd) => line.chars ++ (lineEnd.return ++ ['\n'])) ++
    (table.last.map PrintedLine.chars).getD []

/-- All lines. -/
def lines : List PrintedLine :=
  table.ended.map (·.1) ++ table.last.toList

/-- The rows, in the order in which they are printed. -/
def rows : List StatusRow :=
  table.lines.filterMap PrintedLine.row?

/-- A table is read as its rows. -/
theorem read_text : StatusRow.read table.text = table.rows := by
  obtain ⟨ended, last⟩ := table
  -- line by line; what is left is the line without an end
  induction ended with
  | nil =>
    cases last with
    | none => rfl
    | some line =>
      refine (read_chars line).trans ?_
      simp only [rows, lines, List.map_nil, List.nil_append, Option.toList_some,
        List.filterMap_cons, List.filterMap_nil]
      cases line.row? <;> rfl
  | cons first ended ih =>
    obtain ⟨line, lineEnd⟩ := first
    have htext : text ⟨(line, lineEnd) :: ended, last⟩
        = line.chars ++ (lineEnd.return ++ '\n' :: text ⟨ended, last⟩) := by
      simp [text]
    have hrows : rows ⟨(line, lineEnd) :: ended, last⟩
        = line.row?.toList ++ rows ⟨ended, last⟩ := by
      simp only [rows, lines, List.map_cons, List.cons_append, List.filterMap_cons]
      cases line.row? <;> rfl
    rw [htext, read_append, ih, hrows]

/-- The names of the partitions whose rows say that they are up. -/
def upNames : List String :=
  (table.rows.filter (·.runState = "UP")).map (·.name)

/-- The running partitions are those whose rows say that they are up. -/
theorem runningNames_text : runningNames table.text = table.upNames := by
  rw [runningNames, read_text]
  rfl

end PrintedTable

/-- A run state that is read is a word. -/
theorem solid_of_mem_read {text : List Char} {row : StatusRow} (h : row ∈ StatusRow.read text) :
    ∀ c ∈ row.runState.toList, isBlank c = false := by
  obtain ⟨line, -, hline⟩ := List.mem_filterMap.mp h
  unfold StatusRow.ofLine? at hline
  split at hline
  · next num name runState state rest hwords =>
    obtain ⟨n, -, rfl⟩ := Option.map_eq_some_iff.mp hline
    have hword : runState ∈ words line := by simp [hwords]
    simpa using (words_not_blank line runState hword).2
  · exact nomatch hline

/-- In all rows that can be read, the run state `UP` and no other says that a partition is
running. -/
theorem ofRunState_eq_running_iff {text : List Char} {row : StatusRow}
    (h : row ∈ StatusRow.read text) :
    PowerState.ofRunState row.runState = .running ↔ row.runState = "UP" := by
  have hsolid := solid_of_mem_read h
  have hbare : trim row.runState.toList = row.runState.toList :=
    trim_eq_self (fun c hc => hsolid c (List.mem_of_head? hc))
      fun c hc => hsolid c (List.mem_of_getLast? hc)
  simp only [PowerState.ofRunState, hbare, String.toList_inj, PowerState.upToken]
  -- the token is compared as it is, and it is no other token at the same time
  split
  · next hup => exact iff_of_true rfl hup
  · next hup =>
    refine iff_of_false ?_ hup
    split <;> decide

/-- No run state says that a partition is blocked. -/
theorem isRunning_ofRunState_iff (token : String) :
    (PowerState.ofRunState token).isRunning = true ↔ PowerState.ofRunState token = .running := by
  unfold PowerState.ofRunState
  dsimp only
  split
  · decide
  · split <;> decide

end VparFleet.Report
