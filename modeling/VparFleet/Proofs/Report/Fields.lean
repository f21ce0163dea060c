import VparFleet.Proofs.Outcome
import VparFleet.Proofs.Report.PrintedDetail

/-!
# Fields of printed lines

How a line ends makes no difference to what is read from it, so a report is read from its lines one
by one. A report is refused if one of its lines carries one label alone and its field is no number.

* `carries_dropReturn`, `labelValue?_dropReturn`: lines without their carriage return.
* `PrintedLines.foldlM_lines_of_perm`: lines as they are printed, in any order, and what is read
  from them.
* `LabelledValue.Unreadable`: the lines whose field is missing, no number, or out of range.
-/

namespace VparFleet.Report

open Text

/-! ## Carriage returns -/

/-- What is dropped from a line is one carriage return at its end. -/
theorem eq_append_return {line : List Char} (h : dropReturn line ≠ line) :
    line = dropReturn line ++ ['\r'] := by
  unfold dropReturn at h ⊢
  split
  · next hlast => exact (List.dropLast_append_getLast? '\r' hlast).symm
  · next hlast => exact absurd (if_neg hlast) h

/-- Labels are found with or without the carriage return. -/
theorem carries_dropReturn {label : String} (hne : label ≠ "") (hlabel : '\r' ∉ label.toList)
    (line : List Char) : carries label (dropReturn line) = carries label line := by
  by_cases hsame : dropReturn line = line
  · rw [hsame]
  · have hlabels : label.toList ≠ [] := by simpa using hne
    -- a label holds no carriage return, so none reaches across the one at the end
    rw [eq_append_return hsame, Bool.eq_iff_iff, carries, carries, occurs_iff, occurs_iff,
      infix_append_cons_iff hlabels hlabel, ← eq_append_return hsame]
    simp [hne]

/-- So is the value after a label, for it is read between blanks. -/
theorem labelValue?_append_return (line : List Char) :
    labelValue? (line ++ ['\r']) = labelValue? line := by
  have hreturn : ∀ c ∈ ['\r'], isBlank c = true := List.forall_mem_singleton.mpr rfl
  -- the value ends at the second colon, or with the line
  by_cases hfirst : ':' ∈ line
  · obtain ⟨before, after, rfl, hbefore⟩ := List.eq_append_cons_of_mem hfirst
    rw [labelValue?, labelValue?, List.append_assoc, List.cons_append,
      List.splitOn_append_cons_self_of_not_mem hbefore,
      List.splitOn_append_cons_self_of_not_mem hbefore]
    by_cases hsecond : ':' ∈ after
    · obtain ⟨value, rest, rfl, hvalue⟩ := List.eq_append_cons_of_mem hsecond
      rw [List.append_assoc, List.cons_append, List.splitOn_append_cons_self_of_not_mem hvalue,
        List.splitOn_append_cons_self_of_not_mem hvalue]
      rfl
    · have hlast : ':' ∉ after ++ ['\r'] := by simpa using hsecond
      rw [List.splitOn_eq_singleton hsecond, List.splitOn_eq_singleton hlast]
      -- only here the return is a part of the value, and a blank at its end
      exact congrArg some (trim_append_right hreturn)
  · have hlast : ':' ∉ line ++ ['\r'] := by simpa using hfirst
    rw [labelValue?, labelValue?, List.splitOn_eq_singleton hfirst, List.splitOn_eq_singleton hlast]
    rfl

/-- A carriage return makes no difference to the value of a line. -/
theorem labelValue?_dropReturn (line : List Char) :
    labelValue? (dropReturn line) = labelValue? line := by
  by_cases hsame : dropReturn line = line
  · rw [hsame]
  · conv_rhs => rw [eq_append_return hsame, labelValue?_append_return]

/-! ## Printed lines -/

/-- Lines of some kind as they are printed one after the other. -/
structure PrintedLines (α : Type) where
  /-- The lines with their ends. -/
  ended : List (α × LineEnd)
  /-- A last line without an end. -/
  last : Option α

namespace PrintedLines

variable {α β : Type} (printed : PrintedLines α) (chars : α → List Char)

/-- The text, if each line is made of certain characters. -/
def text : List Char :=
  printed.ended.flatMap (fun (line, lineEnd) => chars line ++ (lineEnd.return ++ ['\n'])) ++
    (printed.last.map chars).getD []

/-- All lines. -/
def all : List α :=
  printed.ended.map (·.1) ++ printed.last.toList

variable {chars}

/-- What is read from each line is read from the text, if nothing depends on carriage returns and
nothing is read from an empty line. -/
theorem foldlM_lines {f : β → List Char → Except Flaw β} {g : β → α → β}
    (hinLine : ∀ line, '\n' ∉ chars line) (hread : ∀ b line, f b (chars line) = .ok (g b line))
    (hreturn : ∀ b line, f b (dropReturn line) = f b line) (hempty : ∀ b, f b [] = .ok b) (b : β) :
    (lines (printed.text chars)).foldlM f b = .ok (printed.all.foldl g b) := by
  obtain ⟨ended, last⟩ := printed
  -- line by line; what is left is the line without an end
  induction ended generalizing b with
  | nil =>
    cases last with
    | none => rfl
    | some line =>
      have htext : text (⟨[], some line⟩ : PrintedLines α) chars = chars line := rfl
      rw [htext, lines_of_notMem (hinLine line)]
      -- an empty line is none, and nothing would have been read from it
      split
      · next hnil =>
        have hsame : f b [] = .ok (g b line) := hnil ▸ hread b line
        exact (hempty b).symm.trans hsame
      · rw [List.foldlM_cons, hread]
        rfl
  | cons first ended ih =>
    obtain ⟨line, lineEnd⟩ := first
    have htext : text (⟨(line, lineEnd) :: ended, last⟩ : PrintedLines α) chars
        = (chars line ++ lineEnd.return) ++ '\n' :: text ⟨ended, last⟩ chars := by
      simp [text]
    have hline : '\n' ∉ chars line ++ lineEnd.return := by
      cases lineEnd <;> simp [LineEnd.return, hinLine]
    have hfirst : f b (dropReturn (chars line ++ lineEnd.return)) = .ok (g b line) := by
      rw [← hread]
      cases lineEnd with
      | lineFeed => rw [LineEnd.return, List.append_nil, hreturn]
      | returnFeed => simp [LineEnd.return, dropReturn]
    rw [htext, lines_append_cons hline, List.foldlM_cons, hfirst]
    exact ih (g b line)

/-- Where the lines that do something do so independently of each other, their order does not
matter. -/
theorem foldlM_lines_of_perm {f : β → List Char → Except Flaw β} {g : β → α → β}
    {counts : α → Bool} {counted : List α} (hinLine : ∀ line, '\n' ∉ chars line)
    (hread : ∀ b line, f b (chars line) = .ok (g b line))
    (hreturn : ∀ b line, f b (dropReturn line) = f b line) (hempty : ∀ b, f b [] = .ok b)
    (hother : ∀ b line, counts line = false → g b line = b)
    (hcommute : ∀ line ∈ counted, ∀ other ∈ counted, ∀ b,
      g (g b line) other = g (g b other) line)
    (h : (printed.all.filter counts).Perm counted) (b : β) :
    (lines (printed.text chars)).foldlM f b = .ok (counted.foldl g b) := by
  -- the lines that do nothing may as well be left out
  have hcounted : printed.all.foldl g b = (printed.all.filter counts).foldl g b := by
    rw [List.foldl_filter]
    congr 1
    funext b line
    cases hcounts : counts line with
    | true => rfl
    | false => exact hother b line hcounts
  rw [printed.foldlM_lines hinLine hread hreturn hempty, hcounted, ← h.symm.foldl_eq' hcommute]

end PrintedLines

/-! ## Fields that cannot be read -/

/-- A value of a report: the label of its lines, the field that it is read from, and its bound. -/
structure LabelledValue where
  label : String
  field? : List Char → Option (List Char)
  bound : Nat

namespace LabelledValue

variable (value : LabelledValue)

/-- A line whose field is missing, no number, or out of range. -/
def Unreadable (line : List Char) : Prop :=
  ∀ field, value.field? line = some field → ∀ n < value.bound, ¬Decimal.Numeral n field

variable {value}

/-- A field is unreadable exactly when no number is read from it. -/
theorem unreadable_iff {line : List Char} :
    value.Unreadable line ↔ (value.field? line).bind (Decimal.read? value.bound) = none := by
  rw [Option.bind_eq_none_iff]
  refine forall₂_congr fun field _ => ?_
  rw [Option.eq_none_iff_forall_ne_some]
  refine forall_congr' fun n => ?_
  rw [ne_eq, Decimal.read?_eq_some_iff, not_and']

/-- A number is not read from nothing. -/
theorem number_nil (bound : Nat) (label : String) (n : Nat) : number bound label [] ≠ .ok n := by
  intro h
  rw [Client.number_eq_ok_iff] at h
  exact nomatch h

/-- A number that has been read was in the field, if there are no blanks around it. -/
theorem not_unreadable_of_number {n : Nat} {label : String} {line : List Char}
    (hbare : ∀ field, value.field? line = some field → trim field = field)
    (h : number value.bound label ((value.field? line).getD []) = .ok n) :
    ¬value.Unreadable line := by
  rw [unreadable_iff]
  -- a line without the field gives an empty one, and that is no number
  cases hfield : value.field? line with
  | none =>
    rw [hfield] at h
    exact absurd h (number_nil value.bound label n)
  | some field =>
    rw [hfield, Option.getD_some, Client.number_eq_ok_iff, hbare field hfield] at h
    rw [Option.bind_some, h]
    exact Option.some_ne_none n

end LabelledValue

/-- A line carries the label of one of some values, and no other label of them. -/
structure OnlyLabel (values : List LabelledValue) (value : LabelledValue) (line : List Char) :
    Prop where
  mem : value ∈ values
  carried : carries value.label line = true
  only : ∀ other ∈ values, carries other.label line = true → other.label = value.label

theorem OnlyLabel.carries_eq_false {values : List LabelledValue} {value other : LabelledValue}
    {line : List Char} (h : OnlyLabel values value line) (hmem : other ∈ values)
    (hne : other.label ≠ value.label) : carries other.label line = false :=
  Bool.eq_false_iff.mpr fun hcarried => hne (h.only other hmem hcarried)

/-- A line without any label of some values. -/
structure UnlabelledLine (values : List LabelledValue) where
  chars : List Char
  inLine : '\n' ∉ chars
  silent : ∀ value ∈ values, carries value.label chars = false

/-- A report that is not read fails, whatever is wrong with it. -/
theorem exists_orFault_eq {α : Type} {outcome : Except Flaw α} (h : ∀ a, outcome ≠ .ok a) :
    ∃ detail, orFault outcome = .error ⟨.remoteCommand, detail⟩ := by
  cases outcome with
  | ok a => exact absurd rfl (h a)
  | error flaw => exact ⟨flaw.detail, rfl⟩

end VparFleet.Report
