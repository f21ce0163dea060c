import VparFleet.Fault
import VparFleet.Text.Blank
import VparFleet.Text.Decimal
import VparFleet.Text.Find

/-!
# Fields of a report

Reports are lines of text with labels. This module reads numbers out of labelled lines and says
what can be wrong with one.
-/

namespace VparFleet.Report

/-- What can be wrong with a report. -/
inductive Flaw where
  /-- No line of the volume group report carries the label. -/
  | noLine (label : String)
  /-- The line of the label is too short. -/
  | noColumn (label : String)
  /-- The value of the label is not a number that fits. -/
  | notNumeric (label value : String)
  deriving DecidableEq, Repr

/-- The wording of a flaw. -/
def Flaw.detail : Flaw → String
  | noLine label => s!"volume group report has no '{label}'"
  | noColumn label => s!"'{label}' line has no value column"
  | notNumeric label value => s!"'{label}' has non-numeric value '{value}'"

/-- The fault that a flaw leads to. -/
def Flaw.fault (flaw : Flaw) : Fault :=
  ⟨.remoteCommand, flaw.detail⟩

/-- Whether a line carries a label. -/
def carries (label : String) (line : List Char) : Bool :=
  Text.occurs label.toList line

/-- Reads the value of a label as a number below `bound`; blanks around it do not matter. -/
def number (bound : Nat) (label : String) (value : List Char) : Except Flaw Nat :=
  let bare := Text.trim value
  match Text.Decimal.read? bound bare with
  | some n => .ok n
  | none => .error (.notNumeric label (String.ofList bare))

/-- The text between the first and the second colon of a line, without blanks around it. -/
def labelValue? (line : List Char) : Option (List Char) :=
  ((line.splitOn ':')[1]?).map Text.trim

/-- The same, empty when the line has no colon. -/
def labelValue (line : List Char) : List Char :=
  (labelValue? line).getD []

/-- Reads the word at a position of a line as a 64-bit number. -/
def column (index : Nat) (label : String) (line : List Char) : Except Flaw Nat :=
  match (Text.words line)[index]? with
  | none => .error (.noColumn label)
  | some word => number Text.Decimal.word64 label word

/-- Turns a flaw into the fault that it leads to. -/
def orFault {α : Type} : Except Flaw α → Outcome α
  | .ok a => .ok a
  | .error flaw => .error flaw.fault

end VparFleet.Report
