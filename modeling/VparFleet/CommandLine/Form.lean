/-!
# The form of the command line

The program takes options, the name of a task, and then the options and the operand of that task.

* `programOptions`, `tasks`: what there is.
* `Form.helpText`, `programHelp`: how it is explained.
-/

namespace VparFleet.CommandLine

/-- An option. -/
structure OptionForm where
  /-- The name, without dashes. -/
  name : String
  /-- The name of its value in explanations, if it has a value. -/
  value : Option String
  /-- Which values are allowed. -/
  accepts : String → Bool
  /-- Whether it must be given. -/
  required : Bool
  /-- What it is for. -/
  about : String

/-- An operand. -/
structure OperandForm where
  /-- The name in explanations. -/
  name : String
  /-- What it is. -/
  about : String

/-- The form of a part of the command line. -/
structure Form where
  /-- The name of the task. -/
  name : String
  /-- What the task does. -/
  about : String
  options : List OptionForm
  /-- The operand, which must be given. -/
  operand : Option OperandForm

/-- The name of the program. -/
def programName : String := "vpar-control"

/-- What the program prints about its version. -/
def versionText : String := s!"{programName} 0.1.0\n"

/-- What the program is. -/
def programAbout : String := "HP-UX vPar control plane"

/-- Whether a value is not empty. -/
def isGiven (value : String) : Bool := !value.isEmpty

/-- The names of the log formats. -/
def logFormatNames : List String := ["text", "json"]

/-- The options of the program itself. -/
def programOptions : List OptionForm :=
  [{ name := "config", value := some "CONFIG", accepts := isGiven, required := true
     about := "Path to the TOML configuration file" },
    { name := "log-format", value := some "LOG_FORMAT", accepts := logFormatNames.contains
      required := false
      about := "Log output format (text or json) [default: text] [possible values: text, json]" }]

/-- The operand of a task on one partition. -/
def partitionOperand : OperandForm := ⟨"NAME", "Partition name"⟩

/-- The tasks. -/
def tasks : List Form :=
  [⟨"monitor", "Refresh fleet capacity periodically until interrupted", [], none⟩,
    ⟨"stats", "Print fleet capacity totals",
      [{ name := "refresh", value := none, accepts := fun _ => true, required := false
         about := "Query every nPar instead of using the cached totals" }], none⟩,
    ⟨"list", "List running partitions", [], none⟩,
    ⟨"inspect", "Show the live status of one partition", [], some partitionOperand⟩,
    ⟨"spawn", "Create and network-boot a partition described by a JSON file",
      [{ name := "request", value := some "REQUEST", accepts := isGiven, required := true
         about := "Path to a JSON-encoded spawn request" }], none⟩,
    ⟨"destroy", "Power off and remove a partition", [], some partitionOperand⟩]

/-- The name of the task that explains. -/
def helpName : String := "help"

/-- What the task that explains does. -/
def helpAbout : String := "Print this message or the help of the given subcommand(s)"

/-! ## Explanations -/

/-- The width of explanations. -/
def helpWidth : Nat := 100

/-- Breaks words into lines of a width, from a line that has been begun. -/
def fill (width : Nat) (line : String) : List String → List String
  | [] => [line]
  | word :: words =>
    if line.length + 1 + word.length ≤ width then fill width (line ++ " " ++ word) words
    else line :: fill width word words

/-- A text in lines of a width. -/
def wrap (width : Nat) (text : String) : List String :=
  match (text.toList.splitOn ' ').map String.ofList with
  | [] => []
  | word :: words => fill width word words

/-- Blanks. -/
def blanks (n : Nat) : String :=
  String.ofList (List.replicate n ' ')

/-- An entry of a table with two columns: its lines. -/
def entry (column : Nat) (left about : String) : String :=
  let text := String.intercalate ("\n" ++ blanks column) (wrap (helpWidth - column) about)
  left ++ blanks (column - left.length) ++ text ++ "\n"

/-- A table with a heading. -/
def table (heading : String) (rows : List (String × String)) : String :=
  let column := (rows.map (·.1.length)).foldl max 0 + 2
  "\n" ++ heading ++ ":\n" ++ String.join (rows.map fun (left, about) => entry column left about)

/-- An option as explanations write it. -/
def OptionForm.shown (option : OptionForm) : String :=
  match option.value with
  | some value => s!"--{option.name} <{value}>"
  | none => s!"--{option.name}"

/-- The rows of options. -/
def optionRows (options : List OptionForm) : List (String × String) :=
  options.map (fun option => (blanks 6 ++ option.shown, option.about))
    ++ [("  -h, --help", "Print help")]

/-- The options that must be given, and a hint at the others. -/
def optionUsage (options : List OptionForm) : List String :=
  (if options.all (·.required) then [] else ["[OPTIONS]"])
    ++ (options.filter (·.required)).map OptionForm.shown

/-- The required options of the program, which are in front of every task. -/
def programUsage : List String :=
  programName :: (programOptions.filter (·.required)).map OptionForm.shown

/-- A way to use the program. -/
def usageLine (words : List String) : String :=
  "\nUsage: " ++ String.intercalate " " words ++ "\n"

/-- The explanation of a task. -/
def Form.helpText (form : Form) : String :=
  let operands := form.operand.toList.map fun operand => (s!"<{operand.name}>", operand.about)
  form.about ++ "\n"
    ++ usageLine (programUsage ++ [form.name] ++ optionUsage form.options ++ operands.map (·.1))
    ++ (if operands.isEmpty then ""
      else table "Arguments" (operands.map fun (name, about) => (blanks 2 ++ name, about)))
    ++ table "Options" (optionRows form.options)

/-- The explanation of the task that explains. -/
def helpHelp : String :=
  helpAbout ++ "\n" ++ usageLine (programUsage ++ [helpName, "[COMMAND]..."])
    ++ table "Arguments" [("  [COMMAND]...", "Print help for the subcommand(s)")]

/-- The explanation of the program. -/
def programHelp : String :=
  let rows := tasks.map (fun form => (form.name, form.about)) ++ [(helpName, helpAbout)]
  programAbout ++ "\n"
    ++ usageLine ([programName] ++ optionUsage programOptions ++ ["<COMMAND>"])
    ++ table "Commands" (rows.map fun (name, about) => (blanks 2 ++ name, about))
    ++ table "Options" (optionRows programOptions ++ [("  -V, --version", "Print version")])

end VparFleet.CommandLine
