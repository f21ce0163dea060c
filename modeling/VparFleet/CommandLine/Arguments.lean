import VparFleet.CommandLine.Form

/-!
# Reading the command line

The words are read from left to right. A request for an explanation ends the reading, and so does
the first word that is out of place. The value of an option is checked when the next option, or the
end, shows that the option is complete.

* `Part.scan`: reads one part of the command line.
* `read`: what all words ask for.
-/

namespace VparFleet.CommandLine

/-- How log lines are written. -/
inductive LogFormat where
  /-- As plain text. -/
  | text
  /-- As JSON. -/
  | json
  deriving DecidableEq, Repr

/-- What the program is to do. -/
inductive Task where
  /-- Refresh the fleet until interrupted. -/
  | monitor
  /-- Print totals, of a new refresh or not. -/
  | stats (fresh : Bool)
  /-- List running partitions. -/
  | list
  /-- Show a partition. -/
  | inspect (name : String)
  /-- Create the partition that a file describes. -/
  | spawn (request : String)
  /-- Remove a partition. -/
  | destroy (name : String)
  deriving DecidableEq, Repr

/-- A complete command line. -/
structure Invocation where
  /-- The path of the configuration. -/
  config : String
  /-- How log lines are written. -/
  logFormat : LogFormat
  /-- What to do. -/
  task : Task
  deriving DecidableEq, Repr

/-- What the words of a command line ask for. -/
inductive Asked where
  /-- A task. -/
  | run (invocation : Invocation)
  /-- A text to be printed. -/
  | print (text : String)
  /-- Nothing that makes sense. -/
  | misuse
  deriving DecidableEq, Repr

/-! ## One part of the command line -/

/-- What has been read. -/
structure Progress where
  /-- The options that are complete, with their values. -/
  given : List (String × String)
  /-- The option that waits for its value or for its end. -/
  pending : Option (OptionForm × Option String)
  operands : List String
  /-- Whether only operands can follow. -/
  trailing : Bool

namespace Progress

/-- Nothing has been read. -/
def none : Progress := ⟨[], .none, [], false⟩

/-- Whether the next word is the value of an option. -/
def awaitsValue (progress : Progress) : Bool :=
  match progress.pending with
  | some (_, .none) => true
  | _ => false

/-- Adds an option, which must have an allowed value and must not come twice. -/
def add (progress : Progress) (option : OptionForm) (value : String) : Option Progress :=
  if option.accepts value && (progress.given.lookup option.name).isNone then
    some { progress with given := progress.given ++ [(option.name, value)] }
  else .none

/-- Completes the option that is pending. -/
def settle (progress : Progress) : Option Progress :=
  match progress.pending with
  | .none => some progress
  | some (_, .none) => .none
  | some (option, some value) => { progress with pending := .none }.add option value

end Progress

/-- Where the reading of one part of the command line ended. -/
inductive Stop where
  /-- At the end. -/
  | finished (progress : Progress)
  /-- At the name of a task. -/
  | task (form : Form) (progress : Progress) (rest : List String)
  /-- At the task that explains. -/
  | helpTask (rest : List String)
  /-- At a request for an explanation. -/
  | help
  /-- At a request for the version. -/
  | version
  /-- At a word that is out of place. -/
  | misuse

/-- A part of the command line: its options, its operands, and the tasks that can follow. -/
structure Part where
  options : List OptionForm
  operands : Nat
  tasks : List Form

namespace Part

/-- Whether a part is that of the program itself. -/
def isProgram (part : Part) : Bool := !part.tasks.isEmpty

/-- A word that starts with two dashes: the name and the value behind an equals sign. -/
def longName? (word : String) : Option (String × Option String) :=
  match word.toList with
  | '-' :: '-' :: name =>
    if name.contains '=' then
      some (String.ofList (name.takeWhile (· ≠ '=')),
        some (String.ofList ((name.dropWhile (· ≠ '=')).drop 1)))
    else some (String.ofList name, none)
  | _ => none

/-- The first letter of a word that starts with one dash. -/
def shortName? (word : String) : Option Char :=
  match word.toList with
  | '-' :: c :: _ => if c = '-' then none else some c
  | _ => none

/-- What an option by name leads to: the end of the reading, or the progress after it. -/
def takeLong (part : Part) (progress : Progress) (name : String) (value : Option String) :
    Stop ⊕ Progress :=
  match progress.settle with
  | none => .inl .misuse
  | some progress =>
    if name = "help" && value.isNone then .inl .help
    else if name = "version" && value.isNone && part.isProgram then .inl .version
    else
      match part.options.find? (·.name = name) with
      | none => .inl .misuse
      | some option =>
        let added (value : String) : Stop ⊕ Progress :=
          match progress.add option value with
          | some progress => .inr progress
          | none => .inl .misuse
        match option.value, value with
        | some _, none => .inr { progress with pending := some (option, none) }
        | some _, some value => added value
        | none, none => added ""
        | none, some _ => .inl .misuse

/-- What an option by letter leads to. -/
def takeShort (part : Part) (progress : Progress) (letter : Char) : Stop :=
  match progress.settle with
  | none => .misuse
  | some _ =>
    if letter = 'h' then .help
    else if letter = 'V' && part.isProgram then .version
    else .misuse

/-- Takes a word that is neither an option nor a task: a value or an operand. -/
def takePlain (part : Part) (progress : Progress) (word : String) : Stop ⊕ Progress :=
  match progress.pending with
  | some (option, none) =>
    if progress.trailing then .inl .misuse
    else .inr { progress with pending := some (option, some word) }
  | _ =>
    if progress.operands.length < part.operands then
      .inr { progress with operands := progress.operands ++ [word] }
    else .inl .misuse

/-- Takes one word. -/
def takeWord (part : Part) (progress : Progress) (word : String) (rest : List String) :
    Stop ⊕ Progress :=
  let plain := part.takePlain progress word
  -- Behind a double dash every word is an operand, whatever it looks like.
  if progress.trailing then plain
  else
    -- A word in the place of a value is never the name of a task.
    match if progress.awaitsValue then none else part.tasks.find? (·.name = word) with
    | some form => .inl (.task form progress rest)
    | none =>
      if part.isProgram && !progress.awaitsValue && word = helpName then .inl (.helpTask rest)
      else if word = "--" then .inr { progress with trailing := true }
      else
        match longName? word, shortName? word with
        | some (name, value), _ => part.takeLong progress name value
        | none, some letter => .inl (part.takeShort progress letter)
        | none, none => plain

/-- Reads words. -/
def scan (part : Part) (progress : Progress) : List String → Stop
  | [] =>
    match progress.settle with
    | some progress => .finished progress
    | none => .misuse
  | word :: rest =>
    match part.takeWord progress word rest with
    | .inl stop => stop
    | .inr progress => part.scan progress rest

/-- The part of the program itself. -/
def program : Part := ⟨programOptions, 0, CommandLine.tasks⟩

/-- The part of a task. -/
def ofTask (form : Form) : Part := ⟨form.options, form.operand.toList.length, []⟩

end Part

/-! ## The whole command line -/

/-- The task that has been read, if nothing is missing. -/
def taskOf (form : Form) (progress : Progress) : Option Task :=
  match form.name, progress.operands, progress.given.lookup "request" with
  | "monitor", [], _ => some .monitor
  | "stats", [], _ => some (.stats (progress.given.lookup "refresh").isSome)
  | "list", [], _ => some .list
  | "inspect", [name], _ => some (.inspect name)
  | "spawn", [], some request => some (.spawn request)
  | "destroy", [name], _ => some (.destroy name)
  | _, _, _ => none

/-- The log format with a name. -/
def logFormatOf (name : Option String) : LogFormat :=
  if name = some "json" then .json else .text

/-- The command line with a task, if nothing is missing. -/
def invocationOf (progress : Progress) (task : Task) : Option Invocation := do
  let progress ← progress.settle
  let config ← progress.given.lookup "config"
  return ⟨config, logFormatOf (progress.given.lookup "log-format"), task⟩

/-- What the task that explains prints. -/
def explain : List String → Asked
  | [] => .print programHelp
  | [name] =>
    if name = helpName then .print helpHelp
    else
      match tasks.find? (·.name = name) with
      | some form => .print form.helpText
      | none => .misuse
  | _ => .misuse

/-- What the words of a command line ask for. -/
def read (words : List String) : Asked :=
  match Part.program.scan .none words with
  | .help => .print programHelp
  | .version => .print versionText
  | .helpTask rest => explain rest
  | .task form progress rest =>
    match (Part.ofTask form).scan .none rest with
    | .help => .print form.helpText
    | .finished taskProgress =>
      match (taskOf form taskProgress).bind (invocationOf progress) with
      | some invocation => .run invocation
      | none => .misuse
    | _ => .misuse
  | _ => .misuse

end VparFleet.CommandLine
