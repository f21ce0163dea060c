import VparFleet.Toml.Document

/-!
# Sections of the configuration

A section is a set of named settings, each a text or a number of bounded size. It may be written as
a table, or as an array that gives the settings in their order.

* `Section.read`: the first entry of the wrong type refuses the section; unknown entries of a table
  and surplus items of an array do not matter.
* `Section.text`, `Section.word` and their companions: a setting, or its preset.
-/

namespace VparFleet.Settings

/-- What can be wrong with a configuration. -/
inductive Flaw where
  /-- The document cannot be read, or a value has the wrong type or size. -/
  | unreadable
  /-- A setting without a preset is missing. -/
  | missing (key : String)
  /-- The login user is blank. -/
  | noUsername
  /-- One of the bounds on remote work is zero. -/
  | noTimeout
  /-- The bound on the network boot is below that on a single step. -/
  | shortBoot
  /-- The prompt pattern is no pattern. -/
  | badPrompt
  /-- The address of the provisioning server is blank. -/
  | noServer
  /-- Both networks have one name. -/
  | oneNetwork
  /-- The refresh interval is zero. -/
  | noInterval
  /-- The configuration file cannot be read. -/
  | unreadableFile (reason : String)
  /-- Neither keychain nor environment has a password for the user. -/
  | noPassword (user : String)
  deriving DecidableEq, Repr

/-- A value of a setting. -/
inductive Scalar where
  | text (s : String)
  /-- A number. -/
  | word (n : Nat)
  deriving DecidableEq, Repr

/-- The name of a setting and its type: a number below a bound, or a text. -/
structure Key where
  name : String
  /-- The bound of a number; none for a text. -/
  bound : Option Nat := none

/-- The settings that a section gives. -/
structure Section where
  /-- The settings by name. -/
  given : List (String × Scalar)
  /-- Whether they were given by position. -/
  byPosition : Bool
  deriving DecidableEq, Repr

namespace Section

/-- A section that gives nothing. -/
def absent : Section := ⟨[], false⟩

/-- Reads the value of a setting. -/
def readValue (key : Key) : Toml.Value → Except Flaw Scalar
  | .text s => if key.bound.isNone then .ok (.text s) else .error .unreadable
  | .int n =>
    match key.bound with
    | none => .error .unreadable
    | some bound => if 0 ≤ n && n < bound then .ok (.word n.toNat) else .error .unreadable
  | _ => .error .unreadable

/-- Reads one entry of a table; an unknown one gives nothing. -/
def readEntry (keys : List Key) (entry : String × Toml.Value) :
    Except Flaw (Option (String × Scalar)) :=
  match keys.find? (·.name = entry.1) with
  | none => .ok none
  | some key => do return some (key.name, ← readValue key entry.2)

/-- Reads the entries of a table, in their order. -/
def ofEntries (keys : List Key) (entries : Toml.Entries) : Except Flaw Section := do
  let given ← entries.mapM (readEntry keys)
  return ⟨given.filterMap id, false⟩

/-- Reads a section. -/
def read (keys : List Key) : Toml.Value → Except Flaw Section
  | .table _ entries => ofEntries keys entries
  | .inline entries => ofEntries keys entries
  | .list items => do
    let given ← (keys.zip items).mapM fun (key, item) => do
      return (key.name, ← readValue key item)
    return ⟨given, true⟩
  | .tables rows => do
    let given ← (keys.zip rows).mapM fun (key, row) => do
      return (key.name, ← readValue key (.table .header row))
    return ⟨given, true⟩
  | _ => .error .unreadable

/-- A setting, if it is given. -/
def find? (table : Section) (name : String) : Option Scalar :=
  table.given.lookup name

/-- A text, if it is given. -/
def text? (table : Section) (name : String) : Option String :=
  match table.find? name with
  | some (.text s) => some s
  | _ => none

/-- A text that has a preset. -/
def text (table : Section) (name preset : String) : String :=
  (table.text? name).getD preset

/-- A number that has a preset. -/
def word (table : Section) (name : String) (preset : Nat) : Nat :=
  match table.find? name with
  | some (.word n) => n
  | _ => preset

/-- A text without a preset. -/
def need (table : Section) (name : String) : Except Flaw String :=
  match table.text? name with
  | some s => .ok s
  | none => .error (if table.byPosition then .unreadable else .missing name)

end Section

end VparFleet.Settings
