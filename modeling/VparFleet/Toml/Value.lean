/-!
# Configuration documents

The values that a TOML document holds. Of numbers only integers matter here: a float or a time is
kept as such, without its value, because no setting takes one.

* `Table.insertAt`, `Table.openTable`, `Table.openArray`: how keys and headers extend a document,
  and when they clash.
-/

namespace VparFleet.Toml

/-- How a table came into being, which decides who may still add to it. -/
inductive Origin where
  /-- By a header of its own. -/
  | header
  /-- As the parent of a table that has a header. -/
  | parent
  /-- By a dotted key. -/
  | dotted
  deriving DecidableEq, Repr

/-- A value of a document. -/
inductive Value where
  | text (s : String)
  | int (n : Int)
  | bool (b : Bool)
  | float
  /-- A date, a time of day or both. -/
  | time
  /-- An array written in brackets. -/
  | list (items : List Value)
  /-- A table written in braces. -/
  | inline (entries : List (String × Value))
  /-- A table of the document. -/
  | table (origin : Origin) (entries : List (String × Value))
  /-- A table of the document that is repeated, each time under a header in double brackets. -/
  | tables (rows : List (List (String × Value)))

/-- The entries of a table, in the order in which they were added. -/
abbrev Entries := List (String × Value)

namespace Entries

/-- The value of a key. -/
def find? (entries : Entries) (key : String) : Option Value :=
  (List.find? (·.1 == key) entries).map (·.2)

/-- Gives a key a value, in its place if it is there already and else at the end. -/
def put (entries : Entries) (key : String) (value : Value) : Entries :=
  if entries.any (·.1 == key) then
    entries.map fun entry => if entry.1 == key then (key, value) else entry
  else entries ++ [(key, value)]

/-- Takes a key out. -/
def erase (entries : Entries) (key : String) : Entries :=
  entries.filter (·.1 != key)

/-- Changes the table at a path of keys, and adds the tables that are missing on the way. `dotted`
tells a dotted key from the path of a header: a dotted key may not go through a table that has a
header. A path goes through the last row of repeated tables. The change is told how the table came
into being. Nothing means a clash. -/
def modifyAt {α : Type} (dotted : Bool) (origin : Origin) (entries : Entries) :
    List String → (Origin → Entries → Option (α × Entries)) → Option (α × Entries)
  | [], change => change origin entries
  | key :: path, change =>
    match entries.find? key with
    | none => do
      let made := if dotted then Origin.dotted else Origin.parent
      let (a, inner) ← modifyAt dotted made [] path change
      return (a, entries.put key (.table made inner))
    | some (.table found inner) => do
      guard (!dotted || found != .header)
      let (a, inner) ← modifyAt dotted found inner path change
      return (a, entries.put key (.table found inner))
    | some (.tables rows) => do
      let row ← rows.getLast?
      let (a, row) ← modifyAt dotted .header row path change
      return (a, entries.put key (.tables (rows.dropLast ++ [row])))
    | some _ => none

/-- Adds the value of a key that may be dotted. Beside a dotted key only tables that dotted keys
made can be extended, and no key may be given twice. -/
def insertAt (entries : Entries) (path : List String) (key : String) (value : Value) :
    Option Entries :=
  (·.2) <$> entries.modifyAt true .header path fun origin table => do
    guard (path.isEmpty == (origin != .dotted))
    guard (table.find? key).isNone
    return ((), table ++ [(key, value)])

/-- What a header finds at its place: the entries to go on with, and the document without them. A
table that only exists as the parent of others may still get its header. -/
def openTable (entries : Entries) (path : List String) (key : String) :
    Option (Entries × Entries) :=
  entries.modifyAt false .header path fun _ parent =>
    match parent.find? key with
    | none => some ([], parent)
    | some (.table .parent found) => some (found, parent.erase key)
    | some _ => none

/-- Puts a finished table at its place. -/
def closeTable (entries : Entries) (path : List String) (key : String) (table : Entries) :
    Option Entries :=
  (·.2) <$> entries.modifyAt false .header path fun _ parent =>
    match parent.find? key with
    | none => some ((), parent ++ [(key, .table .header table)])
    | some (.table .parent _) => some ((), parent.put key (.table .header table))
    | some _ => none

/-- Checks that a header in double brackets is possible at its place, and makes room for it. -/
def openArray (entries : Entries) (path : List String) (key : String) : Option Entries :=
  (·.2) <$> entries.modifyAt false .header path fun _ parent =>
    match parent.find? key with
    | none => some ((), parent ++ [(key, .tables [])])
    | some (.tables _) => some ((), parent)
    | some _ => none

/-- Adds a finished row to a repeated table. -/
def closeArray (entries : Entries) (path : List String) (key : String) (row : Entries) :
    Option Entries :=
  (·.2) <$> entries.modifyAt false .header path fun _ parent =>
    match parent.find? key with
    | some (.tables rows) => some ((), parent.put key (.tables (rows ++ [row])))
    | _ => none

end Entries

end VparFleet.Toml
