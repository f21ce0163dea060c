import VparFleet.Fault.Cause
import VparFleet.Node
import VparFleet.Store.Column

/-!
# The node table

One row per node address, in the order of insertion. The table refuses rows that break one of its
constraints: columns that must not be null first, then the checks of the amounts, each in the order
of the columns, and at last the uniqueness of the address.

* `Row.brokenCheck?`: the first check that a row breaks.
* `insert`, `replace`, `find?`, `all`: the statements that the table answers.
-/

namespace VparFleet.Store

/-- A row of the node table. -/
structure NodeRow where
  /-- The management address, the primary key. -/
  address : String
  hostname : Option String
  model : String
  vcpus : Int
  vcpusUsed : Int
  memory : Int
  memoryUsed : Int
  disk : Int
  diskUsed : Int
  deriving DecidableEq, Repr

namespace NodeRow

/-- The name of the table. -/
def table : String := "npar_resource"

/-- The row of a node. -/
def ofNode (node : Node) : Outcome NodeRow := do
  let vcpus ← toColumn "vcpus" node.vcpus
  let vcpusUsed ← toColumn "vcpus_used" node.vcpusUsed
  let memory ← toColumn "memory" node.memory
  let memoryUsed ← toColumn "memory_used" node.memoryUsed
  let disk ← toColumn "disk" node.disk
  let diskUsed ← toColumn "disk_used" node.diskUsed
  return {
    address := node.address
    hostname := node.hostname
    model := node.model
    vcpus, vcpusUsed, memory, memoryUsed, disk, diskUsed }

/-- The node of a row. -/
def toNode (row : NodeRow) : Outcome Node := do
  let vcpus ← ofColumn Text.Decimal.word32 "vcpus" row.vcpus
  let vcpusUsed ← ofColumn Text.Decimal.word32 "vcpus_used" row.vcpusUsed
  let memory ← ofColumn Text.Decimal.word64 "memory" row.memory
  let memoryUsed ← ofColumn Text.Decimal.word64 "memory_used" row.memoryUsed
  let disk ← ofColumn Text.Decimal.word64 "disk" row.disk
  let diskUsed ← ofColumn Text.Decimal.word64 "disk_used" row.diskUsed
  return {
    address := row.address
    hostname := row.hostname
    model := row.model
    vcpus, vcpusUsed, memory, memoryUsed, disk, diskUsed }

/-- The checks of the columns, each with its text in the schema. -/
def checks (row : NodeRow) : List (Bool × String) :=
  [(0 ≤ row.vcpus, "vcpus >= 0"),
    (0 ≤ row.vcpusUsed && row.vcpusUsed ≤ row.vcpus, "vcpus_used >= 0 AND vcpus_used <= vcpus"),
    (0 ≤ row.memory, "memory >= 0"),
    (0 ≤ row.memoryUsed && row.memoryUsed ≤ row.memory,
      "memory_used >= 0 AND memory_used <= memory"),
    (0 ≤ row.disk, "disk >= 0"),
    (0 ≤ row.diskUsed && row.diskUsed ≤ row.disk, "disk_used >= 0 AND disk_used <= disk")]

/-- The first check that a row breaks. -/
def brokenCheck? (row : NodeRow) : Option String :=
  (row.checks.find? (!·.1)).map (·.2)

end NodeRow

/-- The refusal of a row that breaks a check. -/
def checkFailed (check : String) : StoreCause :=
  .refused 275 s!"CHECK constraint failed: {check}"

/-- The refusal of a second row with the same primary key. -/
def notUnique (table column : String) : StoreCause :=
  .refused 1555 s!"UNIQUE constraint failed: {table}.{column}"

/-- The refusal of a row without a value that it must have. -/
def isNull (table column : String) : StoreCause :=
  .refused 1299 s!"NOT NULL constraint failed: {table}.{column}"

/-- The value of a column that must not be null. -/
def notNull {α : Type} (table column : String) : Option α → Except StoreCause α
  | some a => .ok a
  | none => .error (isNull table column)

/-- The rows of the node table, the oldest first. -/
abbrev NodeTable := List NodeRow

namespace NodeTable

/-- Adds a row. -/
def insert (table : NodeTable) (row : NodeRow) : Except StoreCause NodeTable :=
  match row.brokenCheck? with
  | some check => .error (checkFailed check)
  | none =>
    if table.any (·.address = row.address) then .error (notUnique NodeRow.table "address")
    else .ok (table ++ [row])

/-- Puts a row in the place of the one with its address. Nothing means that there is none. -/
def replace? (table : NodeTable) (row : NodeRow) : Except StoreCause (Option NodeTable) :=
  if table.any (·.address = row.address) then
    match row.brokenCheck? with
    | some check => .error (checkFailed check)
    | none => .ok (some (table.map fun old => if old.address = row.address then row else old))
  else .ok none

/-- The row with an address. -/
def find? (table : NodeTable) (address : String) : Option NodeRow :=
  List.find? (·.address = address) table

/-- A row is inserted exactly if it keeps all checks and its address is new, and it comes last. -/
theorem insert_eq_ok_iff {table table' : NodeTable} {row : NodeRow} :
    table.insert row = .ok table' ↔
      row.brokenCheck? = none ∧ (∀ old ∈ table, old.address ≠ row.address)
        ∧ table' = table ++ [row] := by
  unfold insert
  cases row.brokenCheck? with
  | some check => simp
  | none =>
    -- a row that keeps its checks is refused only for an address that is there
    by_cases h : ∃ old ∈ table, old.address = row.address
    · obtain ⟨old, hold, ha⟩ := h
      simp only [List.any_eq_true, decide_eq_true_eq]
      rw [if_pos ⟨old, hold, ha⟩]
      exact ⟨fun e => (nomatch e), fun e => absurd ha (e.2.1 old hold)⟩
    · simp only [List.any_eq_true, decide_eq_true_eq]
      rw [if_neg h, Except.ok.injEq]
      exact ⟨fun e => ⟨trivial, fun old hold ha => h ⟨old, hold, ha⟩, e.symm⟩, fun e => e.2.2.symm⟩

end NodeTable

/-- A row given to the node table as it is, with a value or null in every column. -/
structure RawNodeRow where
  address : Option String
  hostname : Option String
  model : Option String
  vcpus : Option Int
  vcpusUsed : Option Int
  memory : Option Int
  memoryUsed : Option Int
  disk : Option Int
  diskUsed : Option Int
  createdAt : Option String
  updatedAt : Option String

/-- The row, when nothing is missing that must not be null. -/
def RawNodeRow.toRow (raw : RawNodeRow) : Except StoreCause NodeRow := do
  let need {α : Type} (column : String) (value : Option α) := notNull NodeRow.table column value
  let address ← need "address" raw.address
  let model ← need "model" raw.model
  let vcpus ← need "vcpus" raw.vcpus
  let vcpusUsed ← need "vcpus_used" raw.vcpusUsed
  let memory ← need "memory" raw.memory
  let memoryUsed ← need "memory_used" raw.memoryUsed
  let disk ← need "disk" raw.disk
  let diskUsed ← need "disk_used" raw.diskUsed
  let _ ← need "created_at" raw.createdAt
  let _ ← need "updated_at" raw.updatedAt
  return {
    address, hostname := raw.hostname, model, vcpus, vcpusUsed, memory, memoryUsed, disk,
    diskUsed }

end VparFleet.Store
