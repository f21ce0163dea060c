import VparFleet.Instant
import VparFleet.Json.Scan

/-!
# Typed JSON

A schema says which form a JSON value must have, and which values of which type it stands for.

* `Schema.Value`: the values of a schema.
* `Schema.decode`: reads a text, up to the first problem.
* `Schema.encode`: the JSON value of a value, as a tree.
-/

namespace VparFleet.Json

mutual

/-- The form of a JSON value. -/
inductive Schema : Type 1 where
  | text
  /-- A natural number below a bound. -/
  | number (bound : Nat)
  /-- An instant, written as a text. -/
  | instant
  /-- One of several values, each written as its name. -/
  | choice (α : Type) (all : List α) (name : α → String)
  /-- A value that may be missing or null. -/
  | optional (inner : Schema)
  /-- A list of values of one form. -/
  | list (item : Schema)
  /-- An object with named members. -/
  | record (fields : Fields)

/-- The members of an object, in their order. -/
inductive Fields : Type 1 where
  /-- No member. -/
  | nil
  /-- A member in front of others. -/
  | cons (name : String) (schema : Schema) (rest : Fields)

end

mutual

/-- The values of a schema. -/
def Schema.Value : Schema → Type
  | .text => String
  | .number _ => Nat
  | .instant => Instant
  | .choice α _ _ => α
  | .optional inner => Option inner.Value
  | .list item => List item.Value
  | .record fields => fields.Values

/-- The values of all members. -/
def Fields.Values : Fields → Type
  | .nil => Unit
  | .cons _ schema rest => schema.Value × rest.Values

end

/-- The members of an object as far as they have been read. -/
def Fields.Slots : Fields → Type
  | .nil => Unit
  | .cons _ schema rest => Option schema.Value × rest.Slots

namespace Fields

/-- Nothing has been read yet. -/
def noSlots : (fields : Fields) → fields.Slots
  | .nil => ()
  | .cons _ _ rest => (none, rest.noSlots)

/-- What a missing member stands for, if it may be missing. -/
def whenMissing : (schema : Schema) → Option schema.Value
  | .optional _ => some none
  | _ => none

/-- The members, when none is missing that has to be there. -/
def complete : (fields : Fields) → fields.Slots → Option fields.Values
  | .nil, _ => some ()
  | .cons _ schema rest, (slot, slots) => do
    let value ← slot <|> whenMissing schema
    return (value, ← rest.complete slots)

end Fields

open Scan

/-- Goes to the next item of a list: whether there is one. The comma before an item must not be
followed by the end of the list. -/
def nextItem (first : Bool) : Scan Bool := do
  let c ← peek
  if c = ']' then return false
  if first then return true
  if c ≠ ',' then throw .malformed
  skipOne
  if (← peek) = ']' then throw .malformed
  return true

/-- Goes to the next member of an object: its key, if there is one. -/
def nextKey (first : Bool) : Scan (Option String) := do
  let c ← peek
  if c = '\x7d' then return none
  if !first then
    if c ≠ ',' then throw .malformed
    skipOne
  expect '"'
  return some (String.ofList (← textBody false))

/-- Ends a list of which all wanted items have been read. -/
def endList : Scan Unit :=
  expect ']'

/-- Reads a text. -/
def readText : Scan String := do
  match ← peek with
  | '"' => do
    skipOne
    return String.ofList (← textBody false)
  | _ => mismatched

/-- Reads a natural number below a bound. -/
def readNumber (bound : Nat) : Scan Nat := do
  let c ← peek
  if c = '-' || c.isDigit then
    match ← number with
    | some n => if n < bound then return n else throw .mismatch
    | none => throw .mismatch
  else mismatched

/-- Reads null. -/
def readNull : Scan Unit := do
  match ← peek with
  | 'n' => literal "null".toList
  | _ => mismatched

/-- The value with a name. -/
def named {α : Type} (all : List α) (name : α → String) (found : String) : Scan α :=
  match all.find? (name · = found) with
  | some a => return a
  | none => throw .mismatch

/-- Reads one of several values: its name, or an object whose only member has that name and the
value null. -/
def readChoice {α : Type} (all : List α) (name : α → String) : Scan α := do
  match ← peek with
  | '"' => do
    named all name (← readText)
  | '\x7b' => do
    skipOne
    let a ← named all name (← readText)
    expect ':'
    readNull
    expect '\x7d'
    return a
  | _ => throw .malformed

mutual

/-- Reads a value. -/
def Schema.read : (schema : Schema) → Scan schema.Value
  | .text => readText
  | .number bound => readNumber bound
  | .instant => do
    match Instant.read? (← readText) with
    | some instant => return instant
    | none => throw .mismatch
  | .choice _ all name => readChoice all name
  | .optional inner => do
    match ← peek? with
    | some 'n' => do
      literal "null".toList
      return (none : Option inner.Value)
    | _ => do
      let value ← inner.read
      return (some value : Option inner.Value)
  | .list item => do
    match ← peek with
    | '[' => do
      skipOne
      let items ← iterate (fun (got : List item.Value) => do
        if ← nextItem got.isEmpty then
          let value ← item.read
          return .inl (value :: got)
        else return .inr got.reverse) []
      endList
      return (items : List item.Value)
    | _ => mismatched
  | .record fields => do
    match ← peek with
    | '[' => do
      skipOne
      let values ← fields.readInOrder true
      endList
      return (values : fields.Values)
    | '\x7b' => do
      skipOne
      let slots ← iterate (fun (state : Bool × fields.Slots) => do
        match ← nextKey state.1 with
        | some key => do
          let slots ← fields.readMember key state.2
          return .inl (false, slots)
        | none => return .inr state.2) (true, fields.noSlots)
      match fields.complete slots with
      | some values => do
        skipOne
        return (values : fields.Values)
      | none => throw .mismatch
    | _ => mismatched

/-- Reads all members as the items of a list. -/
def Fields.readInOrder : (fields : Fields) → Bool → Scan fields.Values
  | .nil, _ => return ()
  | .cons _ schema rest, first => do
    if ← nextItem first then
      let value ← schema.read
      return (value, ← rest.readInOrder false)
    else throw .mismatch

/-- Reads the member with a key. A known key must not come twice; an unknown one is passed over. -/
def Fields.readMember : (fields : Fields) → (key : String) → fields.Slots → Scan fields.Slots
  | .nil, _, slots => do
    expect ':'
    skipValue
    return slots
  | .cons name schema rest, key, (slot, slots) => do
    if key = name then
      if slot.isSome then throw .mismatch
      expect ':'
      return (some (← schema.read), slots)
    else return (slot, ← rest.readMember key slots)

end

/-- Reads a whole text, of which nothing but blanks may be left. -/
def Schema.decode (schema : Schema) (text : List Char) : Except Problem schema.Value :=
  match (do
      let value ← schema.read
      if (← peek?).isSome then throw .malformed
      return value : Scan schema.Value).run text with
  | .ok (value, _) => .ok value
  | .error problem => .error problem

/-! ## Writing -/

/-- A JSON value to be written. -/
inductive Tree where
  | null
  | text (s : String)
  | number (n : Nat)
  | list (items : List Tree)
  /-- An object, its members in order. -/
  | object (members : List (String × Tree))

mutual

/-- The JSON value of a value. -/
def Schema.encode : (schema : Schema) → schema.Value → Tree
  | .text, (s : String) => .text s
  | .number _, (n : Nat) => .number n
  | .instant, (instant : Instant) => .text instant.text
  | .choice _ _ name, a => .text (name a)
  | .optional inner, (value : Option inner.Value) => (value.map inner.encode).getD .null
  | .list item, (values : List item.Value) => .list (values.map item.encode)
  | .record fields, (values : fields.Values) => .object (fields.encode values)

/-- The members of an object with these values. -/
def Fields.encode : (fields : Fields) → fields.Values → List (String × Tree)
  | .nil, _ => []
  | .cons name schema rest, (value, values) =>
    (name, schema.encode value) :: rest.encode values

end

namespace Tree

/-- One character of a text as JSON writes it. -/
def escapedChar (c : Char) : String :=
  match Scan.shortEscapes.find? (fun (_, char) => char = c && char ≠ '/') with
  | some (letter, _) => "\\" ++ String.singleton letter
  | none =>
    if c.toNat < 0x20 then
      let digits := Nat.toDigits 16 c.toNat
      "\\u" ++ String.ofList (List.replicate (4 - digits.length) '0' ++ digits)
    else String.singleton c

/-- A text between quotes. -/
def quoted (s : String) : String :=
  "\"" ++ String.join (s.toList.map escapedChar) ++ "\""

/-- The start of a line at a depth: two blanks per level. -/
def lineStart (depth : Nat) : String :=
  "\n" ++ String.ofList (List.replicate (2 * depth) ' ')

mutual

/-- Writes a value over several lines, an item or member a line. -/
def write (depth : Nat) : Tree → String
  | null => "null"
  | text s => quoted s
  | number n => toString n
  | list [] => "[]"
  | list (item :: items) =>
    "[" ++ lineStart (depth + 1) ++ item.write (depth + 1) ++ writeItems (depth + 1) items
      ++ lineStart depth ++ "]"
  | object [] => "\x7b\x7d"
  | object ((name, value) :: members) =>
    "\x7b" ++ lineStart (depth + 1) ++ quoted name ++ ": " ++ value.write (depth + 1)
      ++ writeMembers (depth + 1) members ++ lineStart depth ++ "\x7d"

/-- Writes the further items of a list. -/
def writeItems (depth : Nat) : List Tree → String
  | [] => ""
  | item :: items => "," ++ lineStart depth ++ item.write depth ++ writeItems depth items

/-- Writes the further members of an object. -/
def writeMembers (depth : Nat) : List (String × Tree) → String
  | [] => ""
  | (name, value) :: members =>
    "," ++ lineStart depth ++ quoted name ++ ": " ++ value.write depth
      ++ writeMembers depth members

end

/-- The text of a value. -/
def pretty (tree : Tree) : String :=
  tree.write 0

end Tree

end VparFleet.Json
