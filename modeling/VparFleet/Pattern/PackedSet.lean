import VparFleet.Text.Printable

/-!
# Packed character sets

The large tables of character properties are kept as texts: the boundaries of the ranges of a set,
each as its distance from the one before, in base 36 and with a space between two of them.
-/

namespace VparFleet.Pattern

/-- A set of characters under its names. -/
abbrev PackedSet := List String × String

namespace PackedSet

/-- The value of a digit in base 36. -/
def digit (c : Char) : Nat :=
  if c.isDigit then c.toNat - 48 else c.toNat - 87

/-- Adds one character of the text to the boundaries read so far, the last one first, and to the
distance that is being read. -/
def step (state : List Nat × Nat) (c : Char) : List Nat × Nat :=
  if c = ' ' then ((state.1.headD 0 + state.2) :: state.1, 0)
  else (state.1, state.2 * 36 + digit c)

/-- The boundaries that a text packs. -/
def bounds (packed : String) : List Nat :=
  if packed.isEmpty then []
  else (step (packed.toList.foldl step ([], 0)) ' ').1.reverse

/-- The boundaries of the set with a name. -/
def find? (table : List PackedSet) (name : String) : Option (List Nat) :=
  (table.find? (·.1.contains name)).map fun entry => bounds entry.2

example : bounds "1s q" = [0x40, 0x5A] := by decide +kernel

end PackedSet

end VparFleet.Pattern
