import VparFleet.Fault
import VparFleet.Text.Decimal

/-!
# Integer columns

The store keeps amounts in signed columns of 64 bits. Amounts that do not fit are refused before
the store is asked, and values that no amount has are refused when a row is read.
-/

namespace VparFleet.Store

/-- The least number that an integer column cannot hold. -/
def columnBound : Nat := 0x8000000000000000

/-- The column value of an amount. -/
def toColumn (column : String) (amount : Nat) : Outcome Int :=
  if amount < columnBound then .ok amount
  else .error ⟨.database, s!"{column} does not fit in an integer column"⟩

/-- The amount that a column value stands for, which must be below a bound. -/
def ofColumn (bound : Nat) (column : String) (value : Int) : Outcome Nat :=
  if 0 ≤ value ∧ value < bound then .ok value.toNat
  else .error ⟨.database, s!"{column} out of range: {value}"⟩

end VparFleet.Store
