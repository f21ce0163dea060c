/-!
# Decimal numbers of a bounded width

Numbers in reports are ASCII digits after at most one plus sign, and they must fit the field that
they are read into.

* `read?_eq_some_lt`: what is read is within the bound.
-/

namespace VparFleet.Text.Decimal

/-- The value of one ASCII digit. -/
def digit? (c : Char) : Option Nat :=
  if '0' ≤ c ∧ c ≤ '9' then some (c.toNat - 48) else none

/-- Reads a run of digits onto the value read so far; any other character refuses the text. -/
def digits? (value : Nat) : List Char → Option Nat
  | [] => some value
  | c :: cs => (digit? c).bind fun d => digits? (value * 10 + d) cs

/-- Reads a number below `bound`: one plus sign at most, then one digit at least. -/
def read? (bound : Nat) (cs : List Char) : Option Nat :=
  let body := if cs.head? = some '+' then cs.drop 1 else cs
  if body.isEmpty then none else (digits? 0 body).filter (· < bound)

/-- The bound of a 32-bit field. -/
def word32 : Nat := 0x100000000

/-- The bound of a 64-bit field. -/
def word64 : Nat := 0x10000000000000000

/-- What is read fits the field that it is read into. -/
theorem read?_eq_some_lt {bound n : Nat} {cs : List Char} (h : read? bound cs = some n) :
    n < bound := by
  unfold read? at h
  generalize (if cs.head? = some '+' then cs.drop 1 else cs) = body at h
  cases body with
  | nil => simp at h
  | cons c body => simpa using (Option.filter_eq_some_iff.1 h).2

end VparFleet.Text.Decimal
