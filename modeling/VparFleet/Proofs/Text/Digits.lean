import Mathlib.Tactic.Ring
import Mathlib.Algebra.Order.Monoid.Unbundled.Pow
import VparFleet.Instant

/-!
# Numbers of a fixed width

Digits of one width that are compared as text are compared as the numbers that they write, whatever
follows them. That is why texts that are made of such numbers can be sorted as they are.

* `Writes`: digits of a width with a value; `padded_writes`: a number with leading zeros is such.
* `Writes.append_lt_append_iff`: digits of one width are ordered as their values.
* `Writes.append`, `Writes.unique`: digits after digits, and digits with one value.
-/

namespace VparFleet.Instant

/-- Digits of a width that write a number. -/
structure Writes (width n : Nat) (cs : List Char) : Prop where
  length : cs.length = width
  digits : ∀ c ∈ cs, c.isDigit = true
  value : natOf cs = n

variable {width a b : Nat} {c : Char} {cs ds s t : List Char}

/-- A number is read digit by digit, as the library reads it. -/
theorem natOf_eq (cs : List Char) : natOf cs = Nat.ofDigitChars 10 cs 0 := by
  rw [natOf, Nat.ofDigitChars_eq_foldl]
  congr 1
  funext n c
  rw [Nat.mul_comm]
  rfl

theorem natOf_append (cs ds : List Char) :
    natOf (cs ++ ds) = 10 ^ ds.length * natOf cs + natOf ds := by
  rw [natOf_eq, natOf_eq, natOf_eq, Nat.ofDigitChars_append, Nat.ofDigitChars_eq_ofDigitChars_zero]

theorem natOf_cons (c : Char) (cs : List Char) :
    natOf (c :: cs) = 10 ^ cs.length * (c.toNat - 48) + natOf cs := by
  have hone : natOf [c] = c.toNat - 48 := Nat.zero_add _
  rw [← List.singleton_append, natOf_append, hone]

/-- Digits have the codes from 48 to 57. -/
theorem toNat_of_isDigit (h : c.isDigit = true) : 48 ≤ c.toNat ∧ c.toNat ≤ 57 := by
  simpa [Char.isDigit, UInt32.le_iff_toNat_le] using h

/-- A number of so many digits is below that power of ten. -/
theorem natOf_lt (h : ∀ c ∈ cs, c.isDigit = true) : natOf cs < 10 ^ cs.length := by
  induction cs with
  | nil => exact Nat.one_pos
  | cons c cs ih =>
    obtain ⟨hc, hcs⟩ := List.forall_mem_cons.mp h
    have hdigit : c.toNat - 48 ≤ 9 := by
      have hcode := toNat_of_isDigit hc
      omega
    have hrest := ih hcs
    rw [natOf_cons, List.length_cons, pow_succ]
    calc 10 ^ cs.length * (c.toNat - 48) + natOf cs
        < 10 ^ cs.length * (c.toNat - 48) + 10 ^ cs.length := by omega
      _ ≤ 10 ^ cs.length * 9 + 10 ^ cs.length := by
          have hmul := Nat.mul_le_mul_left (10 ^ cs.length) hdigit
          omega
      _ = 10 ^ cs.length * 10 := by ring

/-- Of two numbers in a base the higher digits decide, unless they are the same. -/
theorem scaled_add_lt_iff {scale x y p q : Nat} (hp : p < scale) (hq : q < scale) :
    scale * x + p < scale * y + q ↔ x < y ∨ x = y ∧ p < q := by
  rcases lt_trichotomy x y with hlt | heq | hgt
  · -- a smaller front leaves room for whatever follows
    have hscaled := Nat.mul_le_mul_left scale (Nat.succ_le_of_lt hlt)
    rw [Nat.succ_eq_add_one, Nat.mul_add, Nat.mul_one] at hscaled
    omega
  · rw [heq]
    omega
  · have hscaled := Nat.mul_le_mul_left scale (Nat.succ_le_of_lt hgt)
    rw [Nat.succ_eq_add_one, Nat.mul_add, Nat.mul_one] at hscaled
    omega

/-- Two such numbers are the same exactly when both parts are. -/
theorem scaled_add_eq_iff {scale x y p q : Nat} (hp : p < scale) (hq : q < scale) :
    scale * x + p = scale * y + q ↔ x = y ∧ p = q := by
  have hlt := scaled_add_lt_iff (x := x) (y := y) hp hq
  have hgt := scaled_add_lt_iff (x := y) (y := x) hq hp
  omega

namespace Writes

/-- Digits after digits write both numbers. -/
theorem append {width' : Nat} (h : Writes width a cs) (h' : Writes width' b ds) :
    Writes (width + width') (10 ^ width' * a + b) (cs ++ ds) where
  length := by rw [List.length_append, h.length, h'.length]
  digits := List.forall_mem_append.mpr ⟨h.digits, h'.digits⟩
  value := by rw [natOf_append, h.value, h'.value, h'.length]

/-- Digits of one width are ordered as the numbers that they write; with equal numbers it depends on
what follows. -/
theorem append_lt_append_iff (ha : Writes width a cs) (hb : Writes width b ds) :
    cs ++ s < ds ++ t ↔ a < b ∨ a = b ∧ s < t := by
  induction cs generalizing ds width a b with
  | nil =>
    obtain rfl : ds = [] := List.length_eq_zero_iff.mp (hb.length.trans ha.length.symm)
    have hzero : a = b := ha.value.symm.trans hb.value
    simp [hzero]
  | cons c cs ih =>
    obtain ⟨d, ds, rfl⟩ : ∃ d ds', ds = d :: ds' := by
      cases ds with
      | nil => exact nomatch ha.length.trans hb.length.symm
      | cons d ds => exact ⟨d, ds, rfl⟩
    have hlength : cs.length = ds.length := by
      simpa using ha.length.trans hb.length.symm
    obtain ⟨hc, hcs⟩ := List.forall_mem_cons.mp ha.digits
    obtain ⟨hd, hds⟩ := List.forall_mem_cons.mp hb.digits
    have hbound := natOf_lt hcs
    have hbound' := natOf_lt hds
    rw [← hlength] at hbound'
    rw [← ha.value, ← hb.value, natOf_cons, natOf_cons, ← hlength,
      scaled_add_lt_iff hbound hbound', scaled_add_eq_iff hbound hbound']
    -- the first characters compare as the first digits
    have hcode := toNat_of_isDigit hc
    have hcode' := toNat_of_isDigit hd
    have hlt : c < d ↔ c.toNat - 48 < d.toNat - 48 := by
      rw [show c < d ↔ c.toNat < d.toNat from Iff.rfl]
      omega
    have heq : c = d ↔ c.toNat - 48 = d.toNat - 48 := by
      rw [← Char.toNat_inj]
      omega
    rw [List.cons_append, List.cons_append, List.cons_lt_cons_iff, hlt, heq,
      ih ⟨rfl, hcs, rfl⟩ ⟨hlength.symm, hds, rfl⟩]
    tauto

/-- A number has one text of a width. -/
theorem unique (h : Writes width a cs) (h' : Writes width a ds) : cs = ds := by
  -- neither text is before the other
  have hlt := append_lt_append_iff (s := []) (t := []) h h'
  have hgt := append_lt_append_iff (s := []) (t := []) h' h
  simp only [List.append_nil, Nat.lt_irrefl, List.lt_irrefl, and_false, or_false, iff_false]
    at hlt hgt
  exact List.le_antisymm hgt hlt

end Writes

/-- A number that is not too large has a text of every width. -/
theorem padded_writes (hpos : 0 < width) (h : a < 10 ^ width) :
    Writes width a (padded width a).toList := by
  have hlength : (Nat.toDigits 10 a).length ≤ width :=
    (Nat.length_toDigits_le_iff (by decide) hpos).mpr h
  rw [padded, String.toList_ofList]
  refine ⟨?_, ?_, ?_⟩
  · rw [List.length_append, List.length_replicate]
    omega
  · -- the zeros in front are digits too
    intro c hc
    rcases List.mem_append.mp hc with hc | hc
    · rw [List.eq_of_mem_replicate hc]
      decide
    · exact Nat.isDigit_of_mem_toDigits (by decide) (by decide) hc
  · rw [natOf_eq, Nat.ofDigitChars_append, Nat.ofDigitChars_replicate_zero, Nat.mul_zero,
      Nat.ofDigitChars_ten_toDigits]

end VparFleet.Instant
