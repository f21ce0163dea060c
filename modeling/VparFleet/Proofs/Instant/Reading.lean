import Mathlib.Data.List.TakeWhile
import VparFleet.Proofs.Instant.StoredText

/-!
# Reading instants

What is written to a record is read from it as it was. The numbers of a clock stand in their
columns, so every field of them is taken off the front of the text in turn.

* `takes_fixed`, `takes_fraction`: what is taken off the front of a text.
* `ofLocal?_stamp`: the numbers that are shown for an instant stand for it.
* `readStored?_storedText`: what was stored is read back.
-/

namespace VparFleet.Instant

open Text Text.Reader

variable {i : Instant} {width : Nat} {cs rest text : List Char} {α β : Type} {a : α} {b : β}
  {reader : Reader α} {k : α → Reader β}

/-- A reader takes a value off the front of a text. -/
def Takes (reader : Reader α) (text : List Char) (a : α) (rest : List Char) : Prop :=
  reader.run text = some (a, rest)

theorem Takes.bind {left : List Char} (h : Takes reader text a rest)
    (hk : Takes (k a) rest b left) : Takes (reader >>= k) text b left := by
  unfold Takes at *
  rw [StateT.run_bind, h]
  exact hk

theorem takes_pure (a : α) (text : List Char) : Takes (pure a) text a text :=
  rfl

theorem takes_guard {p : Prop} [Decidable p] (h : p) (text : List Char) :
    Takes (guard p) text () text := by
  rw [guard, if_pos h]
  exact takes_pure () text

/-- A number in its column is read as far as the column goes. -/
theorem takes_fixed (h : Writes width n cs) : Takes (fixed width) (cs ++ rest) n rest := by
  have hfound : ((cs ++ rest).takeWhile Char.isDigit).take width = cs := by
    rw [List.takeWhile_append_of_pos h.digits, List.take_append_of_le_length h.length.ge]
    exact List.take_of_length_le h.length.le
  -- what comes behind the column may be digits, but they are not taken
  have hdigits : Takes (digits width width) (cs ++ rest) cs rest := by
    refine Takes.bind (a := cs ++ rest) rfl ?_
    rw [hfound]
    refine (takes_guard h.length.ge _).bind ?_
    refine Takes.bind (a := cs ++ rest) rfl ?_
    rw [List.drop_left]
    rfl
  have hmap : Takes (natOf <$> digits width width) (cs ++ rest) (natOf cs) rest := by
    unfold Takes at *
    rw [StateT.run_map, hdigits]
    rfl
  rw [h.value] at hmap
  exact hmap

theorem takes_satisfy {p : Char → Bool} {c : Char} (h : p c = true) :
    Takes (satisfy p) (c :: rest) c rest := by
  show (if p c then some (c, rest) else none) = _
  rw [if_pos h]

theorem takes_char (c : Char) : Takes (char c) (c :: rest) () rest :=
  (takes_satisfy (by simp)).bind (takes_pure () _)

theorem takes_dateTimeMark : Takes dateTimeMark ('T' :: rest) () rest :=
  (takes_satisfy (by decide)).bind (takes_pure () _)

/-- A fraction ends where no digit follows. -/
theorem takes_fraction {n : Nat} (h : n < 1000000000) :
    Takes fraction ((fractionText n).toList ++ '+' :: rest) n ('+' :: rest) := by
  rw [fractionText_eq h]
  split
  · next h0 =>
    subst h0
    exact Takes.bind (a := some '+') rfl (takes_pure 0 _)
  · next h0 =>
    obtain ⟨width, hle, value, hwrites, hvalue⟩ := groupText_writes 3 h
    -- a fraction that is not zero has a digit
    have hne : groupText 3 n ≠ [] := by
      intro hnil
      have hzero := hwrites.value
      rw [hnil] at hzero
      obtain rfl : 0 = value := hzero
      omega
    have hplus : ('+' :: rest).takeWhile Char.isDigit = [] := List.takeWhile_cons_of_neg (by decide)
    have hplus' : ('+' :: rest).dropWhile Char.isDigit = '+' :: rest :=
      List.dropWhile_cons_of_neg (by decide)
    have hfound : Takes (takeWhile1 Char.isDigit) (groupText 3 n ++ '+' :: rest) (groupText 3 n)
        ('+' :: rest) := by
      have htaken : Takes (takeWhile Char.isDigit) (groupText 3 n ++ '+' :: rest) (groupText 3 n)
          ('+' :: rest) := by
        show some (_, _) = _
        rw [List.takeWhile_append_of_pos hwrites.digits, hplus,
          List.dropWhile_append_of_pos hwrites.digits, hplus', List.append_nil]
      exact htaken.bind ((takes_guard (by simpa using hne) _).bind (takes_pure _ _))
    -- nine digits are enough for all that is written
    have hkept : (groupText 3 n).take 9 = groupText 3 n :=
      List.take_of_length_le (hwrites.length.trans_le hle)
    refine Takes.bind (a := some '.') rfl ((takes_char '.').bind (hfound.bind ?_))
    dsimp only
    rw [hkept, hwrites.value, hwrites.length]
    show Takes (pure (value * 10 ^ (9 - width))) _ _ _
    rw [hvalue]
    exact takes_pure n _

theorem takes_zone : Takes (offset (char ':')) "+00:00".toList 0 [] := by
  rfl

/-- The numbers that are shown for an instant stand for it. -/
theorem ofLocal?_stamp (hi : i.Proper) (hy : i.HasFourDigitYear) :
    ofLocal? (Stamp.of i).year (Stamp.of i).month (Stamp.of i).day (Stamp.of i).hour
      (Stamp.of i).minute (Stamp.of i).second (Stamp.of i).nano 0 = some i := by
  obtain ⟨hsecond, hnano⟩ := hi
  obtain ⟨hnonneg, hshort⟩ := hy
  obtain ⟨hpos, hle, hday, hlast⟩ := toDate_isDate i.day
  have hyear : ((Stamp.of i).year : Int) = i.year := Int.toNat_of_nonneg hnonneg
  have hisYear : isYear i.year = true := by
    unfold isYear
    rw [Bool.and_eq_true, decide_eq_true_eq, decide_eq_true_eq]
    omega
  -- a second 60 is shown exactly for a leap second
  have hleap : (if (Stamp.of i).second = 60 then 1 else 0) = i.nano / 1000000000 := by
    unfold Stamp.of
    dsimp only
    split <;> omega
  have htime : (Stamp.of i).hour * 3600 + (Stamp.of i).minute * 60 + (Stamp.of i).second -
      i.nano / 1000000000 = i.second := by
    unfold Stamp.of
    dsimp only
    omega
  have hnano' : (Stamp.of i).nano + i.nano / 1000000000 * 1000000000 = i.nano := by
    unfold Stamp.of
    dsimp only
    omega
  have hclock : (Stamp.of i).hour ≤ 23 ∧ (Stamp.of i).minute ≤ 59 ∧ (Stamp.of i).second ≤ 60 := by
    unfold Stamp.of
    dsimp only
    omega
  have hquotient : (i.second : Int) / 86400 = 0 := by omega
  have hremainder : ((i.second : Int) % 86400).toNat = i.second := by omega
  have hdate : ofDate i.year (Stamp.of i).month (Stamp.of i).day = i.day := ofDate_toDate i.day
  have hguard {p : Prop} [Decidable p] (h : p) : (guard p : Option Unit) = some () := if_pos h
  rw [ofLocal?, hyear, hguard hisYear, hguard (by simpa using ⟨hpos, hle⟩),
    hguard (by simpa using ⟨hday, hlast⟩), hguard (by simpa [and_assoc] using hclock),
    hguard (by decide)]
  simp only [Option.bind_eq_bind, Option.bind_some, hleap, htime, hnano', hdate, hquotient,
    hremainder, secondsPerDay, Int.sub_zero, Int.add_zero]
  rw [hguard (p := isYear (toDate i.day).1 = true) hisYear]
  rfl

/-- What is stored of an instant is read back as that instant. -/
theorem readStored?_storedText (hi : i.Proper) (hy : i.HasFourDigitYear) :
    readStored? i.storedText = some i := by
  obtain ⟨hyear, hmonth, hday, hhour, hminute, hsecond, hnano⟩ := Stamp.of_fits hi hy
  have htwo {n : Nat} (h : n < 10 ^ 2) := padded_writes (by decide : 0 < 2) h
  -- the fields are read in the order in which they were written
  have hread : Takes strictForm (Stamp.of i).text i [] := by
    refine (takes_fixed (padded_writes (by decide) hyear)).bind ?_
    refine (takes_char '-').bind ((takes_fixed (htwo hmonth)).bind ?_)
    refine (takes_char '-').bind ((takes_fixed (htwo hday)).bind ?_)
    refine takes_dateTimeMark.bind ((takes_fixed (htwo hhour)).bind ?_)
    refine (takes_char ':').bind ((takes_fixed (htwo hminute)).bind ?_)
    refine (takes_char ':').bind ((takes_fixed (htwo hsecond)).bind ?_)
    refine (takes_fraction hnano).bind (takes_zone.bind ?_)
    rw [ofLocal?_stamp hi hy]
    rfl
  rw [readStored?, storedText_toList hy, readAll?, hread]

end VparFleet.Instant
