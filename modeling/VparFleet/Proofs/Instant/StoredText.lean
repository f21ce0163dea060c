import VparFleet.Proofs.Instant.Calendar
import VparFleet.Proofs.Text.Digits

/-!
# Instants in records

Records keep instants as text and compare them as text. The numbers in such a text have fixed
widths, except for the fraction of a second, which has as many groups of three digits as needed and
is followed by a plus sign. A plus sign comes before the point and before all digits, so a shorter
fraction comes before the longer ones that begin with it.

* `Proper`, `HasFourDigitYear`: the instants that a clock shows, in years of four digits.
* `Stamp`: the numbers in the text of an instant.
* `storedText_lt_iff`: the order of the texts is the order of the instants.
-/

namespace VparFleet.Instant

/-! ## Fractions of a second -/

/-- The groups of three digits of a number, up to the last group that is not zero. -/
def groupText : Nat → Nat → List Char
  | 0, _ => []
  | groups + 1, n =>
    if n = 0 then []
    else (padded 3 (n / 1000 ^ groups)).toList ++ groupText groups (n % 1000 ^ groups)

variable {groups a b n : Nat} {s t : List Char}

/-- Every group of three digits is written in full. -/
theorem group_writes (h : n < 1000 ^ (groups + 1)) :
    Writes 3 (n / 1000 ^ groups) (padded 3 (n / 1000 ^ groups)).toList := by
  refine padded_writes (by decide) (Nat.div_lt_of_lt_mul ?_)
  rw [pow_succ] at h
  exact h

theorem pow_groups (groups : Nat) : 1000 ^ groups = 10 ^ (3 * groups) := by
  rw [pow_mul]
  norm_num

/-- A plus sign comes before all digits. -/
theorem plus_lt_group (h : n < 1000 ^ (groups + 1)) :
    '+' :: s < (padded 3 (n / 1000 ^ groups)).toList ++ t := by
  obtain ⟨hlength, hdigits, -⟩ := group_writes h
  cases hcs : (padded 3 (n / 1000 ^ groups)).toList with
  | nil =>
    rw [hcs] at hlength
    exact nomatch hlength
  | cons c cs =>
    have hcode := toNat_of_isDigit (hdigits c (hcs ▸ List.mem_cons_self))
    have hlt : '+' < c := show 43 < c.toNat by omega
    rw [List.cons_append, List.cons_lt_cons_iff]
    exact Or.inl hlt

/-- Fractions without zeros at their end compare like the numbers, since a plus sign comes before
every digit. -/
theorem groupText_append_lt_iff (ha : a < 1000 ^ groups) (hb : b < 1000 ^ groups) :
    groupText groups a ++ '+' :: s < groupText groups b ++ '+' :: s ↔ a < b := by
  induction groups generalizing a b with
  | zero =>
    rw [pow_zero] at ha hb
    simp only [groupText, List.nil_append, List.lt_irrefl, false_iff]
    omega
  | succ groups ih =>
    have hscale : 0 < 1000 ^ groups := by positivity
    -- where the groups of only one of the numbers have ended, its plus sign meets a digit
    by_cases ha0 : a = 0
    · by_cases hb0 : b = 0
      · subst ha0 hb0
        simp [groupText]
      · subst ha0
        rw [groupText, if_pos rfl, groupText, if_neg hb0, List.nil_append, List.append_assoc]
        exact iff_of_true (plus_lt_group hb) (Nat.pos_of_ne_zero hb0)
    · by_cases hb0 : b = 0
      · subst hb0
        rw [groupText, if_neg ha0, groupText, if_pos rfl, List.nil_append, List.append_assoc]
        exact iff_of_false (List.lt_asymm (plus_lt_group ha)) (Nat.not_lt_zero a)
      · -- the first groups decide, or else the rest does
        have hmod := Nat.mod_lt a hscale
        have hmod' := Nat.mod_lt b hscale
        rw [groupText, if_neg ha0, groupText, if_neg hb0, List.append_assoc, List.append_assoc,
          (group_writes ha).append_lt_append_iff (group_writes hb), ih hmod hmod',
          ← scaled_add_lt_iff hmod hmod', Nat.div_add_mod, Nat.div_add_mod]

/-- The groups are the first digits of the number; the digits that are left out are zeros. -/
theorem groupText_writes (groups : Nat) (h : n < 1000 ^ groups) :
    ∃ width ≤ 3 * groups, ∃ value, Writes width value (groupText groups n) ∧
      value * 10 ^ (3 * groups - width) = n := by
  -- by induction on the groups that are left; zeros at the end are not written
  induction groups generalizing n with
  | zero =>
    rw [pow_zero] at h
    exact ⟨0, le_rfl, 0, ⟨rfl, nofun, rfl⟩, by omega⟩
  | succ groups ih =>
    rw [groupText]
    split
    · next h0 => exact ⟨0, Nat.zero_le _, 0, ⟨rfl, nofun, rfl⟩, by omega⟩
    · have hscale : 0 < 1000 ^ groups := by positivity
      obtain ⟨width, hle, value, hwrites, hvalue⟩ := ih (Nat.mod_lt n hscale)
      refine ⟨3 + width, by omega, _, (group_writes h).append hwrites, ?_⟩
      have hrest : 3 * (groups + 1) - (3 + width) = 3 * groups - width := by omega
      have hpow : 10 ^ width * 10 ^ (3 * groups - width) = 1000 ^ groups := by
        rw [← pow_add, Nat.add_sub_cancel' hle, pow_groups]
      calc (10 ^ width * (n / 1000 ^ groups) + value) * 10 ^ (3 * (groups + 1) - (3 + width))
          = n / 1000 ^ groups * (10 ^ width * 10 ^ (3 * groups - width)) +
              value * 10 ^ (3 * groups - width) := by rw [hrest]; ring
        _ = 1000 ^ groups * (n / 1000 ^ groups) + n % 1000 ^ groups := by
            rw [hpow, hvalue, Nat.mul_comm]
        _ = n := Nat.div_add_mod n _

/-- A number in a wide column is two numbers in narrow ones. -/
theorem padded_split (width width' : Nat) (hpos : 0 < width) (hpos' : 0 < width')
    (h : n < 10 ^ (width + width')) :
    (padded (width + width') n).toList =
      (padded width (n / 10 ^ width')).toList ++ (padded width' (n % 10 ^ width')).toList := by
  have hscale : 0 < 10 ^ width' := by positivity
  have hquotient : n / 10 ^ width' < 10 ^ width := by
    rw [pow_add, Nat.mul_comm] at h
    exact Nat.div_lt_of_lt_mul h
  have hparts := (padded_writes hpos hquotient).append (padded_writes hpos' (Nat.mod_lt n hscale))
  rw [Nat.div_add_mod] at hparts
  exact (padded_writes (by omega) h).unique hparts

/-- A fraction is written in three, six or nine digits, and not at all if it is zero. -/
theorem fractionText_eq (h : n < 1000000000) :
    (fractionText n).toList = if n = 0 then [] else '.' :: groupText 3 n := by
  have hpoint (text : String) : ("." ++ text).toList = '.' :: text.toList := by
    rw [String.toList_append]
    rfl
  have hmillis : n % 1000000 / 1000 = n / 1000 % 1000 := by omega
  have hrest : n % 1000000 % 1000 = n % 1000 := by omega
  unfold fractionText
  -- no group, or one, two or three of them
  by_cases h0 : n = 0
  · rw [if_pos h0, if_pos h0]
    rfl
  rw [if_neg h0, if_neg h0]
  by_cases hthree : n % 1000000 = 0
  · rw [if_pos hthree, hpoint]
    simp [groupText, h0, hthree]
  rw [if_neg hthree]
  have hsplit (width n : Nat) (hpos : 0 < width) (h : n < 10 ^ (3 + width)) :=
    padded_split 3 width (by decide) hpos h
  by_cases hsix : n % 1000 = 0
  · rw [if_pos hsix, hpoint, hsplit 3 _ (by decide) (by omega)]
    have hfirst : n / 1000 / 1000 = n / 1000000 := by omega
    simp [groupText, h0, hthree, hmillis, hrest, hsix, hfirst]
  · rw [if_neg hsix, hpoint, hsplit 6 _ (by decide) (by omega),
      hsplit 3 (n % _) (by decide) (by omega)]
    simp [groupText, h0, hthree, hmillis, hrest, hsix]

/-- Fractions of a second compare like their texts. -/
theorem fraction_append_lt_iff (ha : a < 1000000000) (hb : b < 1000000000) :
    (fractionText a).toList ++ '+' :: s < (fractionText b).toList ++ '+' :: s ↔ a < b := by
  -- a text without a fraction goes on with the plus sign, which comes before the point
  have hpoint (t : List Char) : '+' :: s < '.' :: t := by
    rw [List.cons_lt_cons_iff]
    exact Or.inl (by decide)
  rw [fractionText_eq ha, fractionText_eq hb]
  by_cases ha0 : a = 0
  · by_cases hb0 : b = 0
    · simp [ha0, hb0]
    · rw [if_pos ha0, if_neg hb0, List.nil_append, List.cons_append]
      exact iff_of_true (hpoint _) (by omega)
  · by_cases hb0 : b = 0
    · rw [if_neg ha0, if_pos hb0, List.nil_append, List.cons_append]
      exact iff_of_false (List.lt_asymm (hpoint _)) (by omega)
    · rw [if_neg ha0, if_neg hb0, List.cons_append, List.cons_append, List.cons_lt_cons_self,
        groupText_append_lt_iff ha hb]

/-! ## Whole texts -/

/-- An instant as it is shown by a clock: the time of a day, where only the last second of a minute
can be followed by a leap second. -/
structure Proper (i : Instant) : Prop where
  second : i.second < 86400
  nano : i.nano < 1000000000 ∨ i.nano < 2000000000 ∧ i.second % 60 = 59

def year (i : Instant) : Int :=
  (toDate i.day).1

/-- Years that are written with four digits. -/
structure HasFourDigitYear (i : Instant) : Prop where
  nonneg : 0 ≤ i.year
  le : i.year ≤ 9999

/-- An instant comes before another one. A leap second comes after the second that it follows and
before the next one. -/
def Before (i j : Instant) : Prop :=
  i.day < j.day ∨ i.day = j.day ∧ (i.second < j.second ∨ i.second = j.second ∧ i.nano < j.nano)

/-- The numbers in the text of an instant, each in its width, and the fraction. -/
structure Stamp where
  year : Nat
  month : Nat
  day : Nat
  hour : Nat
  minute : Nat
  second : Nat
  nano : Nat

namespace Stamp

/-- The numbers that are shown for an instant; a leap second is second 60. -/
def of (i : Instant) : Stamp where
  year := i.year.toNat
  month := (toDate i.day).2.1
  day := (toDate i.day).2.2
  hour := i.second / 3600
  minute := i.second / 60 % 60
  second := i.second % 60 + i.nano / 1000000000
  nano := i.nano % 1000000000

/-- The text of the numbers. -/
def text (x : Stamp) : List Char :=
  (padded 4 x.year).toList ++ '-' :: ((padded 2 x.month).toList ++ '-' ::
    ((padded 2 x.day).toList ++ 'T' :: ((padded 2 x.hour).toList ++ ':' ::
      ((padded 2 x.minute).toList ++ ':' :: ((padded 2 x.second).toList ++
        ((fractionText x.nano).toList ++ "+00:00".toList))))))

/-- Numbers that fit their widths. -/
structure Fits (x : Stamp) : Prop where
  year : x.year < 10 ^ 4
  month : x.month < 10 ^ 2
  day : x.day < 10 ^ 2
  hour : x.hour < 10 ^ 2
  minute : x.minute < 10 ^ 2
  second : x.second < 10 ^ 2
  nano : x.nano < 1000000000

/-- Stamps compare like their texts: the first field that differs decides. -/
theorem text_lt_iff {x y : Stamp} (hx : x.Fits) (hy : y.Fits) :
    x.text < y.text ↔ x.year < y.year ∨ x.year = y.year ∧
      (x.month < y.month ∨ x.month = y.month ∧ (x.day < y.day ∨ x.day = y.day ∧
        (x.hour < y.hour ∨ x.hour = y.hour ∧ (x.minute < y.minute ∨ x.minute = y.minute ∧
          (x.second < y.second ∨ x.second = y.second ∧ x.nano < y.nano))))) := by
  have htwo {n : Nat} (h : n < 10 ^ 2) := padded_writes (by decide : 0 < 2) h
  have hfour {n : Nat} (h : n < 10 ^ 4) := padded_writes (by decide : 0 < 4) h
  have hzone : "+00:00".toList = '+' :: "00:00".toList := rfl
  unfold text
  rw [hzone]
  -- every field has a fixed width, so the fields of both texts stand under each other
  rw [(hfour hx.year).append_lt_append_iff (hfour hy.year), List.cons_lt_cons_self,
    (htwo hx.month).append_lt_append_iff (htwo hy.month), List.cons_lt_cons_self,
    (htwo hx.day).append_lt_append_iff (htwo hy.day), List.cons_lt_cons_self,
    (htwo hx.hour).append_lt_append_iff (htwo hy.hour), List.cons_lt_cons_self,
    (htwo hx.minute).append_lt_append_iff (htwo hy.minute), List.cons_lt_cons_self,
    (htwo hx.second).append_lt_append_iff (htwo hy.second),
    fraction_append_lt_iff hx.nano hy.nano]

end Stamp

variable {i j : Instant}

/-- The text of an instant is that of its stamp. -/
theorem storedText_toList (h : i.HasFourDigitYear) :
    i.storedText.toList = (Stamp.of i).text := by
  -- years of four digits are written without a sign
  have hyear : yearText (toDate i.day).1 = padded 4 i.year.toNat := by
    have hshort : (0 ≤ (toDate i.day).1 && (toDate i.day).1 ≤ 9999) = true := by
      simpa [year] using And.intro h.nonneg h.le
    have habs : (toDate i.day).1.natAbs = i.year.toNat := by
      have hpos := h.nonneg
      unfold year at *
      omega
    rw [yearText, if_pos hshort, habs]
  have hdash : "-".toList = ['-'] := rfl
  have hmark : "T".toList = ['T'] := rfl
  have hcolon : ":".toList = [':'] := rfl
  unfold storedText localText Stamp.text Stamp.of
  simp only [hyear, hdash, hmark, hcolon, String.toList_append, List.append_assoc, List.cons_append,
    List.nil_append]

/-- The fields of a clock fit in their columns. -/
theorem Stamp.of_fits (hi : i.Proper) (hy : i.HasFourDigitYear) : (Stamp.of i).Fits := by
  obtain ⟨hsecond, hnano⟩ := hi
  obtain ⟨hyear, hyear'⟩ := hy
  obtain ⟨hpos, hle, hday, hlast⟩ := toDate_isDate i.day
  have hlength : daysInMonth (toDate i.day).1 (toDate i.day).2.1 ≤ 31 := by
    unfold daysInMonth
    split
    · split <;> decide
    all_goals decide
  unfold Stamp.of
  constructor <;> dsimp only <;> omega

/-- The time of a day is shown in order, leap seconds included. -/
theorem Stamp.time_lt_iff (hi : i.Proper) (hj : j.Proper) :
    ((Stamp.of i).hour < (Stamp.of j).hour ∨ (Stamp.of i).hour = (Stamp.of j).hour ∧
      ((Stamp.of i).minute < (Stamp.of j).minute ∨ (Stamp.of i).minute = (Stamp.of j).minute ∧
        ((Stamp.of i).second < (Stamp.of j).second ∨ (Stamp.of i).second = (Stamp.of j).second ∧
          (Stamp.of i).nano < (Stamp.of j).nano))) ↔
      (i.second < j.second ∨ i.second = j.second ∧ i.nano < j.nano) := by
  obtain ⟨hsecond, hnano⟩ := hi
  obtain ⟨hsecond', hnano'⟩ := hj
  unfold Stamp.of
  dsimp only
  omega

/-- Stored texts are ordered as the instants are. -/
theorem storedText_lt_iff (hi : i.Proper) (hj : j.Proper) (hyi : i.HasFourDigitYear)
    (hyj : j.HasFourDigitYear) : i.storedText < j.storedText ↔ i.Before j := by
  have hday := toDate_lt_iff i.day j.day
  have hday' := toDate_lt_iff j.day i.day
  rw [String.lt_iff, storedText_toList hyi, storedText_toList hyj,
    Stamp.text_lt_iff (Stamp.of_fits hi hyi) (Stamp.of_fits hj hyj), Stamp.time_lt_iff hi hj,
    Before]
  obtain ⟨hnonneg, -⟩ := hyi
  obtain ⟨hnonneg', -⟩ := hyj
  unfold Stamp.of year at *
  dsimp only at *
  -- the dates are compared as numbers from here on, and the time only on one day
  rcases lt_trichotomy i.day j.day with hlt | heq | hgt
  · omega
  · rw [heq]
    omega
  · omega

end VparFleet.Instant
