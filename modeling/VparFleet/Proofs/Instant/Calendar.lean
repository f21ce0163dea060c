import Mathlib.Algebra.Order.Ring.Int
import Mathlib.Tactic.IntervalCases
import VparFleet.Instant

/-!
# The calendar

Days and dates of the Gregorian calendar determine each other, and a later day has a later date.

Months are numbered on from the March of the year 0, so that the day that a leap year has more is
the last one of a year of months. Every month starts right after the one before it ends
(`monthStart_succ`), so each day lies in exactly one month.

* `ofDate_eq`: the day of a date is counted from the start of its month.
* `toDate_isDate`, `ofDate_toDate`: each day has a date, which stands for that day.
* `ofDate_lt_iff`: days are ordered as their dates are.
-/

namespace VparFleet.Instant

/-! ## Years and months -/

/-- The number of a month, counted on from the March of the year 0. -/
def monthNumber (year : Int) (month : Nat) : Int :=
  12 * year + month - 3

/-- The day on which the month with a number starts. -/
def monthStart (number : Int) : Int :=
  daysToMarch (number / 12) + daysFromMarch (number % 12).toNat

/-- The months of the calendar, with as many days as they have. -/
structure IsDate (year : Int) (month day : Nat) : Prop where
  month_pos : 1 ≤ month
  month_le : month ≤ 12
  day_pos : 1 ≤ day
  day_le : day ≤ daysInMonth year month

variable {year year' : Int} {month month' day day' : Nat}

/-- From March to March a year has the days of the February at its end. -/
theorem daysToMarch_eq (year : Int) :
    daysToMarch year = daysToMarch (year - 1) + (if isLeapYear year then 366 else 365) := by
  have hfour : year / 4 = (year - 1) / 4 + if year % 4 = 0 then 1 else 0 := by split <;> omega
  have hcentury : year / 100 = (year - 1) / 100 + if year % 100 = 0 then 1 else 0 := by
    split <;> omega
  have hera : year / 400 = (year - 1) / 400 + if year % 400 = 0 then 1 else 0 := by
    split <;> omega
  unfold daysToMarch isLeapYear
  rw [hfour, hcentury, hera]
  -- every fourth year, but not every hundredth, but every four hundredth
  by_cases h400 : year % 400 = 0
  · have h100 : year % 100 = 0 := by omega
    have h4 : year % 4 = 0 := by omega
    simp [h400, h100, h4]
    omega
  · by_cases h100 : year % 100 = 0
    · have h4 : year % 4 = 0 := by omega
      simp [h400, h100, h4]
      omega
    · by_cases h4 : year % 4 = 0
      · simp [h400, h100, h4]
        omega
      · simp [h400, h100, h4]
        omega

/-- January and February belong to the year of the March before. -/
theorem monthNumber_parts (year : Int) (h1 : 1 ≤ month) (h12 : month ≤ 12) :
    (month ≤ 2 ∧ monthNumber year month / 12 = year - 1 ∧
        (monthNumber year month % 12).toNat = month + 9) ∨
      (2 < month ∧ monthNumber year month / 12 = year ∧
        (monthNumber year month % 12).toNat = month - 3) := by
  unfold monthNumber
  omega

/-- A date is the beginning of its month and the days since. -/
theorem ofDate_eq (h1 : 1 ≤ month) (h12 : month ≤ 12) :
    ofDate year month day = monthStart (monthNumber year month) + day - 1 := by
  unfold ofDate monthStart
  rcases monthNumber_parts year h1 h12 with ⟨hm, hyear, hmonth⟩ | ⟨hm, hyear, hmonth⟩
  · rw [if_pos hm, hyear, hmonth]
  · rw [if_neg (by omega), hyear, hmonth]

/-- In the year that starts in March, a month ends where the next one starts. -/
theorem monthStart_succ_of_lt {number : Int} (h : number % 12 < 11) :
    monthStart (number + 1) =
      daysToMarch (number / 12) + daysFromMarch ((number % 12).toNat + 1) := by
  have hyear : (number + 1) / 12 = number / 12 := by omega
  have hmonth : ((number + 1) % 12).toNat = (number % 12).toNat + 1 := by omega
  rw [monthStart, hyear, hmonth]

/-- Its last month ends where the next year starts. -/
theorem monthStart_succ_of_eq {number : Int} (h : number % 12 = 11) :
    monthStart (number + 1) = daysToMarch (number / 12 + 1) := by
  have hyear : (number + 1) / 12 = number / 12 + 1 := by omega
  have hmonth : ((number + 1) % 12).toNat = 0 := by omega
  rw [monthStart, hyear, hmonth]
  simp [daysFromMarch]

/-- A month is as long as the calendar says. -/
theorem monthStart_succ (year : Int) (h1 : 1 ≤ month) (h12 : month ≤ 12) :
    monthStart (monthNumber year month + 1) =
      monthStart (monthNumber year month) + daysInMonth year month := by
  by_cases hfebruary : month = 2
  · -- what February has more in a leap year, the year has more
    subst hfebruary
    have hyear : monthNumber year 2 / 12 = year - 1 := by
      unfold monthNumber
      omega
    have hmonth : monthNumber year 2 % 12 = 11 := by
      unfold monthNumber
      omega
    rw [monthStart_succ_of_eq hmonth, monthStart, hyear, hmonth, Int.sub_add_cancel,
      daysToMarch_eq year]
    simp only [daysInMonth, daysFromMarch]
    split <;> simp <;> omega
  · -- any other month has as many days as the table says
    have hlt : monthNumber year month % 12 < 11 := by
      unfold monthNumber
      omega
    have hmonth : (monthNumber year month % 12).toNat = (month + 9) % 12 := by
      unfold monthNumber
      omega
    rw [monthStart_succ_of_lt hlt, monthStart, hmonth]
    interval_cases month <;> simp [daysFromMarch, daysInMonth] at hfebruary ⊢ <;> omega

/-- Every number of months belongs to a year and a month. -/
theorem exists_monthNumber (number : Int) :
    ∃ year month, 1 ≤ month ∧ month ≤ 12 ∧ monthNumber year month = number := by
  refine ⟨(number + 2) / 12, ((number + 2) % 12).toNat + 1, by omega, by omega, ?_⟩
  unfold monthNumber
  omega

/-- A later month starts no earlier. -/
theorem monthStart_mono {number number' : Int} (h : number ≤ number') :
    monthStart number ≤ monthStart number' := by
  induction number', h using Int.leInduction with
  | base => exact Int.le_refl _
  | succ number' _ ih =>
    obtain ⟨year, month, h1, h12, rfl⟩ := exists_monthNumber number'
    rw [monthStart_succ _ h1 h12]
    omega

/-! ## Dates -/

/-- Days are ordered as their dates are. -/
theorem ofDate_lt_iff (h : IsDate year month day) (h' : IsDate year' month' day') :
    ofDate year month day < ofDate year' month' day' ↔
      year < year' ∨ year = year' ∧ (month < month' ∨ month = month' ∧ day < day') := by
  obtain ⟨h1, h12, hday, hle⟩ := h
  obtain ⟨h1', h12', hday', hle'⟩ := h'
  rw [ofDate_eq h1 h12, ofDate_eq h1' h12']
  have hend := monthStart_succ year h1 h12
  have hend' := monthStart_succ year' h1' h12'
  rcases lt_trichotomy (monthNumber year month) (monthNumber year' month') with hlt | heq | hgt
  · -- a later month starts after the end of this one
    have hstart := monthStart_mono (Int.add_one_le_of_lt hlt)
    unfold monthNumber at hlt
    constructor <;> omega
  · -- in one month the days decide
    have hparts : year = year' ∧ month = month' := by
      unfold monthNumber at heq
      omega
    rw [heq]
    omega
  · have hstart := monthStart_mono (Int.add_one_le_of_lt hgt)
    unfold monthNumber at hgt
    constructor <;> omega

/-- The year of a day within 400 years. Those are four centuries, the last one a day longer; a
century is 25 times four years, the last ones a day shorter. -/
theorem yearOfEra_eq {c k t n : Nat} (hc : c ≤ 3) (hk : k ≤ 24) (ht : t ≤ 1460)
    (hn : n = 36524 * c + 1461 * k + t) (hlast : k = 24 → t = 1460 → c = 3) :
    (n - n / 1460 + n / 36524 - n / 146096) / 365 = 100 * c + 4 * k + min (t / 365) 3 := by
  have hcenturies : n / 36524 - n / 146096 = c := by
    rcases Nat.lt_or_ge n 146096 with h | h <;> omega
  have hleaps : n / 1460 = 25 * c + k + (24 * c + k + t) / 1460 := by omega
  have hsum : n - n / 1460 + n / 36524 - n / 146096 =
      365 * (100 * c + 4 * k) + (t - (24 * c + k + t) / 1460) := by
    omega
  have hrest : (t - (24 * c + k + t) / 1460) / 365 = min (t / 365) 3 := by omega
  rw [hsum, Nat.mul_add_div (by omega), hrest]

/-- A day within 400 years lies in its year. -/
theorem yearOfEra_bounds {n y : Nat} (hn : n < 146097)
    (hy : y = (n - n / 1460 + n / 36524 - n / 146096) / 365) :
    y < 400 ∧ 365 * y + y / 4 - y / 100 ≤ n ∧
      n < 365 * (y + 1) + (y + 1) / 4 - (y + 1) / 100 + (y + 1) / 400 := by
  -- the century, the four years in it, and the day in those
  obtain ⟨c, hc⟩ : ∃ c, c = min (n / 36524) 3 := ⟨_, rfl⟩
  obtain ⟨k, hk⟩ : ∃ k, k = (n - 36524 * c) / 1461 := ⟨_, rfl⟩
  obtain ⟨t, ht⟩ : ∃ t, t = (n - 36524 * c) % 1461 := ⟨_, rfl⟩
  have hparts : c ≤ 3 ∧ k ≤ 24 ∧ t ≤ 1460 ∧ n = 36524 * c + 1461 * k + t ∧
      (k = 24 → t = 1460 → c = 3) := by
    omega
  obtain ⟨hc3, hk24, ht1460, hsum, hlast⟩ := hparts
  rw [yearOfEra_eq hc3 hk24 ht1460 hsum hlast] at hy
  obtain ⟨j, hj⟩ : ∃ j, j = min (t / 365) 3 := ⟨_, rfl⟩
  have hj' : j ≤ 3 ∧ 365 * j ≤ t ∧ (j = 3 ∨ t < 365 * (j + 1)) := by omega
  rw [← hj] at hy
  have hfour : y / 4 = 25 * c + k := by omega
  have hhundred : y / 100 = c := by omega
  -- the next year may begin the next four years, the next century, and the next 400 years
  have hfour' : (y + 1) / 4 = 25 * c + k + if j = 3 then 1 else 0 := by split <;> omega
  have hhundred' : (y + 1) / 100 = c + if j = 3 ∧ k = 24 then 1 else 0 := by split <;> omega
  have hera' : (y + 1) / 400 = if j = 3 ∧ k = 24 ∧ c = 3 then 1 else 0 := by split <;> omega
  rw [hfour, hhundred, hfour', hhundred', hera']
  clear hfour hhundred hfour' hhundred' hera' hc hk ht hj
  refine ⟨by omega, by omega, ?_⟩
  split_ifs <;> omega

/-- The date of a day of a year that starts in March. -/
def dateInYear (year : Int) (inYear : Nat) : Int × Nat × Nat :=
  let month := (5 * inYear + 2) / 153
  let dayOfMonth := inYear - daysFromMarch month + 1
  if month < 10 then (year, month + 3, dayOfMonth) else (year + 1, month - 9, dayOfMonth)

/-- Every day lies in a year that begins in March, with a place in it. -/
theorem exists_inYear (day : Int) :
    ∃ (year : Int) (inYear : Nat), toDate day = dateInYear year inYear ∧
      day = daysToMarch year + inYear ∧ day < daysToMarch (year + 1) := by
  obtain ⟨era, hera⟩ : ∃ era, era = (day + 719468) / 146097 := ⟨_, rfl⟩
  obtain ⟨n, hn⟩ : ∃ n, n = ((day + 719468) % 146097).toNat := ⟨_, rfl⟩
  obtain ⟨y, hy⟩ : ∃ y, y = (n - n / 1460 + n / 36524 - n / 146096) / 365 := ⟨_, rfl⟩
  -- the day is cut into eras of four hundred years, and the rest into years
  obtain ⟨hera400, hstart, hend⟩ := yearOfEra_bounds (by omega) hy
  have hday : day = 146097 * era + n - 719468 := by omega
  refine ⟨y + era * 400, n - (365 * y + y / 4 - y / 100), ?_, ?_, ?_⟩
  · rw [toDate, dateInYear, hy, hn, hera]
  · unfold daysToMarch
    clear hy hn hera hend
    omega
  · unfold daysToMarch
    clear hy hn hera hstart
    omega

/-- The month of a day is the one that has started and not ended. -/
theorem dateInYear_spec {year : Int} {inYear : Nat} {date : Int × Nat × Nat}
    (hdate : date = dateInYear year inYear)
    (hend : daysToMarch year + inYear < daysToMarch (year + 1)) :
    1 ≤ date.2.1 ∧ date.2.1 ≤ 12 ∧
      monthStart (monthNumber date.1 date.2.1) + date.2.2 - 1 = daysToMarch year + inYear ∧
      daysToMarch year + inYear < monthStart (monthNumber date.1 date.2.1 + 1) ∧ 1 ≤ date.2.2 := by
  obtain ⟨month, hmonth⟩ : ∃ month, month = (5 * inYear + 2) / 153 := ⟨_, rfl⟩
  have hlength : daysToMarch (year + 1) ≤ daysToMarch year + 366 := by
    have heq := daysToMarch_eq (year + 1)
    rw [Int.add_sub_cancel] at heq
    split at heq <;> omega
  have hle : month ≤ 11 := by omega
  have hstarted : daysFromMarch month ≤ inYear ∧ inYear < daysFromMarch (month + 1) := by
    unfold daysFromMarch
    omega
  -- the number of the month, on either side of the turn of the year
  obtain ⟨hnumber, hpos, hle12, hofMonth⟩ :
      monthNumber date.1 date.2.1 = 12 * year + month ∧ 1 ≤ date.2.1 ∧ date.2.1 ≤ 12 ∧
        date.2.2 = inYear - daysFromMarch month + 1 := by
    rw [hdate, dateInYear, ← hmonth]
    unfold monthNumber
    split <;> dsimp only <;> omega
  have hyear : (12 * year + (month : Int)) / 12 = year := by omega
  have hrest : (12 * year + (month : Int)) % 12 = month := by omega
  have hstart : monthStart (12 * year + month) = daysToMarch year + daysFromMarch month := by
    rw [monthStart, hyear, hrest, Int.toNat_natCast]
  rw [hnumber, hstart, hofMonth]
  refine ⟨hpos, hle12, by omega, ?_, by omega⟩
  rcases Nat.lt_or_ge month 11 with hlt | hge
  · rw [monthStart_succ_of_lt (by omega), hyear, hrest, Int.toNat_natCast]
    omega
  · rw [monthStart_succ_of_eq (by omega), hyear]
    exact hend

/-- What is written for a day is a date. -/
theorem toDate_isDate (day : Int) :
    IsDate (toDate day).1 (toDate day).2.1 (toDate day).2.2 := by
  obtain ⟨year, inYear, hdate, rfl, hend⟩ := exists_inYear day
  obtain ⟨hpos, hle, hstart, hmonth, hday⟩ := dateInYear_spec hdate hend
  rw [monthStart_succ _ hpos hle] at hmonth
  exact ⟨hpos, hle, hday, by omega⟩

/-- The date of a day stands for that day. -/
theorem ofDate_toDate (day : Int) :
    ofDate (toDate day).1 (toDate day).2.1 (toDate day).2.2 = day := by
  obtain ⟨year, inYear, hdate, rfl, hend⟩ := exists_inYear day
  obtain ⟨hpos, hle, hstart, -, -⟩ := dateInYear_spec hdate hend
  rw [ofDate_eq hpos hle, hstart]

/-- A later day has a later date. -/
theorem toDate_lt_iff (day day' : Int) :
    day < day' ↔ (toDate day).1 < (toDate day').1 ∨ (toDate day).1 = (toDate day').1 ∧
      ((toDate day).2.1 < (toDate day').2.1 ∨ (toDate day).2.1 = (toDate day').2.1 ∧
        (toDate day).2.2 < (toDate day').2.2) := by
  rw [← ofDate_lt_iff (toDate_isDate day) (toDate_isDate day'), ofDate_toDate, ofDate_toDate]

end VparFleet.Instant
