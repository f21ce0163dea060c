import VparFleet.Text.Reader
import VparFleet.Text.Blank
import VparFleet.Text.Decimal

/-!
# Instants

Points in time as written in records and messages: a date of the Gregorian calendar, a time of day,
and the offset of that time from universal time.

* `Instant.read?`: reads the loose form of messages, in which blanks may stand between the parts.
* `Instant.readStored?`: reads the strict form, in which every part has its full width.
* `Instant.text`: the universal time, with as many groups of three fraction digits as needed.
-/

namespace VparFleet

/-- A point in time. -/
structure Instant where
  /-- Days since the first of January 1970. -/
  day : Int
  /-- Seconds since midnight. -/
  second : Nat
  /-- Nanoseconds since the second. A leap second goes on for a second more. -/
  nano : Nat
  deriving DecidableEq, Repr

namespace Instant

/-! ## Calendar -/

/-- Whether a year has a 29th of February. -/
def isLeapYear (year : Int) : Bool :=
  year % 4 = 0 && (year % 100 ≠ 0 || year % 400 = 0)

/-- The number of days in a month. -/
def daysInMonth (year : Int) (month : Nat) : Nat :=
  match month with
  | 2 => if isLeapYear year then 29 else 28
  | 4 => 30
  | 6 => 30
  | 9 => 30
  | 11 => 30
  | _ => 31

/-- The years that a date may have. -/
def isYear (year : Int) : Bool :=
  -262143 ≤ year && year ≤ 262142

/-- The number of days from the first of January 1970 to the first of March of a year, where years
are counted from March on. -/
def daysToMarch (year : Int) : Int :=
  year * 365 + year / 4 - year / 100 + year / 400 - 719468

/-- The days from the first of March to the first of a month, which is counted from March on. -/
def daysFromMarch (month : Nat) : Nat :=
  (153 * month + 2) / 5

/-- The day of a date. -/
def ofDate (year : Int) (month day : Nat) : Int :=
  if month ≤ 2 then daysToMarch (year - 1) + daysFromMarch (month + 9) + day - 1
  else daysToMarch year + daysFromMarch (month - 3) + day - 1

/-- The date of a day: year, month and day of the month. -/
def toDate (day : Int) : Int × Nat × Nat :=
  let shifted := day + 719468
  let era := shifted / 146097
  let inEra := (shifted % 146097).toNat
  let yearOfEra := (inEra - inEra / 1460 + inEra / 36524 - inEra / 146096) / 365
  let inYear := inEra - (365 * yearOfEra + yearOfEra / 4 - yearOfEra / 100)
  let month := (5 * inYear + 2) / 153
  let dayOfMonth := inYear - daysFromMarch month + 1
  let year := yearOfEra + era * 400
  if month < 10 then (year, month + 3, dayOfMonth) else (year + 1, month - 9, dayOfMonth)

example : ofDate 1970 1 1 = 0 ∧ ofDate 2000 3 1 = 11017 := by decide +kernel
example : toDate 0 = (1970, 1, 1) ∧ toDate 19782 = (2024, 2, 29) := by decide +kernel

/-- The number of seconds in a day. -/
def secondsPerDay : Int := 86400

/-- The instant of a date and a time of day, `offset` seconds ahead of universal time. The second 60
is the leap second after 59. -/
def ofLocal? (year : Int) (month day hour minute second nano : Nat) (offset : Int) :
    Option Instant := do
  guard (isYear year)
  guard (1 ≤ month && month ≤ 12)
  guard (1 ≤ day && day ≤ daysInMonth year month)
  guard (hour ≤ 23 && minute ≤ 59 && second ≤ 60)
  guard (-secondsPerDay < offset && offset < secondsPerDay)
  let leap : Nat := if second = 60 then 1 else 0
  let seconds : Int := (hour * 3600 + minute * 60 + second - leap : Nat) - offset
  let instant : Instant :=
    ⟨ofDate year month day + seconds / secondsPerDay, (seconds % secondsPerDay).toNat,
      nano + leap * 1000000000⟩
  guard (isYear (toDate instant.day).1)
  return instant

/-! ## Writing -/

/-- A number with leading zeros, `width` digits wide at least. -/
def padded (width n : Nat) : String :=
  let digits := Nat.toDigits 10 n
  String.ofList (List.replicate (width - digits.length) '0' ++ digits)

/-- A year: four digits, or a sign and four digits at least. -/
def yearText (year : Int) : String :=
  if 0 ≤ year && year ≤ 9999 then padded 4 year.natAbs
  else (if year < 0 then "-" else "+") ++ padded 4 year.natAbs

/-- The fraction of a second: nothing, or a point and three, six or nine digits. -/
def fractionText (nano : Nat) : String :=
  if nano = 0 then ""
  else if nano % 1000000 = 0 then "." ++ padded 3 (nano / 1000000)
  else if nano % 1000 = 0 then "." ++ padded 6 (nano / 1000)
  else "." ++ padded 9 nano

/-- Date and time of day. A leap second has the number 60. -/
def localText (instant : Instant) : String :=
  let (year, month, day) := toDate instant.day
  let leap := instant.nano / 1000000000
  yearText year ++ "-" ++ padded 2 month ++ "-" ++ padded 2 day ++ "T"
    ++ padded 2 (instant.second / 3600) ++ ":" ++ padded 2 (instant.second / 60 % 60) ++ ":"
    ++ padded 2 (instant.second % 60 + leap) ++ fractionText (instant.nano % 1000000000)

/-- The form used in messages. -/
def text (instant : Instant) : String :=
  instant.localText ++ "Z"

/-- The form used in records. -/
def storedText (instant : Instant) : String :=
  instant.localText ++ "+00:00"

/-- An instant some milliseconds later. -/
def addMillis (instant : Instant) (millis : Nat) : Instant :=
  let nano := instant.nano + millis % 1000 * 1000000
  let second := instant.second + millis / 1000 + nano / 1000000000
  ⟨instant.day + second / 86400, second % 86400, nano % 1000000000⟩

/-! ## Reading -/

open Text (Reader)
open Text.Reader

/-- Passes over blanks. -/
def blanks : Reader Unit := do
  let _ ← takeWhile Text.isBlank

/-- The value of a run of digits. -/
def natOf (digits : List Char) : Nat :=
  digits.foldl (fun n c => n * 10 + (c.toNat - 48)) 0

/-- Takes a number of at least `least` and at most `most` digits. -/
def digits (least most : Nat) : Reader (List Char) := do
  let found := ((← get).takeWhile Char.isDigit).take most
  guard (least ≤ found.length)
  set ((← get).drop found.length)
  return found

/-- Takes a number of exactly `width` digits. -/
def fixed (width : Nat) : Reader Nat :=
  natOf <$> digits width width

/-- Takes a number of at most two digits, after blanks. -/
def loose : Reader Nat := do
  blanks
  natOf <$> digits 1 2

/-- Takes a number with as many digits as there are; it must fit 64 bits with a sign. -/
def unbounded : Reader Nat := do
  let n := natOf (← takeWhile1 Char.isDigit)
  guard (n < 0x8000000000000000)
  return n

/-- Takes a year: any number after a sign, else four digits at most. -/
def looseYear : Reader Int := do
  blanks
  match ← peek? with
  | some '-' => do
    char '-'
    return -(← unbounded : Int)
  | some '+' => do
    char '+'
    return (← unbounded)
  | _ => return natOf (← digits 1 4)

/-- Takes a fraction of a second, if there is one. Digits after the ninth do not matter. -/
def fraction : Reader Nat := do
  match ← peek? with
  | some '.' => do
    char '.'
    let found ← takeWhile1 Char.isDigit
    let kept := found.take 9
    return natOf kept * Nat.pow 10 (9 - kept.length)
  | _ => return 0

/-- Takes what separates date and time of day. -/
def dateTimeMark : Reader Unit := do
  let _ ← satisfy fun c => c = 't' || c = 'T' || c = ' '

/-- Takes an offset from universal time, in seconds: a `Z`, or a sign, hours and minutes. -/
def offset (separator : Reader Unit) : Reader Int := do
  match ← next with
  | 'Z' => return 0
  | 'z' => return 0
  | sign => do
    guard (sign = '+' || sign = '-' || sign = '\u2212')
    let hours ← fixed 2
    separator
    let minutes ← fixed 2
    guard (minutes ≤ 59)
    let seconds : Int := hours * 3600 + minutes * 60
    return if sign = '+' then seconds else -seconds

/-- Takes a letter of either case. -/
def letter (upper : Char) : Reader Unit := do
  let _ ← satisfy fun c => c.toUpper = upper

/-- Takes the zone of the loose form. -/
def looseOffset : Reader Int :=
  (do
    letter 'U'
    letter 'T'
    letter 'C'
    return 0)
  <|> offset (do let _ ← takeWhile fun c => c = ':' || Text.isBlank c)

/-- Takes an instant in the loose form: every number but the year may be one digit wide, and blanks
may stand before every part but the mark between date and time. -/
def looseForm : Reader Instant := do
  let year ← looseYear
  blanks
  char '-'
  let month ← loose
  blanks
  char '-'
  let day ← loose
  dateTimeMark
  let hour ← loose
  blanks
  char ':'
  let minute ← loose
  blanks
  char ':'
  let second ← loose
  let nano ← fraction
  blanks
  let ahead ← looseOffset
  blanks
  ofLocal? year month day hour minute second nano ahead

/-- Takes an instant in the strict form. -/
def strictForm : Reader Instant := do
  let year ← fixed 4
  char '-'
  let month ← fixed 2
  char '-'
  let day ← fixed 2
  dateTimeMark
  let hour ← fixed 2
  char ':'
  let minute ← fixed 2
  char ':'
  let second ← fixed 2
  let nano ← fraction
  let ahead ← offset (char ':')
  ofLocal? year month day hour minute second nano ahead

/-- Reads the loose form. -/
def read? (s : String) : Option Instant :=
  readAll? looseForm s.toList

/-- Reads the strict form, which is that of records. -/
def readStored? (s : String) : Option Instant :=
  readAll? strictForm s.toList

example : (read? "2024-01-01 05:00:00 +05:30").map text = some "2023-12-31T23:30:00Z" := by
  decide +kernel
example : (readStored? "2024-06-30T23:59:60.5Z").map text = some "2024-06-30T23:59:60.500Z" := by
  decide +kernel

end Instant

end VparFleet
