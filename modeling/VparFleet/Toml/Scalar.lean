import VparFleet.Text.Find
import VparFleet.Text.Reader
import VparFleet.Toml.Value

/-!
# Scalar values of a configuration document

Texts in their four spellings, integers in four bases, floating-point numbers, truth values, dates
and times.
-/

namespace VparFleet.Toml

open Text (Reader)
open Text.Reader

/-- A blank inside a line. -/
def isSpace (c : Char) : Bool :=
  c = ' ' || c = '\t'

/-- A character that a comment may hold. -/
def isCommentChar (c : Char) : Bool :=
  c = '\t' || (' ' ≤ c && c ≤ '~') || 0x80 ≤ c.toNat

/-- A character that stands for itself in a text between double quotes. -/
def isBasicChar (c : Char) : Bool :=
  isCommentChar c && c ≠ '"' && c ≠ '\\'

/-- A character that a text between single quotes may hold. -/
def isLiteralChar (c : Char) : Bool :=
  isCommentChar c && c ≠ '\''

/-- A line end: a line feed, with a carriage return before it or not. -/
def newline : Reader Unit :=
  char '\n' <|> literal "\r\n"

/-- The value of a hexadecimal digit. -/
def hexDigit? (c : Char) : Option Nat :=
  if c.isDigit then some (c.toNat - 48)
  else if 'a' ≤ c && c ≤ 'f' then some (c.toNat - 87)
  else if 'A' ≤ c && c ≤ 'F' then some (c.toNat - 55)
  else none

/-- The value of a digit in a base. -/
def digitIn? (base : Nat) (c : Char) : Option Nat :=
  (hexDigit? c).filter (· < base)

/-- The number that digits write in a base. -/
def numberIn (base : Nat) (digits : List Char) : Nat :=
  digits.foldl (fun n c => n * base + (digitIn? base c).getD 0) 0

/-- A character given by `size` hexadecimal digits. -/
def codeEscape (size : Nat) : Reader Char := do
  let digits := (← get).take size
  guard (digits.length = size && digits.all fun c => (hexDigit? c).isSome)
  let n := numberIn 16 digits
  guard (n < 0xD800 || (0xE000 ≤ n && n < 0x110000))
  modify (·.drop size)
  return Char.ofNat n

/-- The character that follows a backslash stands for. -/
def escape : Reader Char := do
  match ← next with
  | 'b' => return '\x08'
  | 't' => return '\t'
  | 'n' => return '\n'
  | 'f' => return '\x0c'
  | 'r' => return '\r'
  | '"' => return '"'
  | '\\' => return '\\'
  | 'u' => codeEscape 4
  | 'U' => codeEscape 8
  | _ => failure

/-- A text between double quotes, on one line. -/
def basicText : Reader (List Char) := do
  char '"'
  let cs ← many (satisfy isBasicChar <|> (do char '\\'; escape))
  char '"'
  return cs

/-- A text between single quotes, on one line, without escapes. -/
def literalText : Reader (List Char) := do
  char '\''
  let cs ← takeWhile isLiteralChar
  char '\''
  return cs

/-- A backslash at the end of a line, with all blanks and line ends after it. -/
def lineContinuation : Reader Unit := do
  char '\\'
  let _ ← takeWhile isSpace
  newline
  let _ ← many ((do let _ ← satisfy isSpace) <|> newline)

/-- The quotes at the end of a text over several lines: three that end it, after up to two that
belong to it. -/
def closingQuotes (quote : Char) : Reader (List Char) := do
  let quotes ← takeWhile (· == quote)
  guard (3 ≤ quotes.length && quotes.length ≤ 5)
  return quotes.drop 3

/-- One or two quotes inside a text over several lines, with something else after them. -/
def innerQuotes (quote : Char) : Reader (List Char) := do
  let quotes ← takeWhile1 (· == quote)
  guard (quotes.length ≤ 2 && !(← get).isEmpty)
  return quotes

/-- A text over several lines between three double quotes. A line end directly after the opening is
left out, and every other one reads as a line feed. -/
def basicLines : Reader (List Char) := do
  literal "\"\"\""
  let _ ← optional newline
  let parts ← many <|
    (List.singleton <$> satisfy isBasicChar)
      <|> (do newline; return ['\n'])
      <|> (do lineContinuation; return [])
      <|> (do char '\\'; List.singleton <$> escape)
      <|> innerQuotes '"'
  let rest ← closingQuotes '"'
  return parts.flatten ++ rest

/-- A text over several lines between three single quotes. -/
def literalLines : Reader (List Char) := do
  literal "'''"
  let _ ← optional newline
  let parts ← many <|
    takeWhile1 isLiteralChar
      <|> (do newline; return ['\n'])
      <|> innerQuotes '\''
  let rest ← closingQuotes '\''
  return parts.flatten ++ rest

/-- A text in any spelling. -/
def text : Reader (List Char) :=
  basicLines <|> literalLines <|> basicText <|> literalText

/-- Digits in a base; underscores may stand between two of them. -/
def digits (base : Nat) : Reader (List Char) := do
  let isDigit := fun c => (digitIn? base c).isSome
  let first ← satisfy isDigit
  let others ← many (satisfy isDigit <|> (do char '_'; satisfy isDigit))
  return first :: others

/-- Decimal digits without a leading zero. -/
def plainDigits : Reader (List Char) := do
  let ds ← digits 10
  guard (ds.length = 1 || ds.head? ≠ some '0')
  return ds

/-- A sign. -/
def sign : Reader Char :=
  satisfy fun c => c = '+' || c = '-'

/-- An integer that fits 64 bits with sign. -/
def integer : Reader Value := do
  let n ← based "0x" 16 <|> based "0o" 8 <|> based "0b" 2 <|> decimal
  guard (-0x8000000000000000 ≤ n && n < 0x8000000000000000)
  return .int n
where
  /-- An integer with a base mark. -/
  based (mark : String) (base : Nat) : Reader Int := do
    literal mark
    return (numberIn base (← digits base) : Int)
  /-- A decimal integer. -/
  decimal : Reader Int := do
    let s ← optional sign
    let n := numberIn 10 (← plainDigits)
    return if s = some '-' then -(n : Int) else n

/-- Whether `mantissa * 10 ^ exponent` is too large for a floating-point number of 64 bits. -/
def isTooLarge (mantissa : Nat) (exponent : Int) : Bool :=
  let bound := Nat.pow 2 1024 - Nat.pow 2 970
  if mantissa = 0 then false
  else match exponent with
    | .ofNat e => 400 < e || bound ≤ mantissa * Nat.pow 10 e
    | .negSucc e => bound ≤ mantissa / Nat.pow 10 (min (e + 1) (Nat.log2 mantissa + 1))

/-- A floating-point number: a fraction, an exponent or both after the digits. -/
def decimalFloat : Reader Value := do
  let _ ← optional sign
  let whole ← plainDigits
  let fraction ← optional (do char '.'; digits 10)
  let exponent ← optional do
    let _ ← satisfy fun c => c = 'e' || c = 'E'
    let s ← optional sign
    let ds ← digits 10
    return if s = some '-' then -(numberIn 10 ds : Int) else numberIn 10 ds
  guard (fraction.isSome || exponent.isSome)
  let places := fraction.getD []
  guard !(isTooLarge (numberIn 10 (whole ++ places)) (exponent.getD 0 - places.length))
  return .float

/-- Infinity or no number. -/
def specialFloat : Reader Value := do
  let _ ← optional sign
  literal "inf" <|> literal "nan"
  return .float

/-- A truth value. -/
def truth : Reader Value :=
  (do literal "true"; return .bool true) <|> (do literal "false"; return .bool false)

/-- A number of exactly `size` digits between two bounds. -/
def fixedDigits (size low high : Nat) : Reader Nat := do
  let ds := (← get).take size
  guard (ds.length = size && ds.all Char.isDigit)
  let n := numberIn 10 ds
  guard (low ≤ n && n ≤ high)
  modify (·.drop size)
  return n

/-- The number of days of a month. -/
def daysIn (year month : Nat) : Nat :=
  if month = 2 then
    if year % 4 = 0 && (year % 100 ≠ 0 || year % 400 = 0) then 29 else 28
  else if month = 4 || month = 6 || month = 9 || month = 11 then 30
  else 31

/-- A day. -/
def date : Reader Unit := do
  let year ← fixedDigits 4 0 9999
  char '-'
  let month ← fixedDigits 2 1 12
  char '-'
  let _ ← fixedDigits 2 1 (daysIn year month)

/-- A time of day. -/
def timeOfDay : Reader Unit := do
  let _ ← fixedDigits 2 0 23
  char ':'
  let _ ← fixedDigits 2 0 59
  char ':'
  let _ ← fixedDigits 2 0 60
  let _ ← optional (do char '.'; takeWhile1 Char.isDigit)

/-- The distance from universal time. -/
def offset : Reader Unit :=
  (do let _ ← satisfy fun c => c = 'Z' || c = 'z')
    <|> do
      let _ ← sign
      let _ ← fixedDigits 2 0 23
      char ':'
      let _ ← fixedDigits 2 0 59

/-- A date, a time of day, or both with or without a distance from universal time. -/
def time : Reader Value := do
  (do
    date
    let _ ← optional do
      let _ ← satisfy fun c => c = 'T' || c = 't' || c = ' '
      timeOfDay
      let _ ← optional offset)
    <|> timeOfDay
  return .time

/-- A scalar value. -/
def scalar : Reader Value :=
  (do let cs ← text; return .text (String.ofList cs))
    <|> truth <|> time <|> decimalFloat <|> specialFloat <|> integer

end VparFleet.Toml
