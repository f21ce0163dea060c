/-!
# Scanning JSON text

The parts of JSON text that every reader needs: blanks, literals, texts, numbers, and passing over
a value of any form.

* `Problem`: what can be wrong with a text, and the only thing that a reader says about it.
* `Scan.iterate`: a loop of steps that each take something, so it comes to an end.
* `Scan.skipValue`: passes over any value, however deep.
-/

namespace VparFleet.Json

/-- Why a text was refused. The first problem in the order of the text counts. -/
inductive Problem where
  /-- The text is no JSON, or goes on after the value. -/
  | malformed
  /-- The text ends too early. -/
  | truncated
  /-- The text is JSON of another form than asked for. -/
  | mismatch
  deriving DecidableEq, Repr

/-- Takes an `α` off the front of a text, or finds a problem. -/
abbrev Scan (α : Type) := StateT (List Char) (Except Problem) α

namespace Scan

/-- Whether a character may stand between the parts of a JSON text. -/
def isSpace (c : Char) : Bool :=
  c = ' ' || c = '\n' || c = '\t' || c = '\r'

/-- Passes over blanks and looks at the next character. -/
def peek? : Scan (Option Char) := do
  modify (·.dropWhile isSpace)
  return (← get).head?

/-- Passes over blanks and looks at the next character, which must be there. -/
def peek : Scan Char := do
  match ← peek? with
  | some c => return c
  | none => throw .truncated

/-- Takes the next character, whatever it is. -/
def skipOne : Scan Unit :=
  modify (·.drop 1)

/-- Takes one given character, after blanks. -/
def expect (c : Char) : Scan Unit := do
  if (← peek) = c then skipOne else throw .malformed

/-- Takes the given characters. -/
def literal (expected : List Char) : Scan Unit :=
  expected.forM fun c => do
    match ← get with
    | [] => throw .truncated
    | found :: _ => if found = c then skipOne else throw .malformed

/-- Repeats a step until it gives an answer. A step that takes nothing refuses the text. -/
def iterate {σ α : Type} (step : σ → Scan (σ ⊕ α)) (state : σ) : Scan α := fun text =>
  match step state text with
  | .error problem => .error problem
  | .ok (.inr a, rest) => .ok (a, rest)
  | .ok (.inl state, rest) =>
    if rest.length < text.length then iterate step state rest else .error .malformed
termination_by text => text.length

/-! ## Texts -/

/-- The value of a hexadecimal digit. -/
def hexDigit? (c : Char) : Option Nat :=
  if '0' ≤ c && c ≤ '9' then some (c.toNat - 48)
  else if 'a' ≤ c && c ≤ 'f' then some (c.toNat - 87)
  else if 'A' ≤ c && c ≤ 'F' then some (c.toNat - 55)
  else none

/-- Takes the four digits of an escaped code unit. Text that has no room for four digits is
truncated, whatever it holds. -/
def codeUnit : Scan Nat := do
  let digits := (← get).take 4
  if digits.foldl (· + ·.utf8Size) 0 < 4 then throw .truncated
  match digits.mapM hexDigit? with
  | some ds =>
    set ((← get).drop 4)
    return ds.foldl (fun n d => n * 16 + d) 0
  | none => throw .malformed

/-- The characters that short escapes stand for. -/
def shortEscapes : List (Char × Char) :=
  [('"', '"'), ('\\', '\\'), ('/', '/'), ('b', '\x08'), ('f', '\x0c'), ('n', '\n'), ('r', '\r'),
    ('t', '\t')]

/-- The character that two code units of a surrogate pair stand for. -/
def pairChar (high low : Nat) : Char :=
  Char.ofNat (0x10000 + (high - 0xD800) * 0x400 + (low - 0xDC00))

/-- Takes an escaped character, after its backslash. Code units outside of pairs must be characters,
unless the text is only passed over. -/
def escaped (passing : Bool) : Scan Char := do
  match ← get with
  | [] => throw .truncated
  | 'u' :: rest =>
    set rest
    let unit ← codeUnit
    if passing then return '\uFFFD'
    if 0xDC00 ≤ unit && unit ≤ 0xDFFF then throw .malformed
    if unit < 0xD800 || 0xDBFF < unit then return Char.ofNat unit
    literal ['\\', 'u']
    let low ← codeUnit
    if 0xDC00 ≤ low && low ≤ 0xDFFF then return pairChar unit low else throw .malformed
  | c :: rest =>
    match shortEscapes.lookup c with
    | some char =>
      set rest
      return char
    | none => throw .malformed

/-- Takes a text after its opening quote, up to and with the closing one. -/
def textBody (passing : Bool) : Scan (List Char) :=
  iterate (fun (got : List Char) => do
    match ← get with
    | [] => throw .truncated
    | '"' :: rest =>
      set rest
      return .inr got.reverse
    | '\\' :: rest =>
      set rest
      return .inl ((← escaped passing) :: got)
    | c :: rest =>
      if c.toNat < 0x20 then throw .malformed
      set rest
      return .inl (c :: got)) []

/-! ## Numbers -/

/-- Takes the digits at the front of the text. -/
def digits : Scan (List Char) := do
  let text ← get
  set (text.dropWhile Char.isDigit)
  return text.takeWhile Char.isDigit

/-- Takes one digit at least. When the text ends instead, that is the given problem. -/
def digits1 (atEnd : Problem) : Scan (List Char) := do
  let ds ← digits
  if ds.isEmpty then throw (if (← get).isEmpty then atEnd else .malformed)
  return ds

/-- A number as written. -/
structure Written where
  /-- Whether there is a minus sign. -/
  negative : Bool
  /-- The digits before the point. -/
  whole : List Char
  /-- The digits after the point, if there is one. -/
  fraction : Option (List Char)
  /-- The exponent, if there is one. -/
  exponent : Option Int

/-- The value of a run of digits. -/
def natOf (ds : List Char) : Nat :=
  ds.foldl (fun n c => n * 10 + (c.toNat - 48)) 0

/-- Takes an exponent after its letter. -/
def exponentBody (atEnd : Problem) : Scan Int := do
  match ← get with
  | '-' :: rest =>
    set rest
    return -(natOf (← digits1 atEnd) : Int)
  | '+' :: rest =>
    set rest
    return natOf (← digits1 atEnd)
  | _ => return natOf (← digits1 atEnd)

/-- Takes a number. A number that starts with zero has no further digit before the point. -/
def written (atEnd : Problem) : Scan Written := do
  let negative := (← get).head? = some '-'
  if negative then skipOne
  let whole ← digits1 atEnd
  if whole.head? = some '0' && whole.length ≠ 1 then throw .malformed
  let mut fraction := none
  if (← get).head? = some '.' then
    skipOne
    fraction := some (← digits1 atEnd)
  let mut exponent := none
  if (← get).head? = some 'e' || (← get).head? = some 'E' then
    skipOne
    exponent := some (← exponentBody atEnd)
  return { negative, whole, fraction, exponent }

/-- The least value that is no finite binary number of 64 bits any more. -/
def hugeBound : Nat := Nat.pow 2 1024 - Nat.pow 2 970

/-- Whether a number is too large for a binary number of 64 bits. -/
def Written.isHuge (number : Written) : Bool :=
  let fraction := number.fraction.getD []
  let digits := (number.whole ++ fraction).dropWhile (· == '0')
  let exponent := number.exponent.getD 0 - fraction.length
  if digits.isEmpty then false
  else if digits.length + exponent > 310 then true
  else if digits.length + exponent < 300 then false
  else if exponent < 0 then hugeBound * Nat.pow 10 exponent.natAbs ≤ natOf digits
  else hugeBound ≤ natOf digits * Nat.pow 10 exponent.natAbs

/-- The value of a number that is written as a natural number. Minus zero is none. -/
def Written.nat? (number : Written) : Option Nat :=
  if number.negative || number.fraction.isSome || number.exponent.isSome then none
  else some (natOf number.whole)

/-- Takes a number; one that is too large is no number. -/
def number : Scan (Option Nat) := do
  let found ← written .truncated
  if found.isHuge then throw .malformed
  return found.nat?

/-! ## Values -/

/-- Takes a value that has another form than asked for, as far as it has to be read to be sure that
it is one. -/
def mismatched {α : Type} : Scan α := do
  match ← get with
  | 'n' :: _ => literal "null".toList
  | 't' :: _ => literal "true".toList
  | 'f' :: _ => literal "false".toList
  | '"' :: rest =>
    set rest
    let _ ← textBody false
  | '[' :: _ => pure ()
  | '\x7b' :: _ => pure ()
  | c :: _ =>
    if c = '-' || c.isDigit then
      let _ ← number
    else throw .malformed
  | [] => throw .malformed
  throw .mismatch

/-- Passes over a text, a number, a truth value or null. -/
def skipScalar : Scan Unit := do
  match ← get with
  | 'n' :: _ => literal "null".toList
  | 't' :: _ => literal "true".toList
  | 'f' :: _ => literal "false".toList
  | '"' :: rest =>
    set rest
    let _ ← textBody true
  | c :: _ =>
    if c = '-' || c.isDigit then
      let _ ← written .malformed
    else throw .malformed
  | [] => throw .malformed

/-- Passes over the key of a member and its colon. -/
def skipKey : Scan Unit := do
  expect '"'
  let _ ← textBody true
  expect ':'

/-- What a value stands in. -/
inductive Frame where
  | list
  | object
  deriving DecidableEq

/-- The character that ends a list or an object. -/
def Frame.closing : Frame → Char
  | list => ']'
  | object => '\x7d'

/-- Ends a value: either what it stands in goes on, or it was the outermost one. -/
def afterValue : List Frame → (List Frame × Bool) ⊕ Unit
  | [] => .inr ()
  | frame :: frames => .inl (frame :: frames, false)

/-- Opens a list or an object. -/
def skipOpening (frame : Frame) (frames : List Frame) : Scan ((List Frame × Bool) ⊕ Unit) := do
  skipOne
  if (← peek) = frame.closing then
    skipOne
    return afterValue frames
  if frame = .object then skipKey
  return .inl (frame :: frames, true)

/-- One step over a value. The state is what the value stands in, the innermost first, and whether a
value comes next. -/
def skipStep : List Frame × Bool → Scan ((List Frame × Bool) ⊕ Unit)
  | (frames, true) => do
    match ← peek with
    | '[' => skipOpening .list frames
    | '\x7b' => skipOpening .object frames
    | _ =>
      skipScalar
      return afterValue frames
  | (frame :: frames, false) => do
    let c ← peek
    if c = ',' then
      skipOne
      if frame = .object then skipKey
      return .inl (frame :: frames, true)
    else if c = frame.closing then
      skipOne
      return afterValue frames
    else throw .malformed
  | ([], false) => return .inr ()

/-- Passes over a value of any form. -/
def skipValue : Scan Unit :=
  iterate skipStep ([], true)

end Scan

end VparFleet.Json
