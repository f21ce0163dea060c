/-!
# Reading UTF-8 as it arrives

Bytes from a host may be cut anywhere, also inside a character, and may be no UTF-8 at all.

* `front`: what the first bytes are: a whole character, a faulty part, or the start of a character
  whose rest has not arrived.
* `decode`: the characters read so far and the bytes that still wait. Each maximal faulty part
  becomes one U+FFFD.
* `decodeAll`: the same when nothing more will arrive, so an unfinished character is faulty too.
-/

namespace VparFleet.Text.Utf8

/-- The character that stands for bytes that cannot be read. -/
def replacement : Char := '\uFFFD'

/-- What the front of a byte string is. -/
inductive Front where
  /-- There is nothing left. -/
  | nothing
  /-- A whole character, and the bytes after it. -/
  | whole (c : Char) (rest : List UInt8)
  /-- A part that no later byte can complete, and the bytes after it. -/
  | faulty (rest : List UInt8)
  /-- The start of a character; the bytes that complete it have not arrived. -/
  | unfinished

/-- Whether a byte continues a character. -/
def isTail (b : UInt8) : Bool :=
  0x80 ≤ b && b ≤ 0xBF

/-- The number of bytes that a character with this first byte has, and the bounds of its second
byte. The bounds leave out overlong forms, surrogates and values above U+10FFFF. -/
def lead? (b : UInt8) : Option (Nat × UInt8 × UInt8) :=
  if 0xC2 ≤ b && b ≤ 0xDF then some (2, 0x80, 0xBF)
  else if b == 0xE0 then some (3, 0xA0, 0xBF)
  else if b == 0xED then some (3, 0x80, 0x9F)
  else if 0xE1 ≤ b && b ≤ 0xEF then some (3, 0x80, 0xBF)
  else if b == 0xF0 then some (4, 0x90, 0xBF)
  else if 0xF1 ≤ b && b ≤ 0xF3 then some (4, 0x80, 0xBF)
  else if b == 0xF4 then some (4, 0x80, 0x8F)
  else none

/-- The code point of a character of two, three or four bytes. -/
def codePoint (b : UInt8) (tail : List UInt8) : Nat :=
  let head := match tail.length with
    | 1 => b.toNat % 0x20
    | 2 => b.toNat % 0x10
    | _ => b.toNat % 0x08
  tail.foldl (fun n t => n * 0x40 + t.toNat % 0x40) head

/-- Reads the bytes that follow the second one: `need` of them, after those in `got`. -/
def finish (b : UInt8) (got : List UInt8) : Nat → List UInt8 → Front
  | 0, rest => .whole (Char.ofNat (codePoint b got)) rest
  | _ + 1, [] => .unfinished
  | need + 1, t :: rest =>
    if isTail t then finish b (got ++ [t]) need rest else .faulty (t :: rest)

/-- Splits the first character, or the first faulty part, off a byte string. -/
def front : List UInt8 → Front
  | [] => .nothing
  | b :: rest =>
    if b < 0x80 then .whole (Char.ofNat b.toNat) rest
    else match lead? b with
      | none => .faulty rest
      | some (size, low, high) =>
        match rest with
        | [] => .unfinished
        | s :: rest' =>
          if low ≤ s && s ≤ high then finish b [s] (size - 2) rest' else .faulty (s :: rest')

/-- What is left after the front. -/
def Front.rest : Front → List UInt8
  | .whole _ rest => rest
  | .faulty rest => rest
  | .nothing => []
  | .unfinished => []

/-- Going on in a sequence never gives bytes back. -/
theorem finish_rest_le (b : UInt8) (got : List UInt8) (need : Nat) (bytes : List UInt8) :
    (finish b got need bytes).rest.length ≤ bytes.length := by
  induction need generalizing got bytes with
  | zero => simp [finish, Front.rest]
  | succ need ih =>
    cases bytes with
    | nil => simp [finish, Front.rest]
    | cons t rest =>
      simp only [finish]
      split
      · exact Nat.le_succ_of_le (ih _ _)
      · simp [Front.rest]

/-- The front of some bytes takes at least the first of them. -/
theorem front_rest_lt (b : UInt8) (bytes : List UInt8) :
    (front (b :: bytes)).rest.length ≤ bytes.length := by
  simp only [front]
  split
  · simp [Front.rest]
  · split
    · simp [Front.rest]
    · cases bytes with
      | nil => simp [Front.rest]
      | cons s rest =>
        simp only
        split
        · exact Nat.le_succ_of_le (finish_rest_le _ _ _ _)
        · simp [Front.rest]

/-- The characters of a byte string, and the unfinished bytes at its end. -/
def decode : List UInt8 → List Char × List UInt8
  | [] => ([], [])
  | b :: bytes =>
    match _h : front (b :: bytes) with
    | .nothing => ([], [])
    | .unfinished => ([], b :: bytes)
    | .whole c rest => let (cs, left) := decode rest; (c :: cs, left)
    | .faulty rest => let (cs, left) := decode rest; (replacement :: cs, left)
termination_by bytes => bytes.length
decreasing_by
  all_goals
    have := front_rest_lt b bytes
    rw [_h] at this
    simp only [Front.rest, List.length_cons] at this ⊢
    omega

/-- The characters of a byte string to which nothing will be added. -/
def decodeAll (bytes : List UInt8) : List Char :=
  let (cs, left) := decode bytes
  if left.isEmpty then cs else cs ++ [replacement]

/-- The characters of a byte string that is UTF-8 throughout. -/
def decodeStrict? : List UInt8 → Option (List Char)
  | [] => some []
  | b :: bytes =>
    match _h : front (b :: bytes) with
    | .whole c rest => (decodeStrict? rest).map (c :: ·)
    | _ => none
termination_by bytes => bytes.length
decreasing_by
  have := front_rest_lt b bytes
  rw [_h] at this
  simp only [Front.rest, List.length_cons] at this ⊢
  omega

/-- The bytes of a text. -/
def encode (s : String) : List UInt8 :=
  s.toUTF8.toList

end VparFleet.Text.Utf8
