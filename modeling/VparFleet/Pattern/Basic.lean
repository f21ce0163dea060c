import VparFleet.Pattern.CharSet

/-!
# Patterns

The expressions that recognise a prompt, and how they match.

* `Pattern.find?`: the leftmost match; among the matches that start there, the one that comes first
  when alternatives are tried from the left and repetitions prefer more (or fewer, when lazy).
* A repetition never goes round on nothing: an iteration that consumes no character ends it.
-/

namespace VparFleet

namespace Pattern

/-- A place between two characters, as a condition. -/
inductive Place where
  /-- The start of the text. -/
  | textStart
  /-- The end of the text. -/
  | textEnd
  /-- The start of a line. With `returns`, lines may also end at a carriage return. -/
  | lineStart (returns : Bool)
  /-- The end of a line. With `returns`, lines may also end at a carriage return. -/
  | lineEnd (returns : Bool)
  /-- The beginning or end of a word. -/
  | wordEdge (ascii : Bool)
  /-- Neither the beginning nor the end of a word. -/
  | notWordEdge (ascii : Bool)
  /-- The beginning of a word. -/
  | wordStart (ascii : Bool)
  /-- The end of a word. -/
  | wordEnd (ascii : Bool)
  /-- No word character before. -/
  | wordStartHalf (ascii : Bool)
  /-- No word character after. -/
  | wordEndHalf (ascii : Bool)
  deriving DecidableEq, Repr

/-- Whether a character counts as part of a word. -/
def inWord (ascii : Bool) (c : Option Char) : Bool :=
  c.any fun c => if ascii then CharSet.asciiWord.has c.toNat else Text.isWord c

/-- Whether the place between two characters, either of which may be missing, satisfies the
condition. -/
def Place.holds (before after : Option Char) : Place → Bool
  | textStart => before.isNone
  | textEnd => after.isNone
  | lineStart false => before.isNone || before = some '\n'
  | lineStart true =>
    before.isNone || before = some '\n' || (before = some '\r' && after ≠ some '\n')
  | lineEnd false => after.isNone || after = some '\n'
  | lineEnd true =>
    after.isNone || after = some '\r' || (after = some '\n' && before ≠ some '\r')
  | wordEdge ascii => inWord ascii before != inWord ascii after
  | notWordEdge ascii => inWord ascii before == inWord ascii after
  | wordStart ascii => !inWord ascii before && inWord ascii after
  | wordEnd ascii => inWord ascii before && !inWord ascii after
  | wordStartHalf ascii => !inWord ascii before
  | wordEndHalf ascii => !inWord ascii after

end Pattern

/-- A pattern. -/
inductive Pattern where
  /-- Matches nothing, anywhere. -/
  | empty
  /-- Matches one character of a set. -/
  | oneOf (chars : Pattern.CharSet)
  /-- Matches nothing, at a place that satisfies the condition. -/
  | place (place : Pattern.Place)
  /-- Matches one pattern after the other. -/
  | seq (first second : Pattern)
  /-- Matches either pattern, preferably the first. -/
  | alt (first second : Pattern)
  /-- Matches a pattern `least` times at least and, with a bound, at most that often. A greedy
  repetition prefers more iterations. -/
  | rep (body : Pattern) (least : Nat) (most : Option Nat) (greedy : Bool)
  deriving Repr

namespace Pattern

/-- A place in a text: the characters before it, the nearest first, and those after it. -/
structure Cursor where
  /-- The characters before, the nearest first. -/
  before : List Char
  /-- The characters after. -/
  after : List Char

/-- Moves over one character. -/
def Cursor.next? (cursor : Cursor) : Option (Char × Cursor) :=
  match cursor.after with
  | [] => none
  | c :: rest => some (c, ⟨c :: cursor.before, rest⟩)

/-- What is tried after a match, with the place where the match ended. -/
abbrev Continuation := Cursor → Option Cursor

/-- Tries the first, then the second; a lazy choice tries them the other way round. -/
def prefer (greedy : Bool) (first second : Unit → Option Cursor) : Option Cursor :=
  if greedy then first () <|> second () else second () <|> first ()

/-- Further iterations of a body that may be repeated without bound. An iteration that consumes
nothing is not followed. -/
def loop (body : Cursor → Continuation → Option Cursor) (greedy : Bool) (k : Continuation)
    (cursor : Cursor) : Option Cursor :=
  prefer greedy
    (fun _ => body cursor fun reached =>
      if reached.after.length < cursor.after.length then loop body greedy k reached else none)
    (fun _ => k cursor)
termination_by cursor.after.length

/-- One iteration at least. Only the very first may consume nothing. -/
def loop1 (body : Cursor → Continuation → Option Cursor) (greedy : Bool) (k : Continuation)
    (cursor : Cursor) : Option Cursor :=
  body cursor fun reached =>
    if reached.after.length < cursor.after.length then loop body greedy k reached else k reached

/-- Exactly `n` iterations. -/
def times (body : Cursor → Continuation → Option Cursor) (k : Continuation) :
    Nat → Cursor → Option Cursor
  | 0, cursor => k cursor
  | n + 1, cursor => body cursor (times body k n)

/-- At most `n` iterations. -/
def upTo (body : Cursor → Continuation → Option Cursor) (greedy : Bool) (k : Continuation) :
    Nat → Cursor → Option Cursor
  | 0, cursor => k cursor
  | n + 1, cursor =>
    prefer greedy (fun _ => body cursor (upTo body greedy k n)) (fun _ => k cursor)

/-- Matches at a place, then goes on; the first way that succeeds as a whole counts. -/
def matchAt : Pattern → Cursor → Continuation → Option Cursor
  | empty, cursor, k => k cursor
  | oneOf chars, cursor, k =>
    match cursor.next? with
    | none => none
    | some (c, moved) => if chars.has c.toNat then k moved else none
  | place p, cursor, k =>
    if p.holds cursor.before.head? cursor.after.head? then k cursor else none
  | seq first second, cursor, k => first.matchAt cursor fun reached => second.matchAt reached k
  | alt first second, cursor, k => first.matchAt cursor k <|> second.matchAt cursor k
  | rep body least (some most) greedy, cursor, k =>
    times body.matchAt (upTo body.matchAt greedy k (most - least)) least cursor
  | rep body 0 none greedy, cursor, k =>
    prefer greedy (fun _ => loop1 body.matchAt greedy k cursor) (fun _ => k cursor)
  | rep body (least + 1) none greedy, cursor, k =>
    times body.matchAt (loop1 body.matchAt greedy k) least cursor

/-- A match in a text: what stands before it, what it covers and what stands after it. -/
structure Match where
  before : List Char
  /-- The text matched. -/
  found : List Char
  after : List Char
  deriving DecidableEq, Repr

/-- The first match that starts at a place or after it. -/
def findFrom (pattern : Pattern) (before : List Char) : List Char → Option Match
  | [] => (pattern.matchAt ⟨before, []⟩ some).map fun _ => ⟨before.reverse, [], []⟩
  | c :: cs =>
    match pattern.matchAt ⟨before, c :: cs⟩ some with
    | some reached =>
      some ⟨before.reverse, (c :: cs).take ((c :: cs).length - reached.after.length),
        reached.after⟩
    | none => findFrom pattern (c :: before) cs

/-- The leftmost match in a text. -/
def find? (pattern : Pattern) (text : List Char) : Option Match :=
  pattern.findFrom [] text

end Pattern

end VparFleet
