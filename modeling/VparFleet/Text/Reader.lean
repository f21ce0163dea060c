/-!
# Readers

A reader takes what it can use off the front of a text, or refuses the text. Alternatives start
again from the same place.

* `many`: as many items as there are, one after the other. An item that takes nothing ends the
  repetition, so it always comes to an end.
-/

namespace VparFleet.Text

/-- Reads an `α` off the front of a text, or refuses it. -/
abbrev Reader (α : Type) := StateT (List Char) Option α

namespace Reader

/-- The next character, which stays where it is. -/
def peek? : Reader (Option Char) := do
  return (← get).head?

/-- Takes the next character. -/
def next : Reader Char := fun
  | [] => none
  | c :: cs => some (c, cs)

/-- Takes a character of a class. -/
def satisfy (p : Char → Bool) : Reader Char := fun
  | [] => none
  | c :: cs => if p c then some (c, cs) else none

/-- Takes one given character. -/
def char (c : Char) : Reader Unit := do
  let _ ← satisfy (· == c)

/-- Takes one given text. -/
def literal (s : String) : Reader Unit := fun cs =>
  let part := s.toList
  if part.isPrefixOf cs then some ((), cs.drop part.length) else none

/-- Takes the characters of a class up to the first that is not in it. -/
def takeWhile (p : Char → Bool) : Reader (List Char) := fun cs =>
  some (cs.takeWhile p, cs.dropWhile p)

/-- Takes the characters of a class, one at least. -/
def takeWhile1 (p : Char → Bool) : Reader (List Char) := do
  let cs ← takeWhile p
  guard (!cs.isEmpty)
  return cs

/-- Succeeds at the end of the text only. -/
def atEnd : Reader Unit := do
  guard (← get).isEmpty

/-- The items read from a text, and the text after them. -/
def manyFrom {α : Type} (item : Reader α) (cs : List Char) : List α × List Char :=
  match item.run cs with
  | none => ([], cs)
  | some (a, rest) =>
    if rest.length < cs.length then
      let (as, left) := manyFrom item rest
      (a :: as, left)
    else ([], cs)
termination_by cs.length

/-- Reads items until one is refused or takes nothing. -/
def many {α : Type} (item : Reader α) : Reader (List α) := fun cs =>
  some (manyFrom item cs)

/-- Reads one item and then any number of further ones, each after a separator. -/
def sepBy1 {α : Type} (item : Reader α) (separator : Reader Unit) : Reader (List α) := do
  let first ← item
  let others ← many (do separator; item)
  return first :: others

/-- Reads a whole text. -/
def readAll? {α : Type} (reader : Reader α) (text : List Char) : Option α :=
  match reader.run text with
  | some (a, []) => some a
  | _ => none

end Reader

end VparFleet.Text
