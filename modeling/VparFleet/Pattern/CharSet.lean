import VparFleet.Pattern.CaseFold
import VparFleet.Text.Blank
import VparFleet.Text.Word

/-!
# Character sets

The sets that a pattern can name, as expressions over ranges and tables. `CharSet.has` says which
code points belong to a set.
-/

namespace VparFleet.Pattern

/-- A set of characters. -/
inductive CharSet where
  /-- No character. -/
  | empty
  /-- The code points between two bounds, both included. -/
  | range (low high : Nat)
  /-- The ranges with these sorted boundaries. -/
  | ranges (bounds : List Nat)
  /-- White space. -/
  | blank
  /-- Word characters. -/
  | word
  /-- The characters of either set. -/
  | union (a b : CharSet)
  /-- The characters of both sets. -/
  | inter (a b : CharSet)
  /-- The characters of the first set that are not in the second. -/
  | diff (a b : CharSet)
  /-- The characters that are in one set only. -/
  | symmDiff (a b : CharSet)
  /-- The characters that are not in the set. -/
  | compl (a : CharSet)
  /-- The characters that differ at most in case from one in the set. -/
  | folded (a : CharSet)
  deriving Repr

namespace CharSet

/-- Whether a code point belongs to the set. -/
def has : CharSet → Nat → Bool
  | empty, _ => false
  | range low high, n => low ≤ n && n ≤ high
  | ranges bounds, n => Text.inRanges bounds n
  | blank, n => Text.isBlank (Char.ofNat n)
  | word, n => Text.isWord (Char.ofNat n)
  | union a b, n => a.has n || b.has n
  | inter a b, n => a.has n && b.has n
  | diff a b, n => a.has n && !b.has n
  | symmDiff a b, n => a.has n != b.has n
  | compl a, n => !a.has n
  | folded a, n => (variants n).any a.has

/-- The set of one character. -/
def single (c : Char) : CharSet :=
  range c.toNat c.toNat

/-- The ASCII set of a list of ranges. -/
def ofRanges (pairs : List (Char × Char)) : CharSet :=
  pairs.foldl (fun set (low, high) => union set (range low.toNat high.toNat)) empty

/-- The ASCII digits. -/
def asciiDigit : CharSet := ofRanges [('0', '9')]

/-- The ASCII white space. -/
def asciiBlank : CharSet := ofRanges [('\t', '\r'), (' ', ' ')]

/-- The ASCII word characters. -/
def asciiWord : CharSet := ofRanges [('0', '9'), ('A', 'Z'), ('_', '_'), ('a', 'z')]

/-- The ASCII sets with a name of their own. -/
def named? : String → Option CharSet
  | "alnum" => some (ofRanges [('0', '9'), ('A', 'Z'), ('a', 'z')])
  | "alpha" => some (ofRanges [('A', 'Z'), ('a', 'z')])
  | "ascii" => some (ofRanges [('\x00', '\x7f')])
  | "blank" => some (ofRanges [('\t', '\t'), (' ', ' ')])
  | "cntrl" => some (ofRanges [('\x00', '\x1f'), ('\x7f', '\x7f')])
  | "digit" => some asciiDigit
  | "graph" => some (ofRanges [('!', '~')])
  | "lower" => some (ofRanges [('a', 'z')])
  | "print" => some (ofRanges [(' ', '~')])
  | "punct" => some (ofRanges [('!', '/'), (':', '@'), ('[', '\x60'), ('\x7b', '~')])
  | "space" => some asciiBlank
  | "upper" => some (ofRanges [('A', 'Z')])
  | "word" => some asciiWord
  | "xdigit" => some (ofRanges [('0', '9'), ('A', 'F'), ('a', 'f')])
  | _ => none

/-- Whether the set holds no byte value beyond ASCII. -/
def isAscii (set : CharSet) : Bool :=
  (List.range 128).all fun n => !set.has (128 + n)

end CharSet

end VparFleet.Pattern
