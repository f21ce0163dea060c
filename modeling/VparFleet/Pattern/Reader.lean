import VparFleet.Pattern.Basic
import VparFleet.Pattern.Category
import VparFleet.Pattern.Property
import VparFleet.Pattern.Script
import VparFleet.Text.Decimal

/-!
# Reading patterns

The written form of patterns: literals, classes in brackets with set operations, groups,
alternatives, repetitions, escapes and flags. Look-around and back references are no part of it.

A pattern is refused when it is nested too deep or would take too much room, see `nestLimit` and
`sizeLimit`.

* `Pattern.read?`: the pattern that a text writes, if it writes one.
-/

namespace VparFleet.Pattern

/-- The switches that change how the text after them reads. -/
structure Flags where
  /-- Characters match those that differ in case only. -/
  ignoreCase : Bool := false
  /-- `^` and `$` match at every line. -/
  multiLine : Bool := false
  /-- `.` matches a line feed. -/
  dotAll : Bool := false
  /-- Plain repetitions are lazy, and those with a question mark greedy. -/
  swapGreed : Bool := false
  /-- Classes and letters are those of Unicode. -/
  unicode : Bool := true
  /-- Lines may end at a carriage return. -/
  returns : Bool := false
  /-- Blanks and comments are no part of the pattern. -/
  extended : Bool := false

/-- What is left of the text, and what holds for it. -/
structure State where
  /-- The text not read yet. -/
  rest : List Char
  /-- The flags in effect. -/
  flags : Flags
  /-- The names of the groups so far. -/
  names : List String

/-- Reads a part of a pattern, or refuses it. -/
abbrev Reading (α : Type) := StateT State Option α

namespace Reading

/-- The next character, which stays where it is. -/
def peek? : Reading (Option Char) := do
  return (← get).rest.head?

/-- Passes over the next character. -/
def skip : Reading Unit :=
  modify fun s => { s with rest := s.rest.drop 1 }

/-- Takes the next character. -/
def next : Reading Char := do
  match ← peek? with
  | some c => skip; return c
  | none => failure

/-- Passes over a text if it stands next. -/
def skipIf (part : String) : Reading Bool := do
  let s ← get
  if part.toList.isPrefixOf s.rest then
    set { s with rest := s.rest.drop part.length }
    return true
  else return false

/-- Takes one given character. -/
def expect (c : Char) : Reading Unit := do
  guard ((← next) == c)

/-- The text after the blanks and comments at its front. -/
def afterBlanks : List Char → List Char
  | [] => []
  | c :: cs =>
    if Text.isBlank c then afterBlanks cs
    else if c = '#' then afterComment cs
    else c :: cs
where
  /-- The same, inside a comment. -/
  afterComment : List Char → List Char
    | [] => []
    | c :: cs => if c = '\n' then afterBlanks cs else afterComment cs

/-- Passes over blanks and comments where they are no part of the pattern. -/
def skipBlanks : Reading Unit :=
  modify fun s => if s.flags.extended then { s with rest := afterBlanks s.rest } else s

/-- Passes over the next character and what is no part of the pattern after it; something must be
left. -/
def skipInside : Reading Unit := do
  skip
  skipBlanks
  guard !(← get).rest.isEmpty

/-- The items read from a state, and the state after them. -/
def manyFrom {α : Type} (item : Reading (Option α)) (s : State) : Option (List α × State) :=
  match item.run s with
  | none => none
  | some (none, left) => some ([], left)
  | some (some a, left) =>
    if left.rest.length < s.rest.length then
      (manyFrom item left).map fun (as, last) => (a :: as, last)
    else none
termination_by s.rest.length

/-- Reads items up to the one that says there is no further. -/
def many {α : Type} (item : Reading (Option α)) : Reading (List α) :=
  manyFrom item

/-- Takes characters of a class. -/
def takeWhile (p : Char → Bool) : Reading (List Char) := do
  let s ← get
  set { s with rest := s.rest.dropWhile p }
  return s.rest.takeWhile p

end Reading

open Reading

/-- A part of a pattern together with the depth to which it is nested. -/
structure Part where
  pattern : Pattern
  /-- How deep it is nested. -/
  depth : Nat

/-- The greatest depth to which a pattern may be nested. -/
def nestLimit : Nat := 250

/-! ## Escapes -/

/-- What an escape or a plain character stands for. -/
inductive Primitive where
  /-- A character. -/
  | char (c : Char)
  /-- A byte, given by two hexadecimal digits. -/
  | byte (n : Nat)
  | place (p : Place)
  /-- A set of characters. -/
  | set (chars : CharSet)

/-- Whether a character has a meaning of its own somewhere in a pattern. -/
def isMeta (c : Char) : Bool :=
  "\\.+*?()|[]\x7b\x7d^$#&-~".toList.contains c

/-- Whether a backslash in front of a character leaves it as it is. -/
def isEscapable (c : Char) : Bool :=
  isMeta c || (c.toNat < 0x80 && !c.isAlphanum && c ≠ '<' && c ≠ '>')

/-- Whether a character is a hexadecimal digit. -/
def isHex (c : Char) : Bool :=
  c.isDigit || ('a' ≤ c && c ≤ 'f') || ('A' ≤ c && c ≤ 'F')

/-- The number that hexadecimal digits write. -/
def hexNumber (digits : List Char) : Nat :=
  digits.foldl (fun n c =>
    n * 16 + if c.isDigit then c.toNat - 48 else (c.toNat ||| 0x20) - 87) 0

/-- The character with a code point, if there is one. -/
def charAt? (n : Nat) : Option Char :=
  if n < 0xD800 || (0xE000 ≤ n && n < 0x110000) then some (Char.ofNat n) else none

/-- A code point of a fixed number of digits, or of any number in braces. The letter before it has
been looked at but not taken. -/
def hexEscape (size : Nat) : Reading Primitive := do
  skipInside
  if (← peek?) = some '\x7b' then
    let digits ← many do
      skipInside
      let c ← peek?
      if c = some '\x7d' then return none
      else
        guard (c.any isHex)
        return c
    skip
    skipBlanks
    guard (!digits.isEmpty)
    let n := hexNumber digits
    return .char (← StateT.lift (charAt? n))
  else
    let digits ← hexDigits size
    skipBlanks
    let n := hexNumber digits
    if size = 2 then return .byte n else return .char (← StateT.lift (charAt? n))
where
  /-- Exactly `n` digits. -/
  hexDigits : Nat → Reading (List Char)
    | 0 => return []
    | n + 1 => do
      let c ← next
      guard (isHex c)
      if n = 0 then return [c]
      skipBlanks
      return c :: (← hexDigits n)

/-- Property names are compared without case, blanks, underscores, hyphens and a leading `is`. -/
def normalName (name : List Char) : String :=
  let plain := (name.filter fun c => c.toNat < 0x80 && !Text.isBlank c && c ≠ '_' && c ≠ '-').map
    Char.toLower
  let bare := if "is".toList.isPrefixOf plain && plain ≠ "isc".toList then plain.drop 2 else plain
  String.ofList bare

/-- The general category, or the union of some, with a name. -/
def category? (name : String) : Option CharSet :=
  if name = "any" then some (.range 0 0x10FFFF)
  else if name = "ascii" then some (.range 0 0x7F)
  else if name = "assigned" then
    (PackedSet.find? categories "cn").map fun bounds => .compl (.ranges bounds)
  else match categoryGroups.find? (·.1.contains name) with
    | some (_, parts) =>
      some ((parts.filterMap (PackedSet.find? categories)).foldl
        (fun set bounds => .union set (.ranges bounds)) .empty)
    | none => (PackedSet.find? categories name).map .ranges

/-- The script with a name. -/
def script? (name : String) : Option CharSet :=
  (PackedSet.find? scripts name).map .ranges

/-- The property, general category or script with a name, in this order. Three short names mean a
general category although a property has the same one. -/
def property? (name : String) : Option CharSet :=
  let binary :=
    if name = "cf" || name = "sc" || name = "lc" then none
    else (PackedSet.find? properties name).map CharSet.ranges
  binary <|> category? name <|> script? name

/-- The set that a property and one of its values name. -/
def propertyValue? (property value : String) : Option CharSet :=
  match property with
  | "gc" | "generalcategory" => category? value
  | "sc" | "script" | "scx" | "scriptextensions" => script? value
  | _ => none

/-- Takes case and negation into account, and makes sure that a set of bytes is one of
characters. -/
def finishSet (negated : Bool) (chars : CharSet) : Reading CharSet := do
  let flags := (← get).flags
  let folded := if flags.ignoreCase then .folded chars else chars
  let done := if negated then .compl folded else folded
  guard (flags.unicode || done.isAscii)
  return done

/-- A property class. The letter before it has been looked at but not taken. -/
def propertyEscape (negated : Bool) : Reading Primitive := do
  skipInside
  let c ← next
  let (chars, flip) ← if c = '\x7b' then do
      let name ← takeWhile (· != '\x7d')
      expect '\x7d'
      StateT.lift (braced? name)
    else do
      guard (c != '\\')
      skipBlanks
      let chars ← StateT.lift (property? (normalName [c]))
      pure (chars, false)
  guard (← get).flags.unicode
  return .set (← finishSet (negated != flip) chars)
where
  /-- The set that the text in braces names, and whether it names the rest. -/
  braced? (name : List Char) : Option (CharSet × Bool) :=
    match splitPair? name with
    | some (property, value, differs) =>
      (propertyValue? (normalName property) (normalName value)).map (·, differs)
    | none => (property? (normalName name)).map (·, false)
  /-- A property and a value around `!=`, `:` or `=`. -/
  splitPair? (name : List Char) : Option (List Char × List Char × Bool) :=
    match splitAtPart? ['!', '='] name with
    | some (property, value) => some (property, value, true)
    | none =>
      match splitAtPart? [':'] name with
      | some (property, value) => some (property, value, false)
      | none => (splitAtPart? ['='] name).map fun (property, value) => (property, value, false)
  /-- The text before and after a part. -/
  splitAtPart? (part : List Char) : List Char → Option (List Char × List Char)
    | [] => none
    | c :: cs =>
      if part.isPrefixOf (c :: cs) then some ([], (c :: cs).drop part.length)
      else (splitAtPart? part cs).map fun (before, after) => (c :: before, after)

/-- The digit, blank and word classes and their complements. -/
def letterClass (c : Char) : Reading CharSet := do
  let unicode := (← get).flags.unicode
  let digits ← StateT.lift (PackedSet.find? categories "nd")
  let chars := match c.toLower with
    | 'd' => if unicode then .ranges digits else .asciiDigit
    | 's' => if unicode then .blank else .asciiBlank
    | _ => if unicode then .word else .asciiWord
  let done := if c.isUpper then .compl chars else chars
  guard (unicode || done.isAscii)
  return done

/-- The word place in braces after `\b`, if what stands in the braces is no repetition count. -/
def bracedPlace? : Reading (Option Place) := do
  let before ← get
  skipInside
  let isLetter := fun (c : Char) => c.isAlpha || c = '-'
  if !(← peek?).any isLetter then
    set before
    return none
  let name ← many do
    skipBlanks
    match ← peek? with
    | some c => if isLetter c then skip; return some c else return none
    | none => return none
  expect '\x7d'
  let ascii := !before.flags.unicode
  match String.ofList name with
  | "start" => return some (.wordStart ascii)
  | "end" => return some (.wordEnd ascii)
  | "start-half" => return some (.wordStartHalf ascii)
  | "end-half" => return some (.wordEndHalf ascii)
  | _ => failure

/-- An escape whose backslash has been taken. -/
def escapePrimitive : Reading Primitive := do
  let ascii := !(← get).flags.unicode
  match ← peek? with
  | none => failure
  | some c =>
    if c.isDigit then failure
    else if c = 'x' then hexEscape 2
    else if c = 'u' then hexEscape 4
    else if c = 'U' then hexEscape 8
    else if c = 'p' || c = 'P' then propertyEscape (c = 'P')
    else
      skip
      if "dswDSW".toList.contains c then return .set (← letterClass c)
      else if isEscapable c then return .char c
      else match c with
        | 'a' => return .char '\x07'
        | 'f' => return .char '\x0c'
        | 't' => return .char '\t'
        | 'n' => return .char '\n'
        | 'r' => return .char '\r'
        | 'v' => return .char '\x0b'
        | 'A' => return .place .textStart
        | 'z' => return .place .textEnd
        | 'B' => return .place (.notWordEdge ascii)
        | '<' => return .place (.wordStart ascii)
        | '>' => return .place (.wordEnd ascii)
        | 'b' =>
          if (← peek?) = some '\x7b' then
            return .place ((← bracedPlace?).getD (.wordEdge ascii))
          else return .place (.wordEdge ascii)
        | _ => failure

/-! ## Classes in brackets -/

/-- The set of one literal inside brackets. Without Unicode only ASCII literals have a place
there. -/
def literalChar : Primitive → Reading Char
  | .char c => do
    guard ((← get).flags.unicode || c.toNat < 0x80)
    return c
  | .byte n => do
    guard ((← get).flags.unicode || n < 0x80)
    return Char.ofNat n
  | _ => failure

/-- A single item of a class: an escape or a plain character. -/
def classPrimitive : Reading Primitive := do
  let c ← next
  if c = '\\' then escapePrimitive else return .char c

/-- An item of a class, or a range between two literals. -/
def classRange : Reading CharSet := do
  let low ← classPrimitive
  skipBlanks
  let rest := (← get).rest
  guard !rest.isEmpty
  let extended := (← get).flags.extended
  let afterDash := if extended then afterBlanks (rest.drop 1) else rest.drop 1
  if rest.head? ≠ some '-' || afterDash.head? = some ']' || afterDash.head? = some '-' then
    match low with
    | .set chars => return chars
    | .place _ => failure
    | other => return .single (← literalChar other)
  else
    skipInside
    let high ← classPrimitive
    let a ← literalChar low
    let b ← literalChar high
    guard (a ≤ b)
    return .range a.toNat b.toNat

/-- An ASCII class such as `[:alpha:]`, if one stands next. -/
def asciiClass? : Reading (Option CharSet) := do
  let before ← get
  match named? before.rest with
  | none => return none
  | some (chars, negated, rest) =>
    set { before with rest }
    return some (← finishSet negated chars)
where
  /-- The class at the front of a text, whether it is negated, and the text after it. -/
  named? : List Char → Option (CharSet × Bool × List Char)
    | '[' :: ':' :: body => do
      let negated := body.head? = some '^'
      let body := if negated then body.drop 1 else body
      let name := body.takeWhile (· != ':')
      let rest := body.drop name.length
      guard (":]".toList.isPrefixOf rest)
      let chars ← CharSet.named? (String.ofList name)
      return (chars, negated, rest.drop 2)
    | _ => none

/-- What comes next inside a class. -/
inductive ClassItem where
  /-- A set that joins the ones before it. -/
  | join (chars : CharSet) (depth : Nat)
  /-- A set operation between all before it and all after it. -/
  | operate (operation : CharSet → CharSet → CharSet)

/-- Applies the set operations of a class from the left. Where case does not matter, it does not
matter for either side. -/
def combine (ignoreCase : Bool) (items : List ClassItem) : CharSet × Nat :=
  let fold := fun (set : CharSet) => if ignoreCase then .folded set else set
  let finish := fun (left : Option ((CharSet → CharSet → CharSet) × CharSet)) (right : CharSet) =>
    match left with
    | none => right
    | some (operation, set) => operation (fold set) (fold right)
  let (left, right, depth, count) := items.foldl
    (fun (left, right, depth, count) item =>
      match item with
      | .join chars d => (left, CharSet.union right chars, max depth d, count + 1)
      | .operate operation => (some (operation, finish left right), .empty, depth + 1, 0))
    (none, CharSet.empty, 0, 0)
  (finish left right, if 1 < count then depth + 1 else depth)

/-- A class in brackets whose opening bracket has been looked at but not taken, nested at most
`limit` deep. -/
def bracketClass : Nat → Reading (CharSet × Nat)
  | 0 => failure
  | limit + 1 => do
    skipInside
    let negated ← skipIf "^"
    if negated then
      skipBlanks
      guard !(← get).rest.isEmpty
    let dashes ← many do
      if (← peek?) = some '-' then
        skipInside
        return some (ClassItem.join (.single '-') 0)
      else return none
    let bracket ← if dashes.isEmpty && (← peek?) = some ']' then do
        skipInside
        pure [ClassItem.join (.single ']') 0]
      else pure []
    let items ← many do
      skipBlanks
      match ← peek? with
      | none => failure
      | some ']' => return none
      | some '[' =>
        match ← asciiClass? with
        | some chars => return some (.join chars 0)
        | none =>
          let (chars, depth) ← bracketClass limit
          return some (.join chars depth)
      | some _ =>
        if ← skipIf "&&" then return some (.operate .inter)
        else if ← skipIf "--" then return some (.operate .diff)
        else if ← skipIf "~~" then return some (.operate .symmDiff)
        else return some (.join (← classRange) 0)
    skip
    let (chars, depth) := combine (← get).flags.ignoreCase (dashes ++ bracket ++ items)
    return (← finishSet negated chars, depth + 1)

/-! ## Groups, repetitions and alternatives -/

/-- Whether a character may stand in the name of a group. -/
def isGroupNameChar (first : Bool) (c : Char) : Bool :=
  if first then c = '_' || (Text.isWord c && !c.isDigit)
  else c = '_' || c = '.' || c = '[' || c = ']' || Text.isWord c

/-- The name of a group, up to and with its closing `>`. No two groups share a name. -/
def groupName : Reading Unit := do
  let name ← takeWhile (· != '>')
  expect '>'
  match name with
  | [] => failure
  | c :: cs =>
    guard (isGroupNameChar true c && cs.all (isGroupNameChar false))
    let s ← get
    guard !(s.names.contains (String.ofList name))
    set { s with names := String.ofList name :: s.names }

/-- Turns one flag on or off. -/
def setFlag (flags : Flags) (on : Bool) : Char → Option Flags
  | 'i' => some { flags with ignoreCase := on }
  | 'm' => some { flags with multiLine := on }
  | 's' => some { flags with dotAll := on }
  | 'U' => some { flags with swapGreed := on }
  | 'u' => some { flags with unicode := on }
  | 'R' => some { flags with returns := on }
  | 'x' => some { flags with extended := on }
  | _ => none

/-- Flags up to a colon or a closing parenthesis, which stays. No flag may be given twice, only one
hyphen turns the flags after it off, and it must not be the last. -/
def readFlags : Reading (List Char × Flags) := do
  let letters ← takeWhile fun c => c ≠ ':' && c ≠ ')'
  guard (!(← get).rest.isEmpty && letters.Nodup && letters.getLast? ≠ some '-')
  let flags ← StateT.lift <| (letters.foldlM (fun (flags, on) c =>
    if c = '-' then some (flags, false) else (setFlag flags on c).map (·, on))
    ((← get).flags, true))
  return (letters, flags.1)

/-- A decimal number of 32 bits, with blanks around it; none when no digit stands there. -/
def count? : Reading (Option Nat) := do
  let _ ← takeWhile Text.isBlank
  let digits ← many do
    match ← peek? with
    | some c => if c.isDigit then skip; skipBlanks; return some c else return none
    | none => return none
  let _ ← takeWhile Text.isBlank
  if digits.isEmpty then return none
  let n := digits.foldl (fun n c => n * 10 + (c.toNat - 48)) 0
  guard (n < Text.Decimal.word32)
  return some n

/-- The bounds of a repetition in braces. The opening brace has been looked at but not taken. -/
def bounds : Reading (Nat × Option Nat) := do
  skipInside
  let least ← count?
  match ← next with
  | '\x7d' => return (← StateT.lift least, least)
  | ',' =>
    skipBlanks
    if (← peek?) = some '\x7d' then
      skip
      return (← StateT.lift least, none)
    else
      let least ← StateT.lift least
      let most ← StateT.lift (← count?)
      expect '\x7d'
      guard (least ≤ most)
      return (least, some most)
  | _ => failure

/-- The operators that repeat a part. -/
def repetition (part : Part) : Reading (Option Part) := do
  skipBlanks
  let found : Option (Nat × Option Nat) ← match ← peek? with
    | some '?' => do skip; pure (some (0, some 1))
    | some '*' => do skip; pure (some (0, none))
    | some '+' => do skip; pure (some (1, none))
    | some '\x7b' => do
      let b ← bounds
      skipBlanks
      pure (some b)
    | _ => pure none
  match found with
  | none => return none
  | some (least, most) =>
    let lazy ← skipIf "?"
    let greedy := lazy == (← get).flags.swapGreed
    return some ⟨.rep part.pattern least most greedy, part.depth + 1⟩

/-- The pattern of a literal character. -/
def literalPattern (c : Char) : Reading Pattern := do
  let flags := (← get).flags
  if !flags.ignoreCase then return .oneOf (.single c)
  else if flags.unicode then return .oneOf (.folded (.single c))
  else
    let other := if c.isUpper then c.toLower else c.toUpper
    return .oneOf (.union (.single c) (.single other))

/-- The pattern of what an escape stands for. -/
def primitivePattern : Primitive → Reading Pattern
  | .char c => literalPattern c
  | .byte n => do
    guard ((← get).flags.unicode || n < 0x80)
    literalPattern (Char.ofNat n)
  | .place p => return .place p
  | .set chars => return .oneOf chars

/-- The pattern of a point. -/
def dotPattern : Reading Pattern := do
  let flags := (← get).flags
  guard flags.unicode
  if flags.dotAll then return .oneOf (.range 0 0x10FFFF)
  else if flags.returns then return .oneOf (.compl (.union (.single '\n') (.single '\r')))
  else return .oneOf (.compl (.single '\n'))

/-- What comes next in a sequence. -/
inductive Item where
  | part (part : Part)
  /-- Flags for what follows. -/
  | flags

/-- Applies all repetition operators that follow a part. -/
def repeated (part : Part) : Reading Part := do
  let s ← get
  StateT.lift (go s.rest.length part s) >>= fun (part, s) => do
    set s
    return part
where
  /-- The same, for at most `fuel` operators; each takes a character, so there are no more. -/
  go : Nat → Part → State → Option (Part × State)
    | 0, part, s => some (part, s)
    | fuel + 1, part, s =>
      match (repetition part).run s with
      | none => none
      | some (none, s) => some (part, s)
      | some (some part, s) => go fuel part s

/-- Joins the items of a sequence. -/
def sequence (items : List Item) : Part :=
  let parts := items.filterMap fun | .part p => some p | .flags => none
  let depth := (parts.map (·.depth)).foldl max 0
  let pattern := match parts.map (·.pattern) with
    | [] => .empty
    | p :: ps => ps.foldl .seq p
  ⟨pattern, if 1 < items.length then depth + 1 else depth⟩

/-- Joins alternatives. -/
def alternatives (parts : List Part) : Part :=
  match parts with
  | [] => ⟨.empty, 0⟩
  | [part] => part
  | part :: others =>
    ⟨others.foldl (fun pattern other => .alt pattern other.pattern) part.pattern,
      (parts.map (·.depth)).foldl max 0 + 1⟩

/-- The inside of a group and its closing parenthesis; the flags from before hold again after
it. -/
def groupBody (inner : Reading Part) (saved : Flags) : Reading Item := do
  let part ← inner
  expect ')'
  modify ({ · with flags := saved })
  return .part { part with depth := part.depth + 1 }

/-- A group whose parenthesis has been taken, or flags for what follows. -/
def group (inner : Reading Part) : Reading Item := do
  skipBlanks
  for mark in ["?=", "?!", "?<=", "?<!"] do
    guard !(mark.toList.isPrefixOf (← get).rest)
  let saved := (← get).flags
  if (← skipIf "?P<") || (← skipIf "?<") then
    groupName
    groupBody inner saved
  else if ← skipIf "?" then
    let (letters, flags) ← readFlags
    modify ({ · with flags })
    if (← next) = ')' then
      guard !letters.isEmpty
      return .flags
    else groupBody inner saved
  else groupBody inner saved

/-- A single character, escape or place. -/
def single : Reading Pattern := do
  let flags := (← get).flags
  match ← next with
  | '\\' => primitivePattern (← escapePrimitive)
  | '.' => dotPattern
  | '^' => return .place (if flags.multiLine then .lineStart flags.returns else .textStart)
  | '$' => return .place (if flags.multiLine then .lineEnd flags.returns else .textEnd)
  | c => literalPattern c

/-- A sequence of parts, up to a bar, the end of the group or the end of the text. A repetition
operator needs a part in front of it. -/
def sequenceOf (inner : Reading Part) : Reading Part := do
  let items ← many do
    skipBlanks
    match ← peek? with
    | none | some '|' | some ')' => return none
    | some '*' | some '+' | some '?' | some '\x7b' => failure
    | some '(' =>
      skip
      match ← group inner with
      | .flags => return some .flags
      | .part part => return some (.part (← repeated part))
    | some '[' =>
      let (chars, depth) ← bracketClass nestLimit
      return some (.part (← repeated ⟨.oneOf chars, depth⟩))
    | some _ => return some (.part (← repeated ⟨← single, 0⟩))
  return sequence items

/-- Alternatives between bars, with groups nested at most `limit` deep. -/
def alternation : Nat → Reading Part
  | 0 => failure
  | limit + 1 => do
    let inner := alternation limit
    let first ← sequenceOf inner
    let others ← many do
      if ← skipIf "|" then return some (← sequenceOf inner) else return none
    return alternatives (first :: others)

/-! ## Limits -/

/-- The room, in bytes, that a compiled pattern may take. -/
def sizeLimit : Nat := 10 * 1024 * 1024

/-- The room that one state of a compiled pattern takes. -/
def stateSize : Nat := 32

/-- The room that a set of characters takes, as an estimate: one state per byte for a single
character and for ASCII sets, and many for sets over all of Unicode. -/
def CharSet.size : CharSet → Nat
  | empty => stateSize
  | range low high =>
    if high < 0x80 then stateSize
    else if low = high then
      stateSize * (if high < 0x800 then 2 else if high < 0x10000 then 3 else 4)
    else stateSize * 12
  | ranges bounds => stateSize * 2 + 20 * bounds.length
  | blank => stateSize * 12
  | word => stateSize * 1500
  | union a b => a.size + b.size
  | inter a b => min a.size b.size
  | diff a _ => a.size
  | symmDiff a b => a.size + b.size
  | compl a => a.size + stateSize * 12
  | folded a => a.size + stateSize

/-- The room that a pattern takes, as an estimate: a repetition takes the room of its body once per
iteration that it counts. -/
def size : Pattern → Nat
  | empty => stateSize
  | oneOf chars => chars.size
  | place _ => stateSize
  | seq first second => first.size + second.size
  | alt first second => first.size + second.size + stateSize
  | rep body least none _ => max 1 least * body.size + 2 * stateSize
  | rep body least (some most) _ => most * body.size + (most - least) * stateSize

/-- The pattern that a text writes. -/
def read? (text : List Char) : Option Pattern :=
  match (alternation nestLimit).run ⟨text, {}, []⟩ with
  | some (part, ⟨[], _, _⟩) =>
    if part.depth ≤ nestLimit && part.pattern.size ≤ sizeLimit then some part.pattern else none
  | _ => none

end VparFleet.Pattern
