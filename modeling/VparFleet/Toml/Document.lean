import VparFleet.Toml.Scalar

/-!
# Reading configuration documents

A document is a sequence of lines: key-value pairs, table headers, comments and blanks. Values may
be nested at most 80 deep.
-/

namespace VparFleet.Toml

open Text (Reader)
open Text.Reader

/-- The greatest depth of nested values, and the greatest length of a dotted key. -/
def depthLimit : Nat := 80

/-- Blanks inside a line. -/
def spaces : Reader Unit := do
  let _ ← takeWhile isSpace

/-- A comment, up to the line end. -/
def comment : Reader Unit := do
  char '#'
  let _ ← takeWhile isCommentChar

/-- Blanks, line ends and comments between the items of an array. -/
def gap : Reader Unit := do
  let _ ← many ((do let _ ← takeWhile1 isSpace) <|> newline <|> do
    comment
    newline)

/-- One part of a key: a bare word, or a text on one line. -/
def simpleKey : Reader String :=
  String.ofList <$> (basicText <|> literalText
    <|> takeWhile1 fun c => c.isAlphanum || c = '_' || c = '-')

/-- A key: its last part, and the parts before it. -/
def key : Reader (List String × String) := do
  let parts ← sepBy1 (do spaces; let k ← simpleKey; spaces; return k) (char '.')
  guard (parts.length < depthLimit)
  match parts.getLast? with
  | some last => return (parts.dropLast, last)
  | none => failure

/-- A value nested at most `depth` deep. -/
def value : Nat → Reader Value
  | 0 => scalar
  | depth + 1 =>
    (do
      char '['
      gap
      let items ← optional (sepBy1
        (do let v ← value depth; gap; return v)
        (do char ','; gap))
      let _ ← optional (do guard items.isSome; char ','; gap)
      char ']'
      return .list (items.getD []))
    <|> (do
      char '\x7b'
      spaces
      let pairs ← optional (sepBy1
        (do
          let (path, last) ← key
          char '='
          spaces
          let v ← value depth
          spaces
          return (path, last, v))
        (do char ','))
      char '\x7d'
      let entries : Entries ← StateT.lift <| (pairs.getD []).foldlM
        (fun entries (path, last, v) => entries.insertAt path last v) []
      return .inline entries)
    <|> scalar

/-- A document that is being read: the tables finished so far, and the table to which key-value
pairs are added now. -/
structure Draft where
  /-- The finished tables. -/
  root : Entries
  /-- The header of the current table and whether it is repeated; none at the start. -/
  header : Option (List String × String × Bool)
  /-- The entries of the current table. -/
  current : Entries

namespace Draft

/-- Puts the current table at its place. -/
def finish (draft : Draft) : Option Entries :=
  match draft.header with
  | none => some draft.current
  | some (path, last, false) => draft.root.closeTable path last draft.current
  | some (path, last, true) => draft.root.closeArray path last draft.current

/-- Goes on with the table of a header. -/
def resume (draft : Draft) (path : List String) (last : String) (repeated : Bool) :
    Option Draft := do
  let root ← draft.finish
  if repeated then
    return ⟨← root.openArray path last, some (path, last, true), []⟩
  else
    let (found, root) ← root.openTable path last
    return ⟨root, some (path, last, false), found⟩

/-- Adds a key-value pair to the current table. -/
def add (draft : Draft) (path : List String) (last : String) (v : Value) : Option Draft := do
  return { draft with current := ← draft.current.insertAt path last v }

end Draft

/-- What one line of a document says. -/
inductive Line where
  /-- Nothing. -/
  | blank
  /-- A key and its value. -/
  | pair (path : List String) (last : String) (v : Value)
  /-- A table header, in single or double brackets. -/
  | header (path : List String) (last : String) (repeated : Bool)

/-- What stands on a line before comment and line end. -/
def lineBody : Reader Line :=
  (do
    literal "[["
    let (path, last) ← key
    literal "]]"
    return .header path last true)
  <|> (do
    char '['
    let (path, last) ← key
    char ']'
    return .header path last false)
  <|> (do
    let (path, last) ← key
    char '='
    spaces
    let v ← value (depthLimit - 1)
    return .pair path last v)
  <|> pure .blank

/-- A line without its line end. -/
def line : Reader Line := do
  spaces
  let body ← lineBody
  spaces
  let _ ← optional comment
  return body

/-- Takes a line into the document. -/
def Draft.take (draft : Draft) : Line → Option Draft
  | .blank => some draft
  | .pair path last v => draft.add path last v
  | .header path last repeated => draft.resume path last repeated

/-- Reads a document. A byte order mark may stand in front. -/
def read? (text : List Char) : Option Entries := do
  let body := if text.head? = some '\uFEFF' then text.drop 1 else text
  let lines ← readAll? (sepBy1 line newline) body
  let draft ← lines.foldlM Draft.take ⟨[], none, []⟩
  draft.finish

end VparFleet.Toml
