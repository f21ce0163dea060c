import VparFleet.Report.Field
import VparFleet.Text.Word

/-!
# The client inventory

The provisioning server lists its clients as elements `<iux:client name="…">`, each with nested
elements `<iux:attr name="…">value</iux:attr>`.

* `nextElement?`: the first element with a tag. Its start tag must carry a name and end at the
  next `>` after it; its body runs to the first end tag.
* `unescape`: reads the five entities.
* `Client.readAll`: all clients, in order.
-/

namespace VparFleet.Report

/-- The text before the first occurrence of `part`, and the text after it. -/
def splitAt? (part : List Char) : List Char → Option (List Char × List Char)
  | [] => if part.isEmpty then some ([], []) else none
  | c :: cs =>
    if part.isPrefixOf (c :: cs) then some ([], (c :: cs).drop part.length)
    else (splitAt? part cs).map fun (before, after) => (c :: before, after)

/-- What is behind a text that was found is no longer than the whole. -/
theorem length_splitAt? {part text before after : List Char}
    (h : splitAt? part text = some (before, after)) : after.length ≤ text.length := by
  induction text generalizing before with
  | nil =>
    simp only [splitAt?] at h
    split at h <;> simp_all
  | cons c cs ih =>
    simp only [splitAt?] at h
    split at h
    · simp only [Option.some.injEq, Prod.mk.injEq] at h
      rw [← h.2, List.length_drop]
      omega
    · simp only [Option.map_eq_some_iff, Prod.mk.injEq, Prod.exists] at h
      obtain ⟨b, a, hs, -, rfl⟩ := h
      exact Nat.le_succ_of_le (ih hs)

/-- The start of a name attribute. -/
def nameMark : List Char := "name=\"".toList

/-- The text after the first name attribute mark inside a start tag, where the mark must begin a
word. The tag ends at the first `>`. -/
def afterNameMark? (before : Option Char) : List Char → Option (List Char)
  | [] => none
  | c :: cs =>
    if nameMark.isPrefixOf (c :: cs) && Text.isWordEdge before (some c) then
      some ((c :: cs).drop nameMark.length)
    else if c = '>' then none
    else afterNameMark? (some c) cs

/-- Looking for a name never goes back. -/
theorem length_afterNameMark? {before : Option Char} {text rest : List Char}
    (h : afterNameMark? before text = some rest) : rest.length ≤ text.length := by
  induction text generalizing before with
  | nil => simp [afterNameMark?] at h
  | cons c cs ih =>
    simp only [afterNameMark?] at h
    split at h
    · simp only [Option.some.injEq] at h
      rw [← h, List.length_drop]
      omega
    · split at h
      · simp at h
      · exact Nat.le_succ_of_le (ih h)

/-- An element: the value of its name attribute and its body, both as written. -/
structure Element where
  /-- The name attribute. -/
  name : List Char
  /-- The text between start and end tag. -/
  body : List Char

/-- Reads the rest of an element whose `<tag` has been read, and gives the text after it. -/
def element? (tag : List Char) (text : List Char) : Option (Element × List Char) := do
  guard (Text.isWordEdge tag.getLast? text.head?)
  let named ← afterNameMark? tag.getLast? text
  let (name, afterName) ← splitAt? ['"'] named
  let (_, inside) ← splitAt? ['>'] afterName
  let (body, rest) ← splitAt? ("</".toList ++ tag ++ ['>']) inside
  return (⟨name, body⟩, rest)

/-- What is left behind an element is no longer than the text before. -/
theorem length_element? {tag text rest : List Char} {e : Element}
    (h : element? tag text = some (e, rest)) : rest.length ≤ text.length := by
  unfold element? at h
  obtain ⟨⟨⟩, -, h⟩ := Option.bind_eq_some_iff.mp h
  obtain ⟨named, hn, h⟩ := Option.bind_eq_some_iff.mp h
  obtain ⟨⟨name, afterName⟩, hq, h⟩ := Option.bind_eq_some_iff.mp h
  obtain ⟨⟨between, inside⟩, hg, h⟩ := Option.bind_eq_some_iff.mp h
  obtain ⟨⟨body, rest'⟩, hb, h⟩ := Option.bind_eq_some_iff.mp h
  obtain rfl := (Prod.mk.inj (Option.some.inj h)).2
  have h1 := length_afterNameMark? hn
  have h2 := length_splitAt? hq
  have h3 := length_splitAt? hg
  have h4 := length_splitAt? hb
  omega

/-- All elements with a tag, from the left and without overlaps. What is no complete element is
passed over. -/
def elements (tag : List Char) : List Char → List Element
  | [] => []
  | c :: cs =>
    if c = '<' && tag.isPrefixOf cs then
      match _h : element? tag (cs.drop tag.length) with
      | some (e, rest) => e :: elements tag rest
      | none => elements tag cs
    else elements tag cs
termination_by text => text.length
decreasing_by
  · have := length_element? _h
    simp only [List.length_drop, List.length_cons] at this ⊢
    omega
  · simp
  · simp

/-- Reads the entities for the five characters that markup writes as entities, the ampersand
last. -/
def unescape (text : List Char) : List Char :=
  [("&lt;", "<"), ("&gt;", ">"), ("&quot;", "\""), ("&apos;", "'"), ("&amp;", "&")].foldl
    (fun text (entity, char) => Text.replaceAll entity.toList char.toList text) text

/-- What kind of machine a client is. -/
inductive ClientKind where
  /-- A node that hosts partitions. -/
  | node
  /-- A virtual partition. -/
  | partition
  /-- Anything else that the provisioning server knows. -/
  | other
  deriving DecidableEq, Repr

/-- Classifies a machine by its model. -/
def ClientKind.ofModel (model : String) : ClientKind :=
  if Text.occurs "nPar".toList model.toList then node
  else if Text.occurs "Virtual Partition".toList model.toList then partition
  else other

/-- A client of the provisioning server. -/
structure Client where
  name : String
  model : String
  address : String
  hostname : Option String
  /-- Memory, in megabytes. -/
  memory : Option Nat
  cpus : Option Nat
  deriving DecidableEq, Repr

namespace Client

/-- The kind of machine. -/
def kind (client : Client) : ClientKind :=
  ClientKind.ofModel client.model

/-- Takes one attribute into a record. Memory is given in kilobytes; unknown attributes say
nothing; the last of several with one name counts. -/
def readAttribute (client : Client) (attr : Element) : Except Flaw Client :=
  let value := unescape (Text.trim attr.body)
  match String.ofList attr.name with
  | "model" => return { client with model := String.ofList value }
  | "ipaddress" => return { client with address := String.ofList value }
  | "hostname" => return { client with hostname := some (String.ofList value) }
  | "memory" => do
    let kilobytes ← number Text.Decimal.word64 "memory" value
    return { client with memory := some (kilobytes / 1024) }
  | "cpus" => do
    let cpus ← number Text.Decimal.word32 "cpus" value
    return { client with cpus := some cpus }
  | _ => return client

/-- Reads one client element. -/
def ofElement (e : Element) : Except Flaw Client :=
  (elements "iux:attr".toList e.body).foldlM readAttribute
    ⟨String.ofList (unescape e.name), "", "", none, none, none⟩

/-- Reads all clients of an inventory. -/
def readAll (text : List Char) : Except Flaw (List Client) :=
  (elements "iux:client".toList text).mapM ofElement

end Client

end VparFleet.Report
