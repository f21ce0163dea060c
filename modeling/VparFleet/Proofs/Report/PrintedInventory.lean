import VparFleet.Proofs.Report.Attributes
import VparFleet.Proofs.Report.Elements
import VparFleet.Proofs.Report.Entities

/-!
# Printed inventories

The provisioning server prints each client as an element with its name, in whose body there is one
element for each attribute, with blanks between them. Names and values are written with entities,
so they may hold anything, end tags and entities too. What is read are the clients, in order: of
each its name and what the last attribute of each kind says.

* `Attribute`, `PrintedClient`, `PrintedInventory`: inventories as they are printed.
* `PrintedClient.record`: what an inventory says about a client.
* `readAttribute_element`: one more attribute; `ofElement_element`: all attributes of a client.
* `readAll_text`: an inventory is read as it is printed.
-/

namespace VparFleet.Report

open Text

/-- Blanks of any kind. -/
structure Blanks where
  chars : List Char
  blank : ∀ c ∈ chars, isBlank c = true

/-- A text without blanks around it. -/
structure BareText where
  text : String
  first : ∀ c, text.toList.head? = some c → isBlank c = false
  last : ∀ c, text.toList.getLast? = some c → isBlank c = false

/-- The tag of clients. -/
def clientTag : List Char :=
  "iux:client".toList

/-- The tag of attributes. -/
def attributeTag : List Char :=
  "iux:attr".toList

/-- The names of the attributes that say something about a client. -/
def knownNames : List String :=
  ["model", "ipaddress", "hostname", "memory", "cpus"]

/-- An attribute of a client. -/
inductive Attribute where
  | model (value : BareText)
  | address (value : BareText)
  | hostname (value : BareText)
  /-- Memory, in kilobytes. -/
  | memory (number : Decimal.PrintedNumber Decimal.word64)
  | cpus (number : Decimal.PrintedNumber Decimal.word32)
  /-- An attribute that says nothing here. Its name is printed as it is, so it must not end the
  name or the client. -/
  | other (name : String) (unknown : name ∉ knownNames) (unquoted : '"' ∉ name.toList)
    (inside : ¬endTag clientTag <:+: name.toList) (value : BareText)

namespace Attribute

/-- The name of an attribute. -/
def name : Attribute → String
  | .model _ => "model"
  | .address _ => "ipaddress"
  | .hostname _ => "hostname"
  | .memory _ => "memory"
  | .cpus _ => "cpus"
  | .other name _ _ _ _ => name

/-- The value of an attribute. -/
def value : Attribute → List Char
  | .model value => value.text.toList
  | .address value => value.text.toList
  | .hostname value => value.text.toList
  | .memory number => number.numeral
  | .cpus number => number.numeral
  | .other _ _ _ _ value => value.text.toList

/-- The model in an attribute. -/
def model? : Attribute → Option String
  | .model value => some value.text
  | _ => none

/-- The address in an attribute. -/
def address? : Attribute → Option String
  | .address value => some value.text
  | _ => none

/-- The name of the host in an attribute. -/
def hostname? : Attribute → Option String
  | .hostname value => some value.text
  | _ => none

/-- The memory in an attribute, in kilobytes. -/
def memory? : Attribute → Option Nat
  | .memory number => some number.value
  | _ => none

/-- The number of processors in an attribute. -/
def cpus? : Attribute → Option Nat
  | .cpus number => some number.value
  | _ => none

/-- The attribute as an element. -/
def element (attr : Attribute) : Element :=
  ⟨attr.name.toList, escape attr.value⟩

end Attribute

/-- What a client with a name is known for by its attributes: the last of a kind counts. Kilobytes
are rounded down to megabytes. -/
def recordOf (name : String) (attrs : List Attribute) : Client where
  name := name
  model := (attrs.filterMap Attribute.model?).getLast?.getD ""
  address := (attrs.filterMap Attribute.address?).getLast?.getD ""
  hostname := (attrs.filterMap Attribute.hostname?).getLast?
  memory := (attrs.filterMap Attribute.memory?).getLast?.map (· / 1024)
  cpus := (attrs.filterMap Attribute.cpus?).getLast?

/-- A client as it is printed. -/
structure PrintedClient where
  name : String
  /-- The attributes, each with the blanks before it. -/
  attributes : List (Blanks × Attribute)
  /-- The blanks before the end tag. -/
  last : Blanks

namespace PrintedClient

variable (client : PrintedClient)

/-- What is printed between the tags. -/
def body : List Char :=
  client.attributes.flatMap (fun item => item.1.chars ++ item.2.element.text attributeTag) ++
    client.last.chars

/-- The client as an element. -/
def element : Element :=
  ⟨escape client.name.toList, client.body⟩

/-- What the inventory says about the client. -/
def record : Client :=
  recordOf client.name (client.attributes.map (·.2))

end PrintedClient

/-- A text in which no client begins. -/
structure Filler where
  chars : List Char
  quiet : Quiet clientTag chars

/-- An inventory as it is printed. -/
structure PrintedInventory where
  /-- The clients, each with what is printed before it. -/
  clients : List (Filler × PrintedClient)
  /-- What is printed after the last client. -/
  last : Filler

namespace PrintedInventory

/-- The text of an inventory. -/
def text (inventory : PrintedInventory) : List Char :=
  inventory.clients.flatMap (fun item => item.1.chars ++ item.2.element.text clientTag) ++
    inventory.last.chars

/-- What the inventory says about its clients. -/
def records (inventory : PrintedInventory) : List Client :=
  inventory.clients.map (·.2.record)

end PrintedInventory

/-! ## One attribute -/

namespace Attribute

variable (attr : Attribute)

/-- A value is written without blanks around it. -/
theorem value_bare : trim (escape attr.value) = escape attr.value := by
  have hnumber {bound : Nat} (number : Decimal.PrintedNumber bound) :
      trim (escape number.numeral) = escape number.numeral :=
    trim_escape (fun c hc => number.solid c (List.mem_of_head? hc))
      fun c hc => number.solid c (List.mem_of_getLast? hc)
  cases attr with
  | model value => exact trim_escape value.first value.last
  | address value => exact trim_escape value.first value.last
  | hostname value => exact trim_escape value.first value.last
  | memory number => exact hnumber number
  | cpus number => exact hnumber number
  | other _ _ _ _ value => exact trim_escape value.first value.last

/-- The value of an attribute is read back as it is meant. -/
theorem value_element : attr.element.value = attr.value := by
  rw [Element.value, element, value_bare, unescape_escape]

end Attribute

/-- The last of some values, after one more. -/
theorem getLast?_filterMap_concat {α β : Type} (f : α → Option β) (list : List α) (a : α) :
    ((list ++ [a]).filterMap f).getLast? = (f a).or (list.filterMap f).getLast? := by
  rw [List.filterMap_append, List.getLast?_append]
  cases h : f a with
  | none => simp [h]
  | some b => simp [h]

/-- One more attribute takes the place of what those before it said. -/
theorem readAttribute_element (name : String) (attrs : List Attribute) (attr : Attribute) :
    (recordOf name attrs).readAttribute attr.element = .ok (recordOf name (attrs ++ [attr])) := by
  have hvalue : unescape (trim attr.element.body) = attr.value := attr.value_element
  have hname : String.ofList attr.element.name = attr.name := String.ofList_toList
  rw [Client.readAttribute, hvalue, hname]
  simp only [recordOf, getLast?_filterMap_concat]
  -- each kind of attribute sets what it is about
  cases attr with
  | model value => simp only [Attribute.value, String.ofList_toList]; rfl
  | address value => simp only [Attribute.value, String.ofList_toList]; rfl
  | hostname value => simp only [Attribute.value, String.ofList_toList]; rfl
  | memory number => simp only [Attribute.name, Attribute.value, Client.number_numeral]; rfl
  | cpus number => simp only [Attribute.name, Attribute.value, Client.number_numeral]; rfl
  | other name unknown _ _ value =>
    simp only [knownNames, List.mem_cons, List.not_mem_nil, or_false, not_or] at unknown
    -- a name that is not known is none of the five that are looked for
    obtain ⟨hmodel, haddress, hhostname, hmemory, hcpus⟩ := unknown
    split
    · next h => exact absurd h hmodel
    · next h => exact absurd h haddress
    · next h => exact absurd h hhostname
    · next h => exact absurd h hmemory
    · next h => exact absurd h hcpus
    · rfl

/-! ## The attributes of a client -/

theorem isTag_attributeTag : IsTag attributeTag :=
  ⟨by decide, by decide +kernel⟩

theorem isTag_clientTag : IsTag clientTag :=
  ⟨by decide, by decide +kernel⟩

theorem Blanks.notMem (blanks : Blanks) : '<' ∉ blanks.chars :=
  fun h => absurd (blanks.blank '<' h) (by decide)

namespace Attribute

variable (attr : Attribute)

/-- The name of an attribute ends neither itself nor its client. -/
theorem name_inside : '"' ∉ attr.name.toList ∧ ¬endTag clientTag <:+: attr.name.toList := by
  have hknown : ∀ name ∈ knownNames,
      '"' ∉ name.toList ∧ ¬endTag clientTag <:+: name.toList := by decide
  cases attr with
  | model => exact hknown "model" (by decide)
  | address => exact hknown "ipaddress" (by decide)
  | hostname => exact hknown "hostname" (by decide)
  | memory => exact hknown "memory" (by decide)
  | cpus => exact hknown "cpus" (by decide)
  | other _ _ unquoted inside _ => exact ⟨unquoted, inside⟩

theorem notMem_value : '<' ∉ escape attr.value :=
  notMem_escape (by decide) (by decide) attr.value

theorem printable : attr.element.Printable attributeTag where
  name := attr.name_inside.1
  body := passes_of_notMem attr.notMem_value

/-- The end of a client is not found in an attribute. -/
theorem passes_text : Passes (endTag clientTag) (attr.element.text attributeTag) := by
  have htext : attr.element.text attributeTag = '<' :: (attributeTag ++ beforeName) ++
      ((attr.name.toList ++ ['"']) ++ (('>' :: escape attr.value) ++ endTag attributeTag)) := by
    simp [Element.text, Element.afterTag, element]
  have hcons : attributeTag = 'i' :: attributeTag.tail := rfl
  -- both tags of an attribute differ from the end tag of a client, and the rest holds no tag
  have hstart : Passes (endTag clientTag) ('<' :: (attributeTag ++ beforeName)) := by
    refine .cons (fun rest hbegin => ?_) (passes_of_notMem (by decide))
    rw [hcons] at hbegin
    have hslash := (List.cons_prefix_cons.mp (List.cons_prefix_cons.mp hbegin).2).1
    exact absurd hslash (by decide)
  have hname : Passes (endTag clientTag) (attr.name.toList ++ ['"']) :=
    passes_append_singleton (by decide) attr.name_inside.2
  have hvalue : Passes (endTag clientTag) ('>' :: escape attr.value) :=
    passes_of_notMem (List.mem_cons.not.mpr (not_or.mpr ⟨by decide, attr.notMem_value⟩))
  have hend : Passes (endTag clientTag) (endTag attributeTag) := by
    refine .cons (fun rest hbegin => ?_) (passes_of_notMem (by decide))
    have hsame := eq_of_endTag_begins (by decide) (by decide) hbegin
    exact absurd hsame (by decide)
  rw [htext]
  exact hstart.append (hname.append (hvalue.append hend))

end Attribute

namespace PrintedClient

variable (client : PrintedClient)

theorem elements_body :
    elements attributeTag client.body = client.attributes.map (·.2.element) :=
  elements_flatMap _ _ isTag_attributeTag (fun item _ => quiet_of_notMem item.1.notMem)
    (fun item _ => item.2.printable) (quiet_of_notMem client.last.notMem)

/-- The end of a client is not found in its body. -/
theorem passes_body : Passes (endTag clientTag) client.body := by
  refine .append ?_ (passes_of_notMem client.last.notMem)
  -- attribute by attribute, with the blanks before each
  induction client.attributes with
  | nil => exact passes_nil _
  | cons item items ih =>
    exact ((passes_of_notMem item.1.notMem).append item.2.passes_text).append ih

theorem printable : client.element.Printable clientTag where
  name := notMem_escape (by decide) (by decide) client.name.toList
  body := client.passes_body

/-- All attributes together say what the last of each kind says. -/
theorem foldlM_readAttribute (name : String) (attrs : List Attribute) :
    (attrs.map Attribute.element).foldlM Client.readAttribute (recordOf name [])
      = .ok (recordOf name attrs) := by
  -- from the back: a record of attributes grows by the last one
  induction attrs using List.reverseRecOn with
  | nil => rfl
  | append_singleton attrs attr ih =>
    rw [List.map_append, List.foldlM_append, ih]
    change (recordOf name attrs).readAttribute attr.element >>= pure = _
    rw [readAttribute_element]
    rfl

/-- A client is read as it is printed. -/
theorem ofElement_element : Client.ofElement client.element = .ok client.record := by
  have hname : String.ofList (unescape client.element.name) = client.name := by
    rw [element, unescape_escape, String.ofList_toList]
  have hattributes := foldlM_readAttribute client.name (client.attributes.map (·.2))
  rw [List.map_map] at hattributes
  rw [Client.ofElement, hname]
  change (elements attributeTag client.body).foldlM Client.readAttribute _ = _
  rw [elements_body]
  exact hattributes

end PrintedClient

/-- An inventory is read as it is printed. -/
theorem readAll_text (inventory : PrintedInventory) :
    Client.readAll inventory.text = .ok inventory.records := by
  obtain ⟨clients, last⟩ := inventory
  have helements : elements clientTag (PrintedInventory.text ⟨clients, last⟩)
      = clients.map (·.2.element) :=
    elements_flatMap (fun item : Filler × PrintedClient => item.1.chars)
      (fun item => item.2.element) isTag_clientTag
      (fun item _ => item.1.quiet) (fun item _ => item.2.printable) last.quiet
  change (elements clientTag (PrintedInventory.text ⟨clients, last⟩)).mapM Client.ofElement = _
  rw [helements, PrintedInventory.records]
  -- client by client; each is read by itself
  clear helements
  induction clients with
  | nil => rfl
  | cons item clients ih =>
    rw [List.map_cons, List.mapM_cons, item.2.ofElement_element, ih]
    rfl

/-- A client whose name looks like an entity and whose host looks like an end tag. -/
def sampleClient : PrintedClient where
  name := "&lt;"
  attributes :=
    [(⟨['\n'], List.all_eq_true.mp rfl⟩, .memory ⟨2047, by decide, "2047".toList, "2047".toList,
        .inl rfl, by decide, by simp, rfl⟩),
      (⟨[], nofun⟩, .other "model " (by decide) (by decide) (by decide)
        ⟨"nPar", by simp [isBlank], by simp [isBlank]⟩),
      (⟨['\t'], List.all_eq_true.mp rfl⟩,
        .hostname ⟨"first", by simp [isBlank], by simp [isBlank]⟩),
      (⟨[], nofun⟩, .hostname ⟨"</iux:client>", by simp [isBlank], by simp [isBlank]⟩)]
  last := ⟨['\r', '\n'], List.all_eq_true.mp rfl⟩

/-- A client whose name and host look like markup. -/
theorem readAll_text_sample :
    Client.readAll ("<iux:client name=\"&amp;lt;\">\n" ++
      "<iux:attr name=\"memory\">2047</iux:attr><iux:attr name=\"model \">nPar</iux:attr>\t" ++
      "<iux:attr name=\"hostname\">first</iux:attr>" ++
      "<iux:attr name=\"hostname\">&lt;/iux:client&gt;</iux:attr>\r\n</iux:client>\n").toList
        = .ok [⟨"&lt;", "", "", some "</iux:client>", some 1, none⟩] := by
  have hread := readAll_text ⟨[(⟨[], quiet_of_notMem (by decide)⟩, sampleClient)],
    ⟨['\n'], quiet_of_notMem (by decide)⟩⟩
  exact (congrArg Client.readAll (by decide +kernel)).trans (hread.trans (by decide +kernel))

end VparFleet.Report
