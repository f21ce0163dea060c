import VparFleet.Proofs.Report.PrintedInventory
import VparFleet.Proofs.Report.SelfClosed

/-!
# Empty elements of an inventory

A client without attributes and an attribute without a value may be written as self-closed tags.
Such a client takes the place of the next one that has an end tag, with its attributes but under
its own name; such an attribute takes the next one that has an end tag into its value. So empty
elements may be self-closed without harm to others only where no element of their kind with an end
tag comes after them.

* `WrittenAttribute`, `WrittenClient`, `WrittenInventory`: inventories in any forms.
* `told`: which attributes are read under which names.
* `readAll_written`: what is read; what it is with end tags throughout, and when the others are not
  disturbed.
* `not_always_undisturbed`: a number of processors that is lost, and a client that is.
-/

namespace VparFleet.Report

open Text

/-- A text between the elements of an inventory: no client and no attribute begins or ends in
it. -/
structure Between where
  chars : List Char
  clients : IsGap clientTag chars
  attributes : IsGap attributeTag chars

/-- Nothing between two elements. -/
def nothing : Between where
  chars := []
  clients := ⟨quiet_of_notMem List.not_mem_nil, passes_nil _⟩
  attributes := ⟨quiet_of_notMem List.not_mem_nil, passes_nil _⟩

/-- Blanks can stand between elements. -/
def Blanks.between (blanks : Blanks) : Between where
  chars := blanks.chars
  clients := ⟨quiet_of_notMem blanks.notMem, passes_of_notMem blanks.notMem⟩
  attributes := ⟨quiet_of_notMem blanks.notMem, passes_of_notMem blanks.notMem⟩

/-- An attribute as it is written. -/
inductive WrittenAttribute where
  | pair (name value : String)
  | selfClosed (name : String)

namespace WrittenAttribute

/-- The element in its form. Names and values are written with entities. -/
def form : WrittenAttribute → Written
  | .pair name value => .pair ⟨escape name.toList, escape value.toList⟩
  | .selfClosed name => .selfClosed (escape name.toList)

/-- The element with an end tag: a self-closed one has an empty value. -/
def element : WrittenAttribute → Element
  | .pair name value => ⟨escape name.toList, escape value.toList⟩
  | .selfClosed name => ⟨escape name.toList, []⟩

/-- The attribute with an end tag. -/
def opened : WrittenAttribute → WrittenAttribute
  | .pair name value => .pair name value
  | .selfClosed name => .pair name ""

/-- With an end tag, every attribute is read as its element. -/
theorem pair?_opened (attr : WrittenAttribute) :
    attr.opened.form.pair? = some attr.element := by
  cases attr with
  | pair name value => rfl
  | selfClosed name => rfl

end WrittenAttribute

/-- The attributes of a client as elements, each after what stands before it. -/
def attributeForms (attributes : List (Between × WrittenAttribute)) : List (List Char × Written) :=
  attributes.map fun item => (item.1.chars, item.2.form)

/-- A client as it is written. -/
inductive WrittenClient where
  | pair (name : String) (attributes : List (Between × WrittenAttribute)) (last : Between)
  | selfClosed (name : String)

namespace WrittenClient

/-- The element in its form. -/
def form : WrittenClient → Written
  | .pair name attributes last =>
    .pair ⟨escape name.toList,
      writtenText attributeTag (attributeForms attributes) ++ last.chars⟩
  | .selfClosed name => .selfClosed (escape name.toList)

/-- The name of the client. -/
def name : WrittenClient → String
  | .pair name _ _ => name
  | .selfClosed name => name

/-- The attributes of the client. -/
def attributes : WrittenClient → List (Between × WrittenAttribute)
  | .pair _ attributes _ => attributes
  | .selfClosed _ => []

/-- The client and its attributes with end tags. -/
def opened : WrittenClient → WrittenClient
  | .pair name attributes last =>
    .pair name (attributes.map fun item => (item.1, item.2.opened)) last
  | .selfClosed name => .pair name [] nothing

end WrittenClient

/-- An inventory as it is written. -/
structure WrittenInventory where
  /-- The clients, each after what stands before it. -/
  clients : List (Between × WrittenClient)
  /-- What stands after the last client. -/
  last : Between

/-- The clients of an inventory as elements, each after what stands before it. -/
def clientForms (clients : List (Between × WrittenClient)) : List (List Char × Written) :=
  clients.map fun item => (item.1.chars, item.2.form)

namespace WrittenInventory

/-- The text of an inventory. -/
def text (inventory : WrittenInventory) : List Char :=
  writtenText clientTag (clientForms inventory.clients) ++ inventory.last.chars

/-- The inventory with end tags throughout. -/
def opened (inventory : WrittenInventory) : WrittenInventory :=
  { inventory with clients := inventory.clients.map fun item => (item.1, item.2.opened) }

end WrittenInventory

/-- What is read of a client: a name, and attributes. -/
structure Reading where
  name : String
  attributes : List Element

/-- The record of what is read. -/
def Reading.record (reading : Reading) : Except Flaw Client :=
  reading.attributes.foldlM Client.readAttribute ⟨reading.name, "", "", none, none, none⟩

/-- What is read of clients in any forms. What stands before them may be a client that has not
ended yet: its name is kept. -/
def told : Option String → List WrittenClient → List Reading
  | _, [] => []
  | before, .pair name attributes _ :: clients =>
    ⟨before.getD name, taken attributeTag none (attributeForms attributes)⟩ :: told none clients
  | before, .selfClosed name :: clients => told (some (before.getD name)) clients

namespace WrittenClient

/-- All that a client says. -/
def said (client : WrittenClient) : Reading :=
  ⟨client.name, client.attributes.map (·.2.element)⟩

/-- What a client says that has an end tag, in attributes that have end tags. -/
def kept? : WrittenClient → Option Reading
  | .pair name attributes _ => some ⟨name, attributes.filterMap (·.2.form.pair?)⟩
  | .selfClosed _ => none

/-- With end tags throughout, a client keeps all that it says. -/
theorem kept?_opened (client : WrittenClient) : client.opened.kept? = some client.said := by
  cases client with
  | pair name attributes last =>
    have hattributes : attributes.filterMap (·.2.opened.form.pair?)
        = attributes.map (·.2.element) := by
      rw [← List.filterMap_eq_map]
      exact List.filterMap_congr fun item _ => item.2.pair?_opened
    rw [opened, kept?, List.filterMap_map]
    exact congrArg (fun elements => some (Reading.mk name elements)) hattributes
  | selfClosed name => rfl

end WrittenClient

/-- Whether no element with an end tag follows a self-closed one of its kind. -/
structure WrittenInventory.Settled (inventory : WrittenInventory) : Prop where
  clients : Report.Settled (inventory.clients.map (·.2.form))
  attributes : ∀ item ∈ inventory.clients, Report.Settled (item.2.attributes.map (·.2.form))

/-! ## The forms are printable -/

theorem notMem_escape_name (name : String) :
    '"' ∉ escape name.toList ∧ '<' ∉ escape name.toList :=
  ⟨notMem_escape (by decide) (by decide) _, notMem_escape (by decide) (by decide) _⟩

/-- Attributes can be printed in either form. -/
theorem WrittenAttribute.printable (attr : WrittenAttribute) :
    attr.form.Printable attributeTag := by
  cases attr with
  | pair name value =>
    obtain ⟨hquote, hname⟩ := notMem_escape_name name
    exact ⟨⟨hquote, passes_of_notMem (notMem_escape_name value).2⟩, hname⟩
  | selfClosed name => exact notMem_escape_name name

/-- The end of a client is not found in an attribute. -/
theorem WrittenAttribute.passes_text (attr : WrittenAttribute) :
    Passes (endTag clientTag) (attr.form.text attributeTag) := by
  have hend : Passes (endTag clientTag) (endTag attributeTag) := by
    refine .cons (fun rest hbegin => ?_) (passes_of_notMem (by decide))
    have hsame := eq_of_endTag_begins (by decide) (by decide) hbegin
    exact absurd hsame (by decide)
  -- neither the start tag nor the value holds an end tag
  cases attr with
  | pair name value =>
    rw [form, Written.text, text_eq]
    exact (passes_startTag _ isTag_attributeTag (by decide) (notMem_escape_name name).2
      List.not_mem_nil).append ((passes_of_notMem (notMem_escape_name value).2).append hend)
  | selfClosed name =>
    exact passes_startTag _ isTag_attributeTag (by decide) (notMem_escape_name name).2 (by decide)

/-- All attributes of a client can be printed, each after what stands before it. -/
theorem isGap_attributeForms (attributes : List (Between × WrittenAttribute)) :
    ∀ item ∈ attributeForms attributes,
      IsGap attributeTag item.1 ∧ item.2.Printable attributeTag := by
  intro item hitem
  obtain ⟨⟨between, attr⟩, -, rfl⟩ := List.mem_map.mp hitem
  exact ⟨between.attributes, attr.printable⟩

/-- Clients can be printed in either form. -/
theorem WrittenClient.printable (client : WrittenClient) : client.form.Printable clientTag := by
  cases client with
  | pair name attributes last =>
    obtain ⟨hquote, hname⟩ := notMem_escape_name name
    refine ⟨⟨hquote, .append ?_ last.clients.passes⟩, hname⟩
    -- the body is printed attribute by attribute, and the end of the client is in none of them
    induction attributes with
    | nil => exact passes_nil _
    | cons item attributes ih =>
      exact (item.1.clients.passes.append item.2.passes_text).append ih
  | selfClosed name => exact notMem_escape_name name

/-- All clients of an inventory can be printed, each after what stands before it. -/
theorem isGap_clientForms (clients : List (Between × WrittenClient)) :
    ∀ item ∈ clientForms clients, IsGap clientTag item.1 ∧ item.2.Printable clientTag := by
  intro item hitem
  obtain ⟨⟨between, client⟩, -, rfl⟩ := List.mem_map.mp hitem
  exact ⟨between.clients, client.printable⟩

/-- The attributes of a client are read in any forms. -/
theorem elements_attributes (attributes : List (Between × WrittenAttribute)) (last : Between) :
    elements attributeTag (writtenText attributeTag (attributeForms attributes) ++ last.chars)
      = taken attributeTag none (attributeForms attributes) :=
  (elements_written isTag_attributeTag (by decide) (isGap_attributeForms attributes)
    last.attributes).1

/-! ## Reading one client -/

/-- Whether no attribute begins in the body of a client that has not ended yet. -/
def Skips (body : List Char) : Prop :=
  ∀ text, elements attributeTag (body ++ text) = elements attributeTag text

/-- What separates two clients holds no attribute. -/
theorem Skips.append_startTag {body name close : List Char} (h : Skips body) (between : Between)
    (hname : '<' ∉ name) (hclose : '<' ∉ close) :
    Skips (body ++ between.chars ++ startTag clientTag name close) := by
  intro text
  -- the start tag is that of a client, and no other tag begins in it
  have hbegin (after : List Char) : ¬attributeTag <+: clientTag ++ after := by
    intro hprefix
    have htags := List.prefix_of_prefix_length_le hprefix (List.prefix_append _ _) (by decide)
    exact absurd htags (by decide)
  have hstart : startTag clientTag name close ++ text
      = '<' :: ((startTag clientTag name close).tail ++ text) := rfl
  -- the body, then what stands between, then the start tag itself
  rw [List.append_assoc, List.append_assoc, h,
    elements_append_of_quiet isTag_attributeTag between.attributes.quiet (.inr ⟨_, hstart⟩), hstart,
    elements_cons_of_none,
    elements_append_of_notMem (notMem_tail_startTag isTag_clientTag hname hclose)]
  intro _ rest hsame
  rw [startTag, List.tail_cons, List.append_assoc] at hsame
  exact absurd ⟨rest, hsame.symm⟩ (hbegin _)

/-- A client is read with the attributes in its body. -/
theorem ofElement_escape (name : String) (body : List Char) :
    Client.ofElement ⟨escape name.toList, body⟩
      = Reading.record ⟨name, elements attributeTag body⟩ := by
  rw [Client.ofElement, unescape_escape, String.ofList_toList]
  rfl

/-- If no attribute with an end tag follows a self-closed one, all that have one are read. -/
theorem WrittenClient.ofElement_pair? (client : WrittenClient)
    (h : Report.Settled (client.attributes.map (·.2.form))) :
    client.form.pair?.map Client.ofElement = client.kept?.map Reading.record := by
  cases client with
  | pair name attributes last =>
    have hsettled : Report.Settled ((attributeForms attributes).map (·.2)) := by
      rw [attributeForms, List.map_map]
      exact h
    refine congrArg some ((ofElement_escape name _).trans ?_)
    rw [elements_attributes, taken_of_settled hsettled, attributeForms, List.filterMap_map]
    rfl
  | selfClosed name => rfl

/-! ## Reading all clients -/

/-- Clients in any forms are read as `told` says, also after a client that has not ended yet. -/
theorem map_ofElement_taken (clients : List (Between × WrittenClient)) :
    (taken clientTag none (clientForms clients)).map Client.ofElement
        = (told none (clients.map (·.2))).map Reading.record ∧
      ∀ (name : String) (body : List Char), Skips body →
        (taken clientTag (some ⟨escape name.toList, body⟩) (clientForms clients)).map
            Client.ofElement
          = (told (some name) (clients.map (·.2))).map Reading.record := by
  -- one induction for both: a self-closed client leads from the first reading to the second, and
  -- one with an end tag back to the first
  induction clients with
  | nil => exact ⟨rfl, fun _ _ _ => rfl⟩
  | cons item clients ih =>
    obtain ⟨hread, hreadOn⟩ := ih
    obtain ⟨between, client⟩ := item
    cases client with
    | pair name attributes last =>
      let written := writtenText attributeTag (attributeForms attributes) ++ last.chars
      have hattributes : elements attributeTag written = _ := elements_attributes attributes last
      refine ⟨?_, fun before body hbody => ?_⟩
      · -- the end tag is this client's own
        have hclient := ofElement_escape name written
        rw [hattributes] at hclient
        exact congrArg₂ List.cons hclient hread
      · -- this end tag ends the client before, and the attributes come after all that it holds
        have hskips := hbody.append_startTag between (notMem_escape_name name).2 List.not_mem_nil
        have hclient := ofElement_escape before
          (body ++ between.chars ++ startTag clientTag (escape name.toList) [] ++ written)
        rw [hskips, hattributes] at hclient
        exact congrArg₂ List.cons hclient hread
    | selfClosed name =>
      refine ⟨hreadOn name [] fun _ => rfl, fun before body hbody => ?_⟩
      exact hreadOn before _
        (hbody.append_startTag between (notMem_escape_name name).2 (by decide))

/-- Readings that agree member by member agree as a whole. -/
theorem mapM_eq_of_map_eq {α β γ : Type} {f : α → Except Flaw γ} {g : β → Except Flaw γ}
    {list : List α} {other : List β} (h : list.map f = other.map g) :
    list.mapM f = other.mapM g :=
  calc list.mapM f = (list.map f).mapM id := by rw [List.mapM_map]; rfl
    _ = (other.map g).mapM id := by rw [h]
    _ = other.mapM g := by rw [List.mapM_map]; rfl

namespace WrittenInventory

variable (inventory : WrittenInventory)

/-- The clients of an inventory are read in any forms. -/
theorem elements_text :
    elements clientTag inventory.text = taken clientTag none (clientForms inventory.clients) :=
  (elements_written isTag_clientTag (by decide) (isGap_clientForms inventory.clients)
    inventory.last.clients).1

/-- What is read of an inventory in any forms. -/
theorem readAll_eq_told :
    Client.readAll inventory.text
      = (told none (inventory.clients.map (·.2))).mapM Reading.record := by
  change (elements clientTag inventory.text).mapM Client.ofElement = _
  rw [inventory.elements_text]
  exact mapM_eq_of_map_eq (map_ofElement_taken inventory.clients).1

/-- Of a settled inventory, everything with an end tag is read. -/
theorem readAll_of_settled (h : inventory.Settled) :
    Client.readAll inventory.text
      = (inventory.clients.filterMap (·.2.kept?)).mapM Reading.record := by
  have hsettled : Report.Settled ((clientForms inventory.clients).map (·.2)) := by
    rw [clientForms, List.map_map]
    exact h.clients
  have hread : ((clientForms inventory.clients).filterMap (·.2.pair?)).map Client.ofElement
      = (inventory.clients.filterMap (·.2.kept?)).map Reading.record := by
    rw [clientForms, List.filterMap_map, List.map_filterMap, List.map_filterMap]
    exact List.filterMap_congr fun item hitem => item.2.ofElement_pair? (h.attributes item hitem)
  change (elements clientTag inventory.text).mapM Client.ofElement = _
  rw [inventory.elements_text, taken_of_settled hsettled]
  exact mapM_eq_of_map_eq hread

/-- With end tags throughout, nothing follows a self-closed element. -/
theorem settled_opened : inventory.opened.Settled where
  clients := by
    refine settled_of_pairs fun form hform => ?_
    obtain ⟨_, hitem, rfl⟩ := List.mem_map.mp hform
    obtain ⟨⟨_, client⟩, -, rfl⟩ := List.mem_map.mp hitem
    -- an opened client has an end tag, whatever form it had
    cases client <;> exact Option.some_ne_none _
  attributes := by
    intro item hitem
    obtain ⟨⟨_, client⟩, -, rfl⟩ := List.mem_map.mp hitem
    refine settled_of_pairs fun form hform => ?_
    obtain ⟨_, hattr, rfl⟩ := List.mem_map.mp hform
    cases client with
    | pair name attributes last =>
      obtain ⟨⟨_, attr⟩, -, rfl⟩ := List.mem_map.mp hattr
      rw [attr.pair?_opened]
      exact Option.some_ne_none _
    | selfClosed name => cases hattr

/-- With end tags throughout, everything is read. -/
theorem readAll_opened :
    Client.readAll inventory.opened.text
      = (inventory.clients.map (·.2.said)).mapM Reading.record := by
  rw [readAll_of_settled _ inventory.settled_opened, opened, List.filterMap_map,
    ← List.filterMap_eq_map]
  congr 1
  exact List.filterMap_congr fun item _ => item.2.kept?_opened

end WrittenInventory

/-- An inventory is read as `told` says: with end tags throughout it is all clients with all their
attributes; elements without end tags disturb no others if it is settled. -/
theorem readAll_written (inventory : WrittenInventory) :
    Client.readAll inventory.text
        = (told none (inventory.clients.map (·.2))).mapM Reading.record ∧
      Client.readAll inventory.opened.text
        = (inventory.clients.map (·.2.said)).mapM Reading.record ∧
      (inventory.Settled → Client.readAll inventory.text
        = (inventory.clients.filterMap (·.2.kept?)).mapM Reading.record) :=
  ⟨inventory.readAll_eq_told, inventory.readAll_opened, inventory.readAll_of_settled⟩

/-- A settled inventory: the empty elements come last, and disturb nothing. -/
theorem readAll_written_sample :
    Client.readAll ("<iux:client name=\"a\"><iux:attr name=\"cpus\">8</iux:attr>" ++
      "\t<iux:attr name=\"note\"/></iux:client><iux:client name=\"&lt;\"/>").toList
        = .ok [⟨"a", "", "", none, none, some 8⟩] := by
  let tab : Blanks := ⟨['\t'], List.all_eq_true.mp rfl⟩
  let inventory : WrittenInventory := ⟨[(nothing, .pair "a"
    [(nothing, .pair "cpus" "8"), (tab.between, .selfClosed "note")] nothing),
    (nothing, .selfClosed "<")], nothing⟩
  have hsettled : inventory.Settled :=
    ⟨by simp [inventory, Settled, Written.pair?, WrittenClient.form],
      by simp [inventory, Settled, Written.pair?, WrittenClient.attributes, WrittenAttribute.form]⟩
  -- the third part of the theorem, at these texts
  have hread := (readAll_written inventory).2.2 hsettled
  exact (congrArg Client.readAll (by decide +kernel)).trans (hread.trans (by decide +kernel))

/-- An attribute without a value before the number of processors. -/
def noteFirst : WrittenInventory where
  clients := [(nothing,
    .pair "a" [(nothing, .selfClosed "note"), (nothing, .pair "cpus" "8")] nothing)]
  last := nothing

/-- A client without attributes before another one. -/
def emptyFirst : WrittenInventory where
  clients := [(nothing, .selfClosed "a"),
    (nothing, .pair "b" [(nothing, .pair "cpus" "8")] nothing)]
  last := nothing

/-- The attribute takes in the number of processors, and the client the one after it. -/
theorem not_always_undisturbed :
    (Client.readAll ("<iux:client name=\"a\"><iux:attr name=\"note\"></iux:attr>" ++
        "<iux:attr name=\"cpus\">8</iux:attr></iux:client>").toList
          = .ok [⟨"a", "", "", none, none, some 8⟩] ∧
      Client.readAll ("<iux:client name=\"a\"><iux:attr name=\"note\"/>" ++
        "<iux:attr name=\"cpus\">8</iux:attr></iux:client>").toList
          = .ok [⟨"a", "", "", none, none, none⟩]) ∧
    (Client.readAll ("<iux:client name=\"a\"></iux:client><iux:client name=\"b\">" ++
        "<iux:attr name=\"cpus\">8</iux:attr></iux:client>").toList
          = .ok [⟨"a", "", "", none, none, none⟩, ⟨"b", "", "", none, none, some 8⟩] ∧
      Client.readAll ("<iux:client name=\"a\"/><iux:client name=\"b\">" ++
        "<iux:attr name=\"cpus\">8</iux:attr></iux:client>").toList
          = .ok [⟨"a", "", "", none, none, some 8⟩]) := by
  -- how the texts with end tags are read, and those without
  have opened (inventory : WrittenInventory) {text : List Char} {clients : List Client}
      (htext : text = inventory.opened.text)
      (hsaid : (inventory.clients.map (·.2.said)).mapM Reading.record = .ok clients) :
      Client.readAll text = .ok clients := by
    rw [htext, inventory.readAll_opened, hsaid]
  have written (inventory : WrittenInventory) {text : List Char} {clients : List Client}
      (htext : text = inventory.text)
      (htold : (told none (inventory.clients.map (·.2))).mapM Reading.record = .ok clients) :
      Client.readAll text = .ok clients := by
    rw [htext, inventory.readAll_eq_told, htold]
  exact ⟨⟨opened noteFirst (by decide +kernel) (by decide +kernel),
      written noteFirst (by decide +kernel) (by decide +kernel)⟩,
    opened emptyFirst (by decide +kernel) (by decide +kernel),
    written emptyFirst (by decide +kernel) (by decide +kernel)⟩

end VparFleet.Report
