import Mathlib.Data.List.Forall2
import VparFleet.Proofs.Report.Bounds
import VparFleet.Proofs.Text.Parts

/-!
# What the attributes of a client say

The attributes of a client are read one after the other, so of several with one name the last one
counts, and where there is none the client says nothing. Memory is given in kilobytes and kept in
megabytes.

* `Element.attribute?`: the value of the last attribute with a name.
* `Client.ReadFrom`, `Client.readFrom_of_readAll`: what a client is known by its attributes for.
-/

namespace VparFleet.Report

open Text.Decimal

namespace Element

/-- The value of an attribute, as it is meant. -/
def value (attr : Element) : List Char :=
  unescape (Text.trim attr.body)

/-- The value of the last of some attributes that have a name. -/
def last? (attrs : List Element) (name : String) : Option (List Char) :=
  (attrs.filter (String.ofList ·.name = name)).getLast?.map value

/-- The value of the last attribute with a name. -/
def attribute? (e : Element) (name : String) : Option (List Char) :=
  last? (elements "iux:attr".toList e.body) name

end Element

namespace Client

variable {client client' : Client} {attr : Element} {attrs : List Element}

/-- What a client is known for by the attributes of its element. -/
structure ReadFrom (client : Client) (e : Element) : Prop where
  model : client.model = String.ofList ((e.attribute? "model").getD [])
  address : client.address = String.ofList ((e.attribute? "ipaddress").getD [])
  /-- Kilobytes are rounded down to megabytes. -/
  memory : client.memory = (e.attribute? "memory").bind fun value =>
    (read? word64 (Text.trim value)).map (· / 1024)
  cpus : client.cpus = (e.attribute? "cpus").bind fun value => read? word32 (Text.trim value)

/-- A number is read exactly when there is one between the blanks. -/
theorem number_eq_ok_iff {bound n : Nat} {label : String} {value : List Char} :
    number bound label value = .ok n ↔ read? bound (Text.trim value) = some n := by
  dsimp only [number]
  split
  · next m hm => rw [hm, Except.ok.injEq, Option.some.injEq]
  · next hm => simp [hm]

/-- A number is read as it is printed. -/
theorem number_numeral {bound : Nat} (printed : PrintedNumber bound) (label : String) :
    number bound label printed.numeral = .ok printed.value := by
  rw [number_eq_ok_iff, Text.trim_of_solid printed.solid, printed.read?_numeral]

/-- One attribute sets what has its name and leaves the rest alone. -/
theorem readAttribute_eq_ok (h : readAttribute client attr = .ok client') :
    client'.model = (if String.ofList attr.name = "model" then String.ofList attr.value
      else client.model) ∧
    client'.address = (if String.ofList attr.name = "ipaddress" then String.ofList attr.value
      else client.address) ∧
    client'.memory = (if String.ofList attr.name = "memory"
      then (read? word64 (Text.trim attr.value)).map (· / 1024) else client.memory) ∧
    client'.cpus = (if String.ofList attr.name = "cpus" then read? word32 (Text.trim attr.value)
      else client.cpus) := by
  dsimp only [readAttribute] at h
  -- one case for each name that means something, and one for all others
  split at h
  · next hname =>
    obtain rfl := Except.ok.inj h
    simp [hname, Element.value]
  · next hname =>
    obtain rfl := Except.ok.inj h
    simp [hname, Element.value]
  · next hname =>
    obtain rfl := Except.ok.inj h
    simp [hname]
  · next hname =>
    obtain ⟨kilobytes, hnumber, h⟩ := bind_eq_ok_iff.mp h
    obtain rfl := Except.ok.inj h
    have hread : read? word64 (Text.trim attr.value) = some kilobytes := number_eq_ok_iff.mp hnumber
    simp [hname, hread]
  · next hname =>
    obtain ⟨cpus, hnumber, h⟩ := bind_eq_ok_iff.mp h
    obtain rfl := Except.ok.inj h
    have hread : read? word32 (Text.trim attr.value) = some cpus := number_eq_ok_iff.mp hnumber
    simp [hname, hread]
  · next hmodel haddress _ hmemory hcpus =>
    obtain rfl := Except.ok.inj h
    -- a name that means nothing is none of the four
    exact ⟨(if_neg hmodel).symm, (if_neg haddress).symm, (if_neg hmemory).symm,
      (if_neg hcpus).symm⟩

/-- What an attribute with a name sets is what the last one sets. -/
theorem eq_of_foldlM_readAttribute {β : Type} (get : Client → β) {name : String}
    (reads : List Char → β)
    (hstep : ∀ client attr client', readAttribute client attr = .ok client' →
      get client' = if String.ofList attr.name = name then reads attr.value else get client)
    (h : attrs.foldlM readAttribute client = .ok client') :
    get client' = ((Element.last? attrs name).map reads).getD (get client) := by
  -- the attributes are read from the front, and a later one wins over what was set before
  induction attrs generalizing client with
  | nil => rw [← Except.ok.inj h]; rfl
  | cons attr attrs ih =>
    rw [List.foldlM_cons] at h
    obtain ⟨middle, hread, h⟩ := bind_eq_ok_iff.mp h
    rw [ih h, hstep client attr middle hread]
    unfold Element.last?
    rw [List.filter_cons]
    -- an attribute with the name counts only if none with it follows
    by_cases hname : String.ofList attr.name = name
    · rw [if_pos hname, if_pos (decide_eq_true hname), List.getLast?_cons]
      cases (attrs.filter (String.ofList ·.name = name)).getLast? <;> rfl
    · rw [if_neg hname, if_neg (by simpa using hname)]

/-- An element that is read as a client is all that is known of it. -/
theorem readFrom_of_ofElement {e : Element} (h : ofElement e = .ok client) :
    client.ReadFrom e where
  model := by
    rw [eq_of_foldlM_readAttribute model String.ofList
      (fun _ _ _ hread => (readAttribute_eq_ok hread).1) h]
    unfold Element.attribute?
    cases Element.last? _ "model" <;> rfl
  address := by
    rw [eq_of_foldlM_readAttribute address String.ofList
      (fun _ _ _ hread => (readAttribute_eq_ok hread).2.1) h]
    unfold Element.attribute?
    cases Element.last? _ "ipaddress" <;> rfl
  memory := by
    rw [eq_of_foldlM_readAttribute memory
      (fun value => (read? word64 (Text.trim value)).map (· / 1024))
      (fun _ _ _ hread => (readAttribute_eq_ok hread).2.2.1) h]
    unfold Element.attribute?
    cases Element.last? _ "memory" <;> rfl
  cpus := by
    rw [eq_of_foldlM_readAttribute cpus (fun value => read? word32 (Text.trim value))
      (fun _ _ _ hread => (readAttribute_eq_ok hread).2.2.2) h]
    unfold Element.attribute?
    cases Element.last? _ "cpus" <;> rfl

/-- The clients of an inventory are its elements, in order. -/
theorem readFrom_of_readAll {text : List Char} {clients : List Client}
    (h : readAll text = .ok clients) :
    List.Forall₂ (fun e client => ReadFrom client e) (elements "iux:client".toList text)
      clients := by
  unfold readAll at h
  -- what follows holds of any elements, wherever they come from
  generalize elements "iux:client".toList text = es at h
  induction es generalizing clients with
  | nil =>
    obtain rfl : [] = clients := Except.ok.inj h
    exact .nil
  | cons e es ih =>
    rw [List.mapM_cons] at h
    obtain ⟨client, hclient, h⟩ := bind_eq_ok_iff.mp h
    obtain ⟨rest, hrest, h⟩ := bind_eq_ok_iff.mp h
    obtain rfl : client :: rest = clients := Except.ok.inj h
    exact .cons (readFrom_of_ofElement hclient) (ih hrest)

end Client

end VparFleet.Report
