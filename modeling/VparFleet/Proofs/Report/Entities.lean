import VparFleet.Proofs.Text.Replacing
import VparFleet.Report.Inventory

/-!
# Entities

Markup writes five characters as entities. They are read by replacing one entity after the other,
the ampersand last: an ampersand that was written as an entity begins no other entity before its
turn comes, so that reading undoes writing.

* `escape`: writes a text with entities.
* `replaceAll_encode`: replacing one entity leaves the others as they are.
* `unescape_escape`: what is read is what was written.
* `notMem_escape`, `trim_escape`: what a written text does not hold.
-/

namespace VparFleet.Report

open Text

/-- The characters that have entities, in the order in which these are read. -/
def special : List Char :=
  ['<', '>', '"', '\'', '&']

/-- The name of the entity of a special character. -/
def entityName (c : Char) : List Char :=
  if c = '<' then "lt".toList
  else if c = '>' then "gt".toList
  else if c = '"' then "quot".toList
  else if c = '\'' then "apos".toList
  else "amp".toList

/-- The entity of a special character. -/
def entity (c : Char) : List Char :=
  '&' :: (entityName c ++ [';'])

/-- A text in which some characters are written as entities. -/
def encode (written : List Char) (text : List Char) : List Char :=
  text.flatMap fun c => if c ∈ written then entity c else [c]

/-- A text in which all special characters are written as entities. -/
def escape (text : List Char) : List Char :=
  encode special text

/-! ## Writing and reading -/

theorem entityName_plain : ∀ c ∈ special, '&' ∉ entityName c ∧ ';' ∉ entityName c := by
  simp [special, entityName]

theorem entityName_inj : ∀ c ∈ special, ∀ d ∈ special, entityName c = entityName d → c = d := by
  simp [special, entityName]

/-- No entity begins another. -/
theorem eq_of_entity_begins {c d : Char} (hc : c ∈ special) (hd : d ∈ special) {text : List Char}
    (h : entity d <+: entity c ++ text) : d = c := by
  have hnames : entityName d ++ [';'] <+: entityName c ++ ';' :: text := by
    simpa using (List.cons_prefix_cons.mp h).2
  exact entityName_inj d hd c hc
    (eq_of_marked_begins (entityName_plain d hd).2 (entityName_plain c hc).2 hnames)

theorem encode_cons (written : List Char) (c : Char) (text : List Char) :
    encode written (c :: text)
      = (if c ∈ written then entity c else [c]) ++ encode written text :=
  List.flatMap_cons

theorem encode_nil (text : List Char) : encode [] text = text := by
  simp [encode]

/-- Replacing the entity of a character leaves the others as they are. As long as ampersands are
written as entities, each ampersand begins one. -/
theorem replaceAll_encode {d : Char} {written : List Char} (hspecial : d :: written ⊆ special)
    (hd : d ∉ written) (hamp : '&' ∈ d :: written) (text : List Char) :
    replaceAll (entity d) [d] (encode (d :: written) text) = encode written text := by
  -- what is written of each character is a text of its own, and the replacing goes over it as a
  -- whole
  induction text with
  | nil => simp [encode, replaceAll]
  | cons c text ih =>
    rw [encode_cons, encode_cons, ← ih]
    by_cases hcd : c = d
    · rw [hcd, if_pos List.mem_cons_self, if_neg hd]
      exact replaceAll_append_left (List.cons_ne_nil _ _)
    · have hiff : c ∈ d :: written ↔ c ∈ written := by simp [hcd]
      by_cases hwritten : c ∈ written
      · -- the entity of another character: it differs in its name, and no entity begins inside of
        -- it
        have hc : c ∈ special := hspecial (List.mem_cons_of_mem d hwritten)
        have hother : ¬entity d <+: entity c ++ encode (d :: written) text :=
          fun h => hcd (eq_of_entity_begins hc (hspecial List.mem_cons_self) h).symm
        have hname : '&' ∉ entityName c ++ [';'] := by
          simpa using (entityName_plain c hc).1
        rw [if_pos (hiff.mpr hwritten), if_pos hwritten]
        refine (replaceAll_cons_of_not hother).trans ?_
        exact congrArg _ (replaceAll_append_of_notMem hname)
      · -- a character that stands for itself is no ampersand, as long as those are entities
        have hplain : '&' ≠ c := fun h => hwritten (hiff.mp (h ▸ hamp))
        have hother : ¬entity d <+: c :: encode (d :: written) text :=
          fun h => hplain (List.cons_prefix_cons.mp h).1
        rw [if_neg (hiff.not.mpr hwritten), if_neg hwritten]
        exact replaceAll_cons_of_not hother

/-- What is read is what was written. -/
theorem unescape_escape (text : List Char) : unescape (escape text) = text := by
  have hlt : replaceAll (entity '<') ['<'] (encode special text)
      = encode ['>', '"', '\'', '&'] text :=
    replaceAll_encode (by decide) (by decide) (by decide) text
  have hgt : replaceAll (entity '>') ['>'] (encode ['>', '"', '\'', '&'] text)
      = encode ['"', '\'', '&'] text :=
    replaceAll_encode (by decide) (by decide) (by decide) text
  have hquot : replaceAll (entity '"') ['"'] (encode ['"', '\'', '&'] text)
      = encode ['\'', '&'] text :=
    replaceAll_encode (by decide) (by decide) (by decide) text
  have hapos : replaceAll (entity '\'') ['\''] (encode ['\'', '&'] text) = encode ['&'] text :=
    replaceAll_encode (by decide) (by decide) (by decide) text
  have hamp : replaceAll (entity '&') ['&'] (encode ['&'] text) = encode [] text :=
    replaceAll_encode (by decide) (by decide) (by decide) text
  calc unescape (escape text)
      = replaceAll (entity '&') ['&'] (replaceAll (entity '\'') ['\'']
          (replaceAll (entity '"') ['"'] (replaceAll (entity '>') ['>']
            (replaceAll (entity '<') ['<'] (encode special text))))) := rfl
    _ = text := by rw [hlt, hgt, hquot, hapos, hamp, encode_nil]

/-! ## Written texts -/

theorem entityName_notMem : ∀ d ∈ special, ∀ c ∈ entityName d, c ∉ special := by
  simp [special, entityName]

/-- The only special character in a written text is the ampersand. -/
theorem notMem_escape {c : Char} (hc : c ∈ special) (hamp : c ≠ '&') (text : List Char) :
    c ∉ escape text := by
  intro h
  obtain ⟨d, -, hd⟩ := List.mem_flatMap.mp h
  by_cases hspecial : d ∈ special
  · rw [if_pos hspecial, entity, List.mem_cons, List.mem_append, List.mem_singleton] at hd
    -- an entity is an ampersand, a name, and a semicolon
    rcases hd with rfl | hname | rfl
    · exact hamp rfl
    · exact entityName_notMem d hspecial c hname hc
    · exact absurd hc (by decide)
  · rw [if_neg hspecial, List.mem_singleton] at hd
    exact hspecial (hd ▸ hc)

/-- A text without blanks around it is written without blanks around it. -/
theorem trim_escape {text : List Char} (hfirst : ∀ c, text.head? = some c → isBlank c = false)
    (hlast : ∀ c, text.getLast? = some c → isBlank c = false) :
    trim (escape text) = escape text := by
  have hpiece (c : Char) : (if c ∈ special then entity c else [c]) ≠ [] := by
    split <;> exact List.cons_ne_nil _ _
  refine trim_eq_self (fun c hc => ?_) fun c hc => ?_
  · -- the first character that is written is the first of the text, or an ampersand
    cases text with
    | nil => exact nomatch hc
    | cons d text =>
      rw [escape, encode_cons, List.head?_append_of_ne_nil _ (hpiece d)] at hc
      by_cases hd : d ∈ special
      · rw [if_pos hd] at hc
        obtain rfl : '&' = c := Option.some.inj hc
        decide
      · rw [if_neg hd] at hc
        obtain rfl : d = c := Option.some.inj hc
        exact hfirst d rfl
  · -- the last one is the last of the text, or a semicolon
    rcases List.eq_nil_or_concat' text with rfl | ⟨text, d, rfl⟩
    · exact nomatch hc
    · rw [escape, encode, List.flatMap_append, List.flatMap_singleton,
        List.getLast?_append_of_ne_nil _ (hpiece d)] at hc
      by_cases hd : d ∈ special
      · rw [if_pos hd, entity, ← List.cons_append, List.getLast?_concat] at hc
        obtain rfl : ';' = c := Option.some.inj hc
        decide
      · rw [if_neg hd] at hc
        obtain rfl : d = c := Option.some.inj hc
        exact hlast d List.getLast?_concat

end VparFleet.Report
