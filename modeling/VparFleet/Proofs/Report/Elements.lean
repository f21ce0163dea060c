import VparFleet.Proofs.Text.Parts
import VparFleet.Report.Inventory

/-!
# Printed elements

An element of the inventory is printed as a start tag with a name attribute, a body and an end tag.
It is read back from every text that begins with it, if neither its name nor its body holds what
ends them; what stands between elements is passed over, if no element can begin in it.

* `Passes`: texts that can stand before the first occurrence of a part.
* `Element.text`, `elements_text`: an element is read as it is printed.
* `Quiet`, `elements_append_of_quiet`: texts between elements.
* `elements_flatMap`: elements one after the other.
-/

namespace VparFleet.Report

open Text

/-! ## The first occurrence of a part -/

/-- Whether the first occurrence of a part is never reached before the end of a text. -/
def Passes (part text : List Char) : Prop :=
  ∀ rest, splitAt? part (text ++ rest)
    = (splitAt? part rest).map fun (before, after) => (text ++ before, after)

section Passes

variable {part text text' : List Char} {c : Char}

theorem passes_nil (part : List Char) : Passes part [] := by
  intro rest
  cases h : splitAt? part rest <;> simp [h]

/-- What can stand before a part can be followed by more of that kind. -/
theorem Passes.append (h : Passes part text) (h' : Passes part text') :
    Passes part (text ++ text') := by
  intro rest
  rw [List.append_assoc, h, h', Option.map_map]
  congr 1
  funext ⟨before, after⟩
  simp

/-- No occurrence begins at the first character. -/
theorem Passes.cons (hc : ∀ rest, ¬part <+: c :: (text ++ rest)) (h : Passes part text) :
    Passes part (c :: text) := by
  intro rest
  -- the search looks at the first character, and goes on
  have hnot : part.isPrefixOf (c :: (text ++ rest)) = false :=
    Bool.eq_false_iff.mpr fun hpart => hc rest (List.isPrefixOf_iff_prefix.mp hpart)
  rw [List.cons_append, splitAt?, if_neg (by simp [hnot]), h, Option.map_map]
  rfl

/-- A part begins nowhere in a text that lacks its first character. -/
theorem passes_of_notMem (h : c ∉ text) : Passes (c :: part) text := by
  induction text with
  | nil => exact passes_nil _
  | cons d text ih =>
    obtain ⟨hd, htext⟩ := not_or.mp (List.mem_cons.not.mp h)
    exact .cons (fun rest hpart => hd (List.cons_prefix_cons.mp hpart).1) (ih htext)

/-- A part does not reach across a character that it lacks. -/
theorem passes_append_singleton (hc : c ∉ part) (h : ¬part <:+: text) :
    Passes part (text ++ [c]) := by
  induction text with
  | nil =>
    refine .cons (fun rest hpart => ?_) (passes_nil part)
    have hsplit : part <+: [] ++ c :: rest := hpart
    exact h ((prefix_append_cons_iff hc).mp hsplit).isInfix
  | cons d text ih =>
    -- an occurrence that begins here would have to end before the character, and so lie in the text
    refine .cons (fun rest hpart => ?_) (ih fun htext => h (List.infix_cons htext))
    have hsplit : part <+: (d :: text) ++ c :: rest := by simpa using hpart
    exact h ((prefix_append_cons_iff hc).mp hsplit).isInfix

/-- A part is found where it begins. -/
theorem splitAt?_self (h : part ≠ []) (rest : List Char) :
    splitAt? part (part ++ rest) = some ([], rest) := by
  obtain ⟨c, part, rfl⟩ := List.exists_cons_of_ne_nil h
  have hbegin : (c :: part).isPrefixOf (c :: (part ++ rest)) = true :=
    List.isPrefixOf_iff_prefix.mpr (List.prefix_append (c :: part) rest)
  rw [List.cons_append, splitAt?, if_pos hbegin]
  simp

/-- The first occurrence after a text that does not hold one. -/
theorem Passes.splitAt? (h : Passes part text) (hne : part ≠ []) (rest : List Char) :
    Report.splitAt? part (text ++ (part ++ rest)) = some (text, rest) := by
  rw [h, splitAt?_self hne]
  simp

end Passes

/-! ## Elements -/

/-- A tag ends like a word, and no other tag begins in it. -/
structure IsTag (tag : List Char) : Prop where
  begins : '<' ∉ tag
  ends : tag.getLast?.any isWord = true

/-- The end tag of an element. -/
def endTag (tag : List Char) : List Char :=
  '<' :: '/' :: (tag ++ ['>'])

/-- An end tag begins no other. -/
theorem eq_of_endTag_begins {tag tag' rest : List Char} (htag : '>' ∉ tag) (htag' : '>' ∉ tag')
    (h : endTag tag <+: endTag tag' ++ rest) : tag = tag' := by
  have htags : tag ++ ['>'] <+: tag' ++ '>' :: rest := by
    simpa using (List.cons_prefix_cons.mp (List.cons_prefix_cons.mp h).2).2
  exact eq_of_marked_begins htag htag' htags

/-- What is printed between the tag and the name of an element. -/
def beforeName : List Char :=
  ' ' :: nameMark

namespace Element

/-- The text of an element after its tag. -/
def afterTag (tag : List Char) (e : Element) : List Char :=
  beforeName ++ (e.name ++ (['"'] ++ (['>'] ++ (e.body ++ endTag tag))))

/-- An element as it is printed. -/
def text (tag : List Char) (e : Element) : List Char :=
  '<' :: (tag ++ e.afterTag tag)

/-- Whether neither the name of an element nor its body holds what ends it. -/
structure Printable (tag : List Char) (e : Element) : Prop where
  name : '"' ∉ e.name
  body : Passes (endTag tag) e.body

end Element

/-- The name attribute is found after one space. -/
theorem afterNameMark?_beforeName (before : Option Char) (after : List Char) :
    afterNameMark? before (beforeName ++ after) = some after := by
  have hcons : nameMark ++ after = 'n' :: (nameMark.tail ++ after) := rfl
  have hspace : nameMark.isPrefixOf (' ' :: (nameMark ++ after)) = false := rfl
  have hmark : nameMark.isPrefixOf (nameMark ++ after) = true :=
    List.isPrefixOf_iff_prefix.mpr (List.prefix_append nameMark after)
  have hdrop : (nameMark ++ after).drop nameMark.length = after := List.drop_left
  have hedge : isWordEdge (some ' ') (some 'n') = true := by decide +kernel
  -- the mark stands behind the space, at the edge of a word
  have hfound : afterNameMark? (some ' ') (nameMark ++ after) = some after := by
    rw [hcons] at hmark hdrop ⊢
    rw [afterNameMark?, hmark, hedge, hdrop]
    rfl
  rw [beforeName, List.cons_append, afterNameMark?, hspace, Bool.false_and, if_neg (by decide),
    if_neg (by decide), hfound]

section elements

variable {tag gap text : List Char} {e : Element}

/-- An element with a name runs to the first end tag after its start tag. -/
theorem element?_named {name between : List Char} (htag : IsTag tag) (hname : '"' ∉ name)
    (hbetween : '>' ∉ between) (inside : List Char) :
    element? tag (beforeName ++ (name ++ (['"'] ++ (between ++ (['>'] ++ inside)))))
      = (splitAt? (endTag tag) inside).map fun (body, rest) => (⟨name, body⟩, rest) := by
  -- each part of a start tag ends at the first character that ends it
  have hspace : isWord ' ' = false := by decide +kernel
  have hedge : isWordEdge tag.getLast? (some ' ') = true := by
    simp [isWordEdge, htag.ends, hspace]
  have hquote (after : List Char) :
      splitAt? ['"'] (name ++ (['"'] ++ after)) = some (name, after) :=
    (passes_of_notMem hname).splitAt? (List.cons_ne_nil _ _) after
  have hclose (after : List Char) :
      splitAt? ['>'] (between ++ (['>'] ++ after)) = some (between, after) :=
    (passes_of_notMem hbetween).splitAt? (List.cons_ne_nil _ _) after
  have hclosing : "</".toList ++ tag ++ ['>'] = endTag tag := rfl
  have hhead : (beforeName ++ (name ++ (['"'] ++ (between ++ (['>'] ++ inside))))).head?
      = some ' ' := rfl
  rw [element?, hhead, hedge, afterNameMark?_beforeName]
  simp only [guard, if_true, Option.bind_eq_bind, Option.bind_some, Option.pure_def, hquote, hclose]
  -- what is left is the search for the end tag
  rw [hclosing]
  cases splitAt? (endTag tag) inside with
  | none => rfl
  | some parts => rfl

/-- What comes after a tag is read up to the end tag. -/
theorem element?_afterTag (htag : IsTag tag) (he : e.Printable tag) (rest : List Char) :
    element? tag (e.afterTag tag ++ rest) = some (e, rest) := by
  have htext : e.afterTag tag ++ rest = beforeName ++
      (e.name ++ (['"'] ++ ([] ++ (['>'] ++ (e.body ++ (endTag tag ++ rest)))))) := by
    simp [Element.afterTag]
  have hend : splitAt? (endTag tag) (e.body ++ (endTag tag ++ rest)) = some (e.body, rest) :=
    he.body.splitAt? (List.cons_ne_nil _ _) rest
  rw [htext, element?_named htag he.name List.not_mem_nil, hend]
  rfl

/-- What begins with a tag is an element, if it can be read as one. -/
theorem elements_cons_tag (tag after : List Char) :
    elements tag ('<' :: (tag ++ after))
      = match element? tag after with
        | some (e, rest) => e :: elements tag rest
        | none => elements tag (tag ++ after) := by
  have hbegin : tag.isPrefixOf (tag ++ after) = true :=
    List.isPrefixOf_iff_prefix.mpr (List.prefix_append tag after)
  have hread : element? tag ((tag ++ after).drop tag.length) = element? tag after := by
    rw [List.drop_left]
  rw [elements, if_pos (by simp [hbegin])]
  -- the reading is the same for both ways to say where it begins
  generalize element? tag ((tag ++ after).drop tag.length) = found at hread ⊢
  subst hread
  cases element? tag after with
  | none => rfl
  | some read => rfl

/-- An element is read as it is printed. -/
theorem elements_text (htag : IsTag tag) (he : e.Printable tag) (rest : List Char) :
    elements tag (e.text tag ++ rest) = e :: elements tag rest := by
  rw [Element.text, List.cons_append, List.append_assoc, elements_cons_tag,
    element?_afterTag htag he rest]

/-! ## Between elements -/

/-- Whether no element with a tag begins in a text: where `<` and the tag stand, the word goes
on. -/
def Quiet (tag gap : List Char) : Prop :=
  ∀ before after, gap = before ++ '<' :: (tag ++ after) →
    ∃ c rest, after = c :: rest ∧ isWord c = true

theorem quiet_of_notMem (h : '<' ∉ gap) : Quiet tag gap := by
  rintro before after rfl
  simp at h

/-- No element begins at a character. -/
theorem elements_cons_of_none {c : Char}
    (h : c = '<' → ∀ after, text = tag ++ after → element? tag after = none) :
    elements tag (c :: text) = elements tag text := by
  by_cases hbegin : (decide (c = '<') && tag.isPrefixOf text) = true
  · -- a tag that stands here is not read as an element
    obtain ⟨hc, htag⟩ := Bool.and_eq_true_iff.mp hbegin
    obtain ⟨after, rfl⟩ := List.isPrefixOf_iff_prefix.mp htag
    obtain rfl : c = '<' := of_decide_eq_true hc
    rw [elements_cons_tag, h rfl after rfl]
  · rw [elements, if_neg hbegin]

/-- What is printed before an element, or after the last one, is passed over. -/
theorem elements_append_of_quiet (htag : IsTag tag) (hgap : Quiet tag gap)
    (htext : text = [] ∨ ∃ rest, text = '<' :: rest) :
    elements tag (gap ++ text) = elements tag text := by
  -- character by character: no element begins at any of them
  induction gap with
  | nil => rfl
  | cons c gap ih =>
    have hquiet : Quiet tag gap := fun before after h => hgap (c :: before) after (by rw [h]; rfl)
    rw [List.cons_append, elements_cons_of_none, ih hquiet]
    rintro rfl after hafter
    -- the tag ends before the element that comes next
    have hbegin : tag <+: gap := by
      have hwhole : tag <+: gap ++ text := ⟨after, hafter.symm⟩
      rcases htext with rfl | ⟨rest, rfl⟩
      · simpa using hwhole
      · exact (prefix_append_cons_iff htag.begins).mp hwhole
    obtain ⟨inside, rfl⟩ := hbegin
    obtain ⟨c, rest, rfl, hc⟩ := hgap [] inside rfl
    have hsame : after = c :: (rest ++ text) := by simpa using hafter.symm
    -- where the tag stands, the word goes on, so it is no tag
    have hedge : isWordEdge tag.getLast? (some c) = false := by
      simp [isWordEdge, htag.ends, hc]
    rw [hsame, element?, List.head?_cons, hedge]
    rfl

/-- Elements are read as they are printed, each after a text of its own. -/
theorem elements_flatMap {α : Type} (before : α → List Char) (element : α → Element)
    {items : List α} {last : List Char} (htag : IsTag tag)
    (hbefore : ∀ item ∈ items, Quiet tag (before item))
    (helement : ∀ item ∈ items, (element item).Printable tag) (hlast : Quiet tag last) :
    elements tag (items.flatMap (fun item => before item ++ (element item).text tag) ++ last)
      = items.map element := by
  induction items with
  | nil =>
    have hskip := elements_append_of_quiet htag hlast (.inl rfl)
    rw [List.append_nil] at hskip
    rw [List.flatMap_nil, List.nil_append, hskip, elements]
    rfl
  | cons item items ih =>
    obtain ⟨hquiet, hbefore⟩ := List.forall_mem_cons.mp hbefore
    obtain ⟨hprintable, helement⟩ := List.forall_mem_cons.mp helement
    -- the text before an element ends where that begins
    have hskip (rest : List Char) : elements tag (before item ++ ((element item).text tag ++ rest))
        = elements tag ((element item).text tag ++ rest) :=
      elements_append_of_quiet htag hquiet (.inr ⟨_, rfl⟩)
    rw [List.flatMap_cons, List.append_assoc, List.append_assoc, hskip,
      elements_text htag hprintable, ih hbefore helement, List.map_cons]

end elements

end VparFleet.Report
