import VparFleet.Proofs.Report.Elements

/-!
# Self-closed elements

An element without a body can be written as a single tag that closes itself. It is read as a start
tag all the same: its body runs to the next end tag, so it takes in everything up to the end of the
next element that has one. An element that nothing ends is passed over.

* `Written`: an element in one of its two forms.
* `taken`: the elements that are read.
* `elements_written`: elements in any forms are read in this way.
* `taken_of_settled`: self-closed elements after all others disturb none of them.
-/

namespace VparFleet.Report

open Text

variable {tag gap last name close : List Char} {items : List (List Char × Written)}

/-- A start tag. What stands between the name and its end is a slash if the tag closes itself. -/
def startTag (tag name close : List Char) : List Char :=
  '<' :: (tag ++ (beforeName ++ (name ++ (['"'] ++ (close ++ ['>'])))))

/-- An element as it is written: with an end tag of its own, or self-closed. -/
inductive Written where
  | pair (e : Element)
  | selfClosed (name : List Char)

namespace Written

/-- The element in its form. -/
def text (tag : List Char) : Written → List Char
  | .pair e => e.text tag
  | .selfClosed name => startTag tag name ['/']

/-- The element that has an end tag of its own. -/
def pair? : Written → Option Element
  | .pair e => some e
  | .selfClosed _ => none

/-- Whether neither the name nor the body of an element holds what ends them, and no tag begins in
the name. -/
def Printable (tag : List Char) : Written → Prop
  | .pair e => e.Printable tag ∧ '<' ∉ e.name
  | .selfClosed name => '"' ∉ name ∧ '<' ∉ name

end Written

/-- Whether no element begins or ends in a text that stands between elements. -/
structure IsGap (tag gap : List Char) : Prop where
  quiet : Quiet tag gap
  passes : Passes (endTag tag) gap

/-- Elements in any forms, each after a text of its own. -/
def writtenText (tag : List Char) (items : List (List Char × Written)) : List Char :=
  items.flatMap fun item => item.1 ++ item.2.text tag

/-- The elements that are read, when what stands before them may be an element that has not ended
yet: its name, and its body so far. -/
def taken (tag : List Char) : Option Element → List (List Char × Written) → List Element
  | _, [] => []
  | none, (_, .pair e) :: items => e :: taken tag none items
  | none, (_, .selfClosed name) :: items => taken tag (some ⟨name, []⟩) items
  | some e, (gap, .pair other) :: items =>
    ⟨e.name, e.body ++ gap ++ startTag tag other.name [] ++ other.body⟩ :: taken tag none items
  | some e, (gap, .selfClosed name) :: items =>
    taken tag (some ⟨e.name, e.body ++ gap ++ startTag tag name ['/']⟩) items

/-! ## An element that has not ended -/

/-- What is read after an element that has not ended yet. -/
def readOn (tag : List Char) (e : Element) (text : List Char) : List Element :=
  match splitAt? (endTag tag) text with
  | none => []
  | some (more, after) => ⟨e.name, e.body ++ more⟩ :: elements tag after

/-- A text without the end tag becomes a part of the body. -/
theorem readOn_append (h : Passes (endTag tag) gap) (e : Element) (text : List Char) :
    readOn tag e (gap ++ text) = readOn tag ⟨e.name, e.body ++ gap⟩ text := by
  rw [readOn, h, readOn]
  cases splitAt? (endTag tag) text with
  | none => rfl
  | some parts => simp

/-- The end tag ends the element, and reading goes on behind it. -/
theorem readOn_endTag (e : Element) (text : List Char) :
    readOn tag e (endTag tag ++ text) = e :: elements tag text := by
  have hne : endTag tag ≠ [] := List.cons_ne_nil _ _
  rw [readOn, splitAt?_self hne]
  simp

theorem text_eq (tag : List Char) (e : Element) :
    e.text tag = startTag tag e.name [] ++ (e.body ++ endTag tag) := by
  simp [Element.text, Element.afterTag, startTag]

/-- Inside a start tag no other tag begins. -/
theorem notMem_tail_startTag (htag : IsTag tag) (hname : '<' ∉ name) (hclose : '<' ∉ close) :
    '<' ∉ (startTag tag name close).tail := by
  have hbefore : '<' ∉ beforeName := by decide
  simp [startTag, htag.begins, hbefore, hname, hclose]

/-- No end tag is found in a start tag. -/
theorem passes_startTag (ended : List Char) (htag : IsTag tag) (hslash : '/' ∉ tag)
    (hname : '<' ∉ name) (hclose : '<' ∉ close) :
    Passes (endTag ended) (startTag tag name close) := by
  refine .cons (fun rest hbegin => ?_)
    (passes_of_notMem (notMem_tail_startTag htag hname hclose))
  -- an end tag goes on with a slash, and no slash begins the tag
  have hend := (List.cons_prefix_cons.mp hbegin).2
  cases tag with
  | nil => cases htag.ends
  | cons t tag =>
    refine hslash ?_
    rw [(List.cons_prefix_cons.mp hend).1]
    exact List.mem_cons_self

/-- Text without tags is passed over. -/
theorem elements_append_of_notMem (h : '<' ∉ gap) (text : List Char) :
    elements tag (gap ++ text) = elements tag text := by
  induction gap with
  | nil => rfl
  | cons c gap ih =>
    obtain ⟨hc, hgap⟩ := not_or.mp (List.mem_cons.not.mp h)
    rw [List.cons_append, elements_cons_of_none fun heq => absurd heq.symm hc, ih hgap]

/-- A self-closed element is read as one that has not ended yet, or passed over if nothing ends
it. -/
theorem elements_selfClosed (htag : IsTag tag) (hquote : '"' ∉ name) (hname : '<' ∉ name)
    (text : List Char) :
    elements tag (startTag tag name ['/'] ++ text)
      = if splitAt? (endTag tag) text = none then elements tag text
        else readOn tag ⟨name, []⟩ text := by
  have hshape : startTag tag name ['/'] ++ text
      = '<' :: (tag ++ (beforeName ++ (name ++ (['"'] ++ (['/'] ++ (['>'] ++ text)))))) := by
    simp [startTag]
  rw [hshape, elements_cons_tag, element?_named htag hquote (by decide), readOn]
  cases splitAt? (endTag tag) text with
  | none =>
    have hskip : elements tag ((startTag tag name ['/']).tail ++ text) = elements tag text :=
      elements_append_of_notMem (notMem_tail_startTag htag hname (by decide)) text
    simpa [startTag] using hskip
  | some parts => rfl

/-! ## Elements in any forms -/

/-- Without an end tag, nothing is read. -/
theorem taken_eq_nil_iff {e : Element} :
    taken tag (some e) items = [] ↔ ∀ item ∈ items, item.2.pair? = none := by
  induction items generalizing e with
  | nil => simp [taken]
  | cons item items ih =>
    obtain ⟨gap, form⟩ := item
    cases form with
    | pair other => simp [taken, Written.pair?]
    | selfClosed name => simp [taken, Written.pair?, ih]

/-- Self-closed elements alone are not read at all. -/
theorem taken_none_of_all (h : ∀ item ∈ items, item.2.pair? = none) :
    taken tag none items = [] := by
  cases items with
  | nil => rfl
  | cons item items =>
    obtain ⟨hform, hitems⟩ := List.forall_mem_cons.mp h
    obtain ⟨gap, form⟩ := item
    cases form with
    | pair other => cases hform
    | selfClosed name => exact taken_eq_nil_iff.mpr hitems

/-- Elements in any forms are read as `taken` says, also after an element that has not ended
yet. -/
theorem elements_written (htag : IsTag tag) (hslash : '/' ∉ tag)
    (hitems : ∀ item ∈ items, IsGap tag item.1 ∧ item.2.Printable tag) (hlast : IsGap tag last) :
    elements tag (writtenText tag items ++ last) = taken tag none items ∧
      ∀ e, readOn tag e (writtenText tag items ++ last) = taken tag (some e) items := by
  -- one induction for both: each form leads from one way of reading to the other
  induction items with
  | nil =>
    have hskip := elements_append_of_quiet htag hlast.quiet (.inl rfl)
    have hend := hlast.passes []
    rw [List.append_nil] at hskip hend
    refine ⟨?_, fun e => ?_⟩
    · rw [writtenText, List.flatMap_nil, List.nil_append, hskip, elements]
      rfl
    · rw [writtenText, List.flatMap_nil, List.nil_append, readOn, hend]
      rfl
  | cons item items ih =>
    obtain ⟨⟨hgap, hform⟩, hitems⟩ := List.forall_mem_cons.mp hitems
    obtain ⟨hread, hreadOn⟩ := ih hitems
    obtain ⟨gap, form⟩ := item
    have hcons : writtenText tag ((gap, form) :: items) ++ last
        = gap ++ (form.text tag ++ (writtenText tag items ++ last)) := by
      simp [writtenText]
    rw [hcons]
    have hskip (rest : List Char) :
        elements tag (gap ++ (form.text tag ++ rest)) = elements tag (form.text tag ++ rest) := by
      refine elements_append_of_quiet htag hgap.quiet (.inr ?_)
      cases form <;> exact ⟨_, rfl⟩
    cases form with
    | pair other =>
      obtain ⟨hprintable, hname⟩ := hform
      refine ⟨?_, fun e => ?_⟩
      · rw [hskip, Written.text, elements_text htag hprintable, hread, taken]
      · -- the gap, the start tag and the body all go into the element before, which its end tag
        -- ends
        rw [readOn_append hgap.passes, Written.text, text_eq, List.append_assoc,
          List.append_assoc, readOn_append (passes_startTag tag htag hslash hname List.not_mem_nil),
          readOn_append hprintable.body, readOn_endTag, hread, taken]
    | selfClosed name =>
      obtain ⟨hquote, hname⟩ := hform
      refine ⟨?_, fun e => ?_⟩
      · rw [hskip, Written.text, elements_selfClosed htag hquote hname, taken,
          ← hreadOn]
        split
        · next hnone =>
          -- no end tag is left, so none of the others is read either
          have hnil : taken tag (some ⟨name, []⟩) items = [] := by
            rw [← hreadOn, readOn, hnone]
          rw [hread, taken_none_of_all (taken_eq_nil_iff.mp hnil), hreadOn, hnil]
        · rfl
      · rw [readOn_append hgap.passes, Written.text,
          readOn_append (passes_startTag tag htag hslash hname (by decide)), hreadOn, taken]

/-- Whether no element with an end tag follows a self-closed one. -/
def Settled (forms : List Written) : Prop :=
  forms.Pairwise fun earlier later => earlier.pair? = none → later.pair? = none

/-- Where every element has an end tag, none follows a self-closed one. -/
theorem settled_of_pairs {forms : List Written} (h : ∀ form ∈ forms, form.pair? ≠ none) :
    Settled forms :=
  List.pairwise_of_forall_mem_list fun earlier hearlier _ _ hnone =>
    absurd hnone (h earlier hearlier)

/-- Self-closed elements that only others of their kind follow disturb nothing. -/
theorem taken_of_settled (h : Settled (items.map (·.2))) :
    taken tag none items = items.filterMap (·.2.pair?) := by
  induction items with
  | nil => rfl
  | cons item items ih =>
    obtain ⟨hlater, hitems⟩ := List.pairwise_cons.mp h
    obtain ⟨gap, form⟩ := item
    cases form with
    | pair e =>
      rw [taken, ih hitems]
      rfl
    | selfClosed name =>
      -- after a self-closed element, all are self-closed
      have hnone : ∀ item ∈ items, item.2.pair? = none := fun item hitem =>
        hlater item.2 (List.mem_map_of_mem hitem) rfl
      rw [taken, taken_eq_nil_iff.mpr hnone]
      exact (List.filterMap_eq_nil_iff.mpr (List.forall_mem_cons.mpr ⟨rfl, hnone⟩)).symm

end VparFleet.Report
