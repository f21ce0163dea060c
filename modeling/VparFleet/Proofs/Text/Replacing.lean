import VparFleet.Proofs.Text.Parts

/-!
# Replacing parts of a text

Occurrences of a part are replaced from the left. Text that cannot hold an occurrence stays as it
is, so texts can be replaced in piece by piece where no occurrence reaches across. Where occurrences
are taken out, those that the cut brings about stay; a text without them is the same however much
of its front has been freed of occurrences before.

* `replaceAll_append_cons`: no occurrence reaches across a character that the part lacks.
* `replaceAll_nil_eq_self_iff`: only a text without occurrences stays as it is.
* `replaceAll_nil_append`: taking occurrences out of the front first.
-/

namespace VparFleet.Text

variable {part new text gap : List Char} {c : Char}

theorem replaceAll_cons_of_not (h : ¬part <+: c :: text) :
    replaceAll part new (c :: text) = c :: replaceAll part new text := by
  rw [replaceAll, if_neg fun hpart => h (List.isPrefixOf_iff_prefix.mp hpart.2)]

/-- An occurrence at the front is replaced. -/
theorem replaceAll_append_left (h : part ≠ []) :
    replaceAll part new (part ++ text) = new ++ replaceAll part new text := by
  obtain ⟨c, part, rfl⟩ := List.exists_cons_of_ne_nil h
  have hbegin : (c :: part).isPrefixOf (c :: (part ++ text)) = true :=
    List.isPrefixOf_iff_prefix.mpr (List.prefix_append (c :: part) text)
  rw [List.cons_append, replaceAll, if_pos ⟨h, hbegin⟩]
  simp

/-- A part is not found where its first character is missing. -/
theorem replaceAll_append_of_notMem (h : c ∉ gap) :
    replaceAll (c :: part) new (gap ++ text) = gap ++ replaceAll (c :: part) new text := by
  induction gap with
  | nil => rfl
  | cons d gap ih =>
    obtain ⟨hd, hgap⟩ := not_or.mp (List.mem_cons.not.mp h)
    rw [List.cons_append, replaceAll_cons_of_not fun hpart => hd (List.cons_prefix_cons.mp hpart).1,
      ih hgap, List.cons_append]

/-- A part does not reach across a character that it lacks. -/
theorem replaceAll_append_cons (hne : part ≠ []) (hc : c ∉ part) (before after : List Char) :
    replaceAll part new (before ++ c :: after)
      = replaceAll part new before ++ c :: replaceAll part new after := by
  by_cases hpart : part <+: before
  · obtain ⟨rest, rfl⟩ := hpart
    have hshorter : rest.length < (part ++ rest).length := by
      have := List.length_pos_of_ne_nil hne
      simp only [List.length_append]
      omega
    rw [List.append_assoc, replaceAll_append_left hne, replaceAll_append_left hne,
      replaceAll_append_cons hne hc rest, List.append_assoc]
  · have hwhole : ¬part <+: before ++ c :: after := (prefix_append_cons_iff hc).not.mpr hpart
    -- no occurrence begins at the first character, with the rest of the text or without
    cases before with
    | nil =>
      rw [List.nil_append, replaceAll_cons_of_not hwhole]
      simp [replaceAll]
    | cons d before =>
      rw [List.cons_append] at hwhole ⊢
      rw [replaceAll_cons_of_not hpart, replaceAll_cons_of_not hwhole,
        replaceAll_append_cons hne hc before, List.cons_append]
termination_by before.length

/-! ## Taking occurrences out -/

/-- Taking occurrences out adds nothing. -/
theorem replaceAll_nil_sublist (part text : List Char) :
    (replaceAll part [] text).Sublist text := by
  fun_induction replaceAll part [] text with
  | case1 => exact List.Sublist.refl _
  | case2 c cs hpart ih => exact (ih.trans (List.drop_sublist _ _)).cons c
  | case3 c cs hpart ih => exact ih.cons_cons c

/-- Only a text without occurrences stays as it is when they are taken out. -/
theorem replaceAll_nil_eq_self_iff (hne : part ≠ []) :
    replaceAll part [] text = text ↔ ¬part <:+: text := by
  induction text with
  | nil => simp [replaceAll, hne]
  | cons c text ih =>
    by_cases hpart : part <+: c :: text
    · refine iff_of_false (fun heq => ?_) (not_not.mpr hpart.isInfix)
      -- an occurrence at the front is taken out, and what is left is shorter
      obtain ⟨rest, hrest⟩ := hpart
      have hlonger := congrArg List.length heq
      rw [← hrest, replaceAll_append_left hne] at hlonger
      have := (replaceAll_nil_sublist part rest).length_le
      have := List.length_pos_of_ne_nil hne
      simp only [List.nil_append, List.length_append] at hlonger
      omega
    · rw [replaceAll_cons_of_not hpart, List.cons_inj_right, ih, List.infix_cons_iff, not_or]
      exact (and_iff_right hpart).symm

/-- Taking occurrences out of the front of a text first makes no difference, if taking them out of
the whole text leaves none. The part must not begin within itself. -/
theorem replaceAll_nil_append (hc : c ∉ part) (before after : List Char)
    (hnone : ¬c :: part <:+: replaceAll (c :: part) [] (before ++ after)) :
    replaceAll (c :: part) [] (replaceAll (c :: part) [] before ++ after)
      = replaceAll (c :: part) [] (before ++ after) := by
  have hne : c :: part ≠ [] := List.cons_ne_nil c part
  by_cases hbefore : c :: part <+: before
  · -- an occurrence at the front is taken out in both ways
    obtain ⟨rest, rfl⟩ := hbefore
    have hshorter : rest.length < (c :: part ++ rest).length := by
      simp only [List.length_append, List.length_cons]
      omega
    rw [List.append_assoc, replaceAll_append_left hne] at hnone ⊢
    rw [replaceAll_append_left hne]
    exact replaceAll_nil_append hc rest after hnone
  by_cases hwhole : c :: part <+: before ++ after
  · -- the first part of an occurrence is shorter than one
    have hshort : before <+: c :: part :=
      (List.prefix_or_prefix_of_prefix hwhole (List.prefix_append before after)).resolve_left
        hbefore
    have hfree : ¬c :: part <:+: before := fun hpart =>
      hbefore ((hpart.eq_of_length_le hshort.length_le) ▸ List.prefix_refl _)
    rw [(replaceAll_nil_eq_self_iff hne).mpr hfree]
  cases before with
  | nil => simp [replaceAll]
  | cons d before =>
    rw [List.cons_append] at hwhole hnone ⊢
    rw [replaceAll_cons_of_not hwhole] at hnone ⊢
    have hrest := replaceAll_nil_append hc before after fun hpart => hnone (List.infix_cons hpart)
    rw [replaceAll_cons_of_not hbefore, List.cons_append, ← hrest]
    refine replaceAll_cons_of_not fun hnew => hnone ?_
    -- an occurrence that begins here would stay, since none begins in the rest of it
    obtain ⟨rfl, later, hlater⟩ := List.cons_prefix_cons.mp hnew
    rw [← hrest, ← hlater, replaceAll_append_of_notMem hc]
    exact ⟨[], _, rfl⟩
termination_by before.length

end VparFleet.Text
