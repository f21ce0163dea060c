import Mathlib.Data.List.TakeWhile
import VparFleet.Text.Escape

/-!
# Escape sequences as they are written

A sequence is read exactly as far as it is written, and nothing outside of one is passed over. So a
text has a front in which every sequence is complete, and after it at most one sequence that the
text cuts off.

* `afterSequence?_eq_some_iff`, `afterSequence?_eq_none_iff`: a sequence is read as it is written.
* `dropSequences_append_of_complete`: after such a front, what follows is read on its own.
* `exists_front`: the two parts of a text.
-/

namespace VparFleet.Text.Escape

variable {cs rest front plain tail s : List Char} {c : Char}

/-- A sequence as it is written. Any character that ends no sequence may be a parameter, the escape
character too. -/
inductive Sequence : List Char → Prop
  | bracketed (params : List Char) (last : Char) (hparams : ∀ c ∈ params, ¬('@' ≤ c ∧ c ≤ '~'))
      (hlast : '@' ≤ last ∧ last ≤ '~') : Sequence (esc :: '[' :: (params ++ [last]))
  | single (c : Char) (h : c ≠ '[') : Sequence [esc, c]

/-- The front of a sequence that ends too early. -/
inductive Unfinished : List Char → Prop
  | lone : Unfinished [esc]
  | bracketed (params : List Char) (hparams : ∀ c ∈ params, ¬('@' ≤ c ∧ c ≤ '~')) :
      Unfinished (esc :: '[' :: params)

theorem Sequence.exists_eq_cons (h : Sequence s) : ∃ after, s = esc :: after := by
  cases h <;> exact ⟨_, rfl⟩

theorem Unfinished.exists_eq_cons (h : Unfinished tail) : ∃ params, tail = esc :: params := by
  cases h <;> exact ⟨_, rfl⟩

/-! ## Reading one sequence -/

theorem isFinal_iff : isFinal c = true ↔ '@' ≤ c ∧ c ≤ '~' := by
  simp [isFinal]

theorem not_isFinal_iff : (!isFinal c) = true ↔ ¬('@' ≤ c ∧ c ≤ '~') := by
  rw [← isFinal_iff]
  simp

/-- A sequence is passed over. -/
theorem Sequence.afterSequence? (h : Sequence (esc :: s)) (rest : List Char) :
    afterSequence? (s ++ rest) = some rest := by
  cases h with
  | bracketed params last hparams hlast =>
    -- the parameters are passed over up to the final character
    have hdrop : (params ++ last :: rest).dropWhile (!isFinal ·) = last :: rest := by
      rw [List.dropWhile_append_of_pos fun c hc => not_isFinal_iff.mpr (hparams c hc),
        List.dropWhile_cons_of_neg (p := (!isFinal ·)) fun hnot => not_isFinal_iff.mp hnot hlast]
    rw [List.cons_append, List.append_assoc, List.singleton_append, Escape.afterSequence?, hdrop,
      List.tail?_cons]
  | single c hc =>
    rw [List.singleton_append, Escape.afterSequence?]
    exact hc

/-- Nothing comes after a sequence that is cut off. -/
theorem Unfinished.afterSequence? (h : Unfinished (esc :: cs)) : afterSequence? cs = none := by
  cases h with
  | lone => rfl
  | bracketed params hparams =>
    have hdrop : params.dropWhile (!isFinal ·) = [] :=
      List.dropWhile_eq_nil_iff.mpr fun c hc => not_isFinal_iff.mpr (hparams c hc)
    rw [Escape.afterSequence?, hdrop, List.tail?_nil]

/-- Whatever follows an escape character completes a sequence at some point, or never does. -/
theorem sequence_or_unfinished (cs : List Char) :
    (∃ s rest, Sequence (esc :: s) ∧ cs = s ++ rest) ∨ Unfinished (esc :: cs) := by
  cases cs with
  | nil => exact .inr .lone
  | cons c cs =>
    by_cases hc : c = '['
    · subst hc
      cases hdrop : cs.dropWhile (!isFinal ·) with
      | nil =>
        have hnone := List.dropWhile_eq_nil_iff.mp hdrop
        exact .inr (.bracketed cs fun c hc => not_isFinal_iff.mp (hnone c hc))
      | cons last rest =>
        -- the parameters end at the first final character, which may be another bracket
        have hparams : ∀ c ∈ cs.takeWhile (!isFinal ·), ¬('@' ≤ c ∧ c ≤ '~') := fun c hc =>
          not_isFinal_iff.mp (List.mem_takeWhile_imp (p := (!isFinal ·)) hc)
        have hlast : '@' ≤ last ∧ last ≤ '~' := by
          have hnot := List.head?_dropWhile_not (!isFinal ·) cs
          rw [hdrop] at hnot
          simpa [isFinal_iff] using hnot
        refine .inl ⟨'[' :: (cs.takeWhile (!isFinal ·) ++ [last]), rest,
          .bracketed _ last hparams hlast, ?_⟩
        rw [List.cons_append, List.append_assoc, List.singleton_append, ← hdrop,
          List.takeWhile_append_dropWhile]
    · exact .inl ⟨[c], cs, .single c hc, rfl⟩

/-- After an escape character, exactly what completes a sequence is passed over. -/
theorem afterSequence?_eq_some_iff :
    afterSequence? cs = some rest ↔ ∃ s, Sequence (esc :: s) ∧ cs = s ++ rest := by
  constructor
  · intro h
    rcases sequence_or_unfinished cs with ⟨s, after, hs, rfl⟩ | hcut
    · rw [hs.afterSequence?, Option.some.injEq] at h
      exact ⟨s, hs, h ▸ rfl⟩
    · cases hcut.afterSequence?.symm.trans h
  · rintro ⟨s, hs, rfl⟩
    exact hs.afterSequence? rest

/-- Nothing follows a sequence exactly if the text cuts it off. -/
theorem afterSequence?_eq_none_iff : afterSequence? cs = none ↔ Unfinished (esc :: cs) := by
  refine ⟨fun h => ?_, Unfinished.afterSequence?⟩
  rcases sequence_or_unfinished cs with ⟨s, rest, hs, rfl⟩ | hcut
  · cases (hs.afterSequence? rest).symm.trans h
  · exact hcut

theorem afterSequence?_append (h : afterSequence? cs = some rest) (more : List Char) :
    afterSequence? (cs ++ more) = some (rest ++ more) := by
  obtain ⟨s, hs, rfl⟩ := afterSequence?_eq_some_iff.mp h
  rw [List.append_assoc, hs.afterSequence?]

/-! ## Reading a text -/

/-- A sequence at the front is dropped. -/
theorem dropSequences_esc_of_some (h : afterSequence? cs = some rest) :
    dropSequences (esc :: cs) = dropSequences rest := by
  rw [dropSequences, if_pos rfl]
  split
  · next found => rw [Option.some.inj (found.symm.trans h)]
  · next found => cases found.symm.trans h

/-- A sequence that is cut off stays. -/
theorem dropSequences_esc_of_none (h : afterSequence? cs = none) :
    dropSequences (esc :: cs) = esc :: cs := by
  rw [dropSequences, if_pos rfl]
  split
  · next found => cases found.symm.trans h
  · rfl

theorem dropSequences_cons (h : c ≠ esc) : dropSequences (c :: cs) = c :: dropSequences cs := by
  rw [dropSequences, if_neg h]

theorem Sequence.dropSequences_append (h : Sequence s) (rest : List Char) :
    dropSequences (s ++ rest) = dropSequences rest := by
  obtain ⟨s, rfl⟩ := h.exists_eq_cons
  rw [List.cons_append, dropSequences_esc_of_some (h.afterSequence? rest)]

/-- A sequence that is cut off is all that is left of itself. -/
theorem Unfinished.dropSequences (h : Unfinished tail) : dropSequences tail = tail := by
  obtain ⟨params, rfl⟩ := h.exists_eq_cons
  exact dropSequences_esc_of_none h.afterSequence?

/-- Dropping sequences adds nothing. -/
theorem dropSequences_sublist (text : List Char) : (dropSequences text).Sublist text := by
  fun_induction Escape.dropSequences text with
  | case1 => exact List.Sublist.refl _
  | case2 cs rest hrest ih =>
    obtain ⟨s, _, rfl⟩ := afterSequence?_eq_some_iff.mp hrest
    exact (ih.trans (List.sublist_append_right s rest)).cons esc
  | case3 cs hrest => exact List.Sublist.refl _
  | case4 c cs hc ih => exact ih.cons_cons c

/-- An escape character is left only of a sequence that is cut off. After a text without one, what
follows is read on its own. -/
theorem dropSequences_append_of_complete (h : esc ∉ dropSequences front) (more : List Char) :
    dropSequences (front ++ more) = dropSequences front ++ dropSequences more := by
  -- along `dropSequences`: a sequence that is complete stays so whatever follows
  fun_induction Escape.dropSequences front with
  | case1 => rfl
  | case2 cs rest hrest ih =>
    rw [List.cons_append, dropSequences_esc_of_some (afterSequence?_append hrest more), ih h]
  -- a sequence that is cut off would leave an escape character
  | case3 cs hrest => exact absurd List.mem_cons_self h
  | case4 c cs hc ih =>
    rw [List.cons_append, dropSequences_cons hc, ih (fun hmem => h (List.mem_cons_of_mem c hmem)),
      List.cons_append]

theorem dropSequences_append (h : esc ∉ plain) (more : List Char) :
    dropSequences (plain ++ more) = plain ++ dropSequences more := by
  have hself : dropSequences plain = plain := dropSequences_eq_self h
  rw [dropSequences_append_of_complete (hself.symm ▸ h), hself]

/-- A text is a front in which all sequences are complete, and then nothing or one sequence that
it cuts off. -/
theorem exists_front (text : List Char) :
    ∃ front tail, text = front ++ tail ∧ esc ∉ dropSequences front ∧
      (tail = [] ∨ Unfinished tail) := by
  fun_induction Escape.dropSequences text with
  | case1 => exact ⟨[], [], rfl, by simp [dropSequences], .inl rfl⟩
  | case2 cs rest hrest ih =>
    obtain ⟨s, hs, rfl⟩ := afterSequence?_eq_some_iff.mp hrest
    obtain ⟨front, tail, rfl, hfront, htail⟩ := ih
    -- nothing is left of the sequence, so it can join the front
    refine ⟨esc :: s ++ front, tail, by simp, ?_, htail⟩
    rwa [hs.dropSequences_append]
  | case3 cs hrest =>
    exact ⟨[], esc :: cs, rfl, by simp [dropSequences], .inr (afterSequence?_eq_none_iff.mp hrest)⟩
  | case4 c cs hc ih =>
    obtain ⟨front, tail, rfl, hfront, htail⟩ := ih
    refine ⟨c :: front, tail, rfl, ?_, htail⟩
    rw [dropSequences_cons hc]
    exact List.mem_cons.not.mpr (not_or.mpr ⟨Ne.symm hc, hfront⟩)

end VparFleet.Text.Escape
