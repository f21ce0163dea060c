import VparFleet.Proofs.Text.Replacing
import VparFleet.Proofs.Text.Sequences

/-!
# Stripping output

Of the sequences in a text, stripping leaves at most one, at the end, that the text cuts off. The
rest of the text stays, but for bare resets.

Output is stripped as it arrives, and what is left is stripped again with the next piece. Complete
sequences are never a reason for a difference, and one that is cut off is completed by what follows.
Bare resets are taken out once, so a reset whose two ends come together only then stays, and is
taken out when more output arrives.

* `strip_leaves`: what stripping leaves of a text.
* `exists_kept`: what is left of a text, whatever follows it.
* `strip_strip_append`: a text that leaves no bare reset can be stripped in two pieces.
* `strip_strip_eq_iff`: only such a text stays as it is when it is stripped once more.
-/

namespace VparFleet.Text.Escape

variable {cs front text more plain tail s : List Char}

/-! ## The front and the end of a text -/

/-- Whether a text is the front of a sequence that it cuts off, or empty. -/
def CutOff (tail : List Char) : Prop :=
  tail = [] ∨ ∃ params, tail = esc :: params ∧ afterSequence? params = none

/-- What is cut off is said in two ways. -/
theorem cutOff_iff : CutOff tail ↔ tail = [] ∨ Unfinished tail := by
  refine or_congr_right ⟨?_, fun h => ?_⟩
  · rintro ⟨params, rfl, hparams⟩
    exact afterSequence?_eq_none_iff.mp hparams
  · obtain ⟨params, rfl⟩ := h.exists_eq_cons
    exact ⟨params, rfl, h.afterSequence?⟩

theorem CutOff.dropSequences (h : CutOff tail) : dropSequences tail = tail := by
  rcases cutOff_iff.mp h with rfl | hcut
  · rw [Escape.dropSequences]
  · exact hcut.dropSequences

/-- A sequence that is cut off has no final character. -/
theorem notMem_of_afterSequence?_eq_none {c : Char} (h : afterSequence? cs = none)
    (hc : isFinal c = true) (hbracket : c ≠ '[') : c ∉ cs := by
  cases afterSequence?_eq_none_iff.mp h with
  | lone => exact List.not_mem_nil
  | bracketed params hparams =>
    have hnot : c ∉ params := fun hmem => hparams c hmem (isFinal_iff.mp hc)
    exact List.mem_cons.not.mpr (not_or.mpr ⟨hbracket, hnot⟩)

/-- What is left of a text: plain text, and the front of a sequence that what follows may
complete. -/
structure Kept (text plain tail : List Char) : Prop where
  unescaped : esc ∉ plain
  cutOff : CutOff tail
  append : ∀ more, dropSequences (text ++ more) = plain ++ dropSequences (tail ++ more)

/-- What is left of a text is the plain text and what was cut off. -/
theorem Kept.dropSequences (h : Kept text plain tail) : dropSequences text = plain ++ tail := by
  have hempty := h.append []
  rwa [List.append_nil, List.append_nil, h.cutOff.dropSequences] at hempty

/-- Something of the kind is left of every text. -/
theorem exists_kept (text : List Char) : ∃ plain tail, Kept text plain tail := by
  obtain ⟨front, tail, rfl, hfront, htail⟩ := exists_front text
  refine ⟨dropSequences front, tail, hfront, cutOff_iff.mpr htail, fun more => ?_⟩
  rw [List.append_assoc, dropSequences_append_of_complete hfront]

/-! ## Bare resets -/

theorem bareReset_ne_nil : bareReset ≠ [] :=
  List.cons_ne_nil _ _

/-- No bare reset begins in a sequence that is cut off, or reaches into one. -/
theorem replaceAll_append_cutOff (h : CutOff tail) :
    replaceAll bareReset [] (plain ++ tail) = replaceAll bareReset [] plain ++ tail := by
  rcases h with rfl | ⟨params, rfl, hparams⟩
  · rw [List.append_nil, List.append_nil]
  · -- a bare reset ends with a final character, and such a sequence has none
    have hfinal : 'm' ∉ params :=
      notMem_of_afterSequence?_eq_none hparams (by decide) (by decide)
    have hfree : ¬bareReset <:+: params := not_infix_of_mem (by decide) hfinal
    rw [replaceAll_append_cons bareReset_ne_nil (by decide),
      (replaceAll_nil_eq_self_iff bareReset_ne_nil).mpr hfree]

namespace Kept

variable (h : Kept text plain tail)
include h

theorem strip : strip text = replaceAll bareReset [] plain ++ tail := by
  rw [Escape.strip, h.dropSequences, replaceAll_append_cutOff h.cutOff]

theorem strip_append (more : List Char) :
    Escape.strip (text ++ more)
      = replaceAll bareReset [] (plain ++ Escape.dropSequences (tail ++ more)) := by
  rw [Escape.strip, h.append]

/-- What is left is completed by what follows, as the text itself would be. -/
theorem strip_strip_append (more : List Char) :
    Escape.strip (Escape.strip text ++ more)
      = replaceAll bareReset []
          (replaceAll bareReset [] plain ++ Escape.dropSequences (tail ++ more)) := by
  -- what is left of plain text is plain
  have hplain : esc ∉ replaceAll bareReset [] plain := fun hmem =>
    h.unescaped ((replaceAll_nil_sublist bareReset plain).subset hmem)
  rw [h.strip, List.append_assoc, Escape.strip, dropSequences_append hplain]

end Kept

/-! ## What is left -/

/-- A front whose sequences are complete is stripped on its own. -/
theorem strip_append_of_cutOff (h : esc ∉ dropSequences front) (htail : CutOff tail) :
    strip (front ++ tail) = strip front ++ tail := by
  rw [strip, dropSequences_append_of_complete h, htail.dropSequences,
    replaceAll_append_cutOff htail, strip]

/-- Taking out bare resets takes out no escape character. -/
theorem esc_mem_strip_iff : esc ∈ strip text ↔ esc ∈ dropSequences text := by
  refine ⟨fun h => (replaceAll_nil_sublist bareReset _).subset h, fun h => ?_⟩
  obtain ⟨front, tail, rfl, hfront, htail⟩ := exists_front text
  have hcut : CutOff tail := cutOff_iff.mpr htail
  rw [dropSequences_append_of_complete hfront, hcut.dropSequences, List.mem_append] at h
  rw [strip_append_of_cutOff hfront hcut]
  exact List.mem_append_right _ (h.resolve_left hfront)

/-- Stripping adds nothing. -/
theorem strip_sublist (text : List Char) : (strip text).Sublist text :=
  (replaceAll_nil_sublist bareReset _).trans (dropSequences_sublist text)

theorem strip_eq_self (h : esc ∉ text) (hreset : ¬bareReset <:+: text) : strip text = text := by
  rw [strip, dropSequences_eq_self h]
  exact (replaceAll_nil_eq_self_iff bareReset_ne_nil).mpr hreset

/-- A complete sequence makes no difference outside of another one. -/
theorem strip_insert (h : esc ∉ dropSequences front) (hs : Sequence s) (more : List Char) :
    strip (front ++ s ++ more) = strip (front ++ more) := by
  rw [strip, strip, List.append_assoc, dropSequences_append_of_complete h,
    hs.dropSequences_append, ← dropSequences_append_of_complete h]

/-- What stripping leaves behind. The only escape characters left are those of one sequence that the
text cuts off, which stays at the end as it is, and always does. What is left is in the text, in
this order. A text without escape characters and bare resets stays as it is, also if a complete
sequence is put into it anywhere. -/
theorem strip_leaves (text : List Char) :
    (∃ front tail, text = front ++ tail ∧ strip text = strip front ++ tail ∧ esc ∉ strip front ∧
        (tail = [] ∨ Unfinished tail)) ∧
      (∀ tail, esc ∉ strip text → Unfinished tail → strip (text ++ tail) = strip text ++ tail) ∧
      (strip text).Sublist text ∧
      (esc ∉ text → ¬['[', '0', 'm'] <:+: text → strip text = text) ∧
      ∀ before after s, esc ∉ before → esc ∉ after → ¬['[', '0', 'm'] <:+: before ++ after →
        Sequence s → strip (before ++ s ++ after) = before ++ after := by
  refine ⟨?_, fun tail h htail => ?_, strip_sublist text, strip_eq_self, ?_⟩
  · -- the two parts of the text, of which the second one is cut off
    obtain ⟨front, tail, rfl, hfront, htail⟩ := exists_front text
    exact ⟨front, tail, rfl, strip_append_of_cutOff hfront (cutOff_iff.mpr htail),
      esc_mem_strip_iff.not.mpr hfront, htail⟩
  · exact strip_append_of_cutOff (esc_mem_strip_iff.not.mp h) (cutOff_iff.mpr (.inr htail))
  · intro before after s hbefore hafter hreset hs
    -- the sequence comes out first, then nothing is left to take out
    have hfront : esc ∉ dropSequences before := by rwa [dropSequences_eq_self hbefore]
    have hplain : esc ∉ before ++ after := List.mem_append.not.mpr (not_or.mpr ⟨hbefore, hafter⟩)
    rw [strip_insert hfront hs, strip_eq_self hplain hreset]

/-- A prompt with half of a bare reset in front of it, with a sequence put in that has the escape
character as a parameter, and with one cut off after such a parameter. -/
theorem strip_leaves_sample :
    let prompt := "[0 MP> ".toList
    let cut := "\x1b[1;\x1b".toList
    let place := "\x1b[\x1b;1H".toList
    (esc ∉ prompt ∧ ¬['[', '0', 'm'] <:+: prompt ∧ strip prompt = prompt) ∧
      (esc ∉ strip prompt ∧ Unfinished cut ∧ strip (prompt ++ cut) = strip prompt ++ cut) ∧
      esc ∉ "MORE ".toList ∧ ¬['[', '0', 'm'] <:+: prompt ++ "MORE ".toList ∧ Sequence place ∧
        strip (prompt ++ place ++ "MORE ".toList) = prompt ++ "MORE ".toList := by
  intro prompt cut place
  have hprompt : esc ∉ prompt := by decide
  have hmore : esc ∉ "MORE ".toList := by decide
  have hreset : ¬['[', '0', 'm'] <:+: prompt := by decide
  have hboth : ¬['[', '0', 'm'] <:+: prompt ++ "MORE ".toList := by decide
  have hcut : Unfinished cut := .bracketed ['1', ';', esc] (by simp [esc])
  have hplace : Sequence place := .bracketed [esc, ';', '1'] 'H' (by simp [esc]) (by decide)
  -- the second, the fourth and the fifth part of the theorem
  obtain ⟨_, hkept, _, hself, hinsert⟩ := strip_leaves prompt
  have hstrip : strip prompt = prompt := hself hprompt hreset
  have hleft : esc ∉ strip prompt := by rwa [hstrip]
  exact ⟨⟨hprompt, hreset, hstrip⟩, ⟨hleft, hcut, hkept cut hleft hcut⟩,
    hmore, hboth, hplace, hinsert prompt _ place hprompt hmore hboth hplace⟩

/-! ## Stripping in pieces -/

/-- A text that leaves no bare reset can be stripped in two pieces. -/
theorem strip_strip_append (h : ¬bareReset <:+: strip (text ++ more)) :
    strip (strip text ++ more) = strip (text ++ more) := by
  obtain ⟨plain, tail, hkept⟩ := exists_kept text
  rw [hkept.strip_append] at h ⊢
  rw [hkept.strip_strip_append]
  exact replaceAll_nil_append (by decide) plain _ h

/-- Stripping once more takes out the bare resets that the first time has brought about. -/
theorem strip_strip (text : List Char) :
    strip (strip text) = replaceAll bareReset [] (strip text) := by
  obtain ⟨plain, tail, hkept⟩ := exists_kept text
  have hagain := hkept.strip_strip_append []
  rwa [List.append_nil, List.append_nil, hkept.cutOff.dropSequences, ← hkept.strip] at hagain

theorem strip_strip_eq_iff : strip (strip text) = strip text ↔ ¬bareReset <:+: strip text := by
  rw [strip_strip, replaceAll_nil_eq_self_iff bareReset_ne_nil]

end VparFleet.Text.Escape
