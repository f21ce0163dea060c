import Mathlib.Data.List.Infix
import Mathlib.Data.List.TakeWhile
import VparFleet.Proofs.Text.Printed
import VparFleet.Text.Find

/-!
# Parts of printed texts

A part of a text that lacks some character does not reach across that character, so it is found on
one side of it. Lines and words are parts of the text that they are taken from.

* `prefix_append_cons_iff`, `infix_append_cons_iff`: parts that lack a character.
* `trim_append_left`, `trim_append_right`, `words_trim`: blanks around a text.
* `prefix_of_first_field`, `exists_of_later_field`: fields between separators.
* `infix_of_mem_words`, `flatMap_words_lines`: the words of a text are those of its lines.
* `lines_flatMap_ended`: lines that end with a carriage return and a line feed.
-/

namespace VparFleet.Text

variable {c : Char} {part before after gap text : List Char}

/-- A part of what follows a character. -/
theorem infix_of_infix_after (h : part <:+: after) : part <:+: before ++ c :: after :=
  h.trans ⟨before ++ [c], [], by simp⟩

/-! ## Parts that lack a character -/

/-- A part that lacks a character begins a text exactly if it begins what is before that character.
-/
theorem prefix_append_cons_iff (h : c ∉ part) :
    part <+: before ++ c :: after ↔ part <+: before := by
  induction before generalizing part with
  | nil =>
    cases part with
    | nil => simp
    | cons d part =>
      have hne : d ≠ c := fun heq => h (heq ▸ List.mem_cons_self)
      simp [List.cons_prefix_cons, hne]
  | cons b before ih =>
    cases part with
    | nil => simp
    | cons d part =>
      rw [List.cons_append, List.cons_prefix_cons, List.cons_prefix_cons,
        ih fun hmem => h (List.mem_cons_of_mem d hmem)]

/-- Such a part lies before the character or after it. -/
theorem infix_append_cons_iff (hne : part ≠ []) (h : c ∉ part) :
    part <:+: before ++ c :: after ↔ part <:+: before ∨ part <:+: after := by
  induction before with
  | nil =>
    -- a part that begins with the character has it
    have hhead : ¬part <+: c :: after := fun hpart => by
      have hsplit : part <+: [] ++ c :: after := hpart
      exact hne (List.prefix_nil.mp ((prefix_append_cons_iff h).mp hsplit))
    simp [List.infix_cons_iff, hhead, hne]
  | cons b before ih =>
    rw [List.cons_append, List.infix_cons_iff, List.infix_cons_iff, ih, ← List.cons_append,
      prefix_append_cons_iff h, or_assoc]

/-- Two texts with a mark after each are the same if one begins the other, since each ends at its
first mark. -/
theorem eq_of_marked_begins (hbefore : c ∉ before) (hafter : c ∉ after)
    (h : before ++ [c] <+: after ++ c :: text) : before = after := by
  obtain ⟨rest, hrest⟩ := h
  rw [List.append_assoc, List.singleton_append] at hrest
  have hfirst := congrArg (fun text => (text.splitOn c).head?) hrest
  simp only [List.splitOn_append_cons_self_of_not_mem hbefore,
    List.splitOn_append_cons_self_of_not_mem hafter, List.head?_cons] at hfirst
  exact Option.some.inj hfirst

/-- A part with a character that a text lacks is not found in it. -/
theorem not_infix_of_mem (hpart : c ∈ part) (htext : c ∉ text) : ¬part <:+: text :=
  fun h => htext (h.subset hpart)

/-! ## Blanks around a text -/

/-- Looks at the characters one by one. -/
theorem solid_of_all (h : text.all (!isBlank ·) = true) : ∀ c ∈ text, isBlank c = false := by
  simpa using h

theorem trim_append_left (h : ∀ c ∈ gap, isBlank c = true) : trim (gap ++ text) = trim text := by
  rw [trim, trimStart, List.dropWhile_append_of_pos h]
  rfl

/-- Blanks at the end are taken off. -/
theorem trim_append_right (h : ∀ c ∈ gap, isBlank c = true) : trim (text ++ gap) = trim text := by
  rw [trim, trimStart, List.dropWhile_append]
  split
  · next hnone =>
    -- there is nothing but blanks
    rw [List.isEmpty_iff] at hnone
    rw [trim, trimStart, hnone, List.dropWhile_eq_nil_iff.mpr h]
  · rw [trimEnd, List.reverse_append, List.dropWhile_append_of_pos (by simpa using h)]
    rfl

/-- Blanks before a text and after it are all that is taken off. -/
theorem exists_eq_append_trim (text : List Char) :
    ∃ front back, (∀ c ∈ front, isBlank c = true) ∧ (∀ c ∈ back, isBlank c = true) ∧
      text = front ++ (trim text ++ back) := by
  have hback : trimStart text
      = trim text ++ ((trimStart text).reverse.takeWhile isBlank).reverse := by
    rw [trim, trimEnd, ← List.reverse_append, List.takeWhile_append_dropWhile, List.reverse_reverse]
  refine ⟨text.takeWhile isBlank, ((trimStart text).reverse.takeWhile isBlank).reverse,
    fun c hc => List.mem_takeWhile_imp hc, fun c hc => ?_, ?_⟩
  · exact List.mem_takeWhile_imp (List.mem_reverse.mp hc)
  · rw [← hback]
    exact List.takeWhile_append_dropWhile.symm

theorem words_trim (text : List Char) : words (trim text) = words text := by
  obtain ⟨front, back, hfront, hback, htext⟩ := exists_eq_append_trim text
  conv_rhs => rw [htext, words_append_left hfront, words_append_right hback]

theorem trim_trim (text : List Char) : trim (trim text) = trim text := by
  obtain ⟨front, back, hfront, hback, htext⟩ := exists_eq_append_trim text
  conv_rhs => rw [htext, trim_append_left hfront, trim_append_right hback]

theorem trim_of_solid (h : ∀ c ∈ text, isBlank c = false) : trim text = text :=
  trim_eq_self (fun c hc => h c (List.mem_of_head? hc)) fun c hc => h c (List.mem_of_getLast? hc)

/-! ## Fields -/

/-- The first field ends at the first separator. -/
theorem prefix_of_first_field {field : List Char} (h : (text.splitOn c)[0]? = some field) :
    c ∉ field ∧ field <+: text := by
  by_cases hc : c ∈ text
  · obtain ⟨before, after, rfl, hbefore⟩ := List.eq_append_cons_of_mem hc
    rw [List.splitOn_append_cons_self_of_not_mem hbefore] at h
    obtain rfl := Option.some.inj h
    exact ⟨hbefore, List.prefix_append before _⟩
  · rw [List.splitOn_eq_singleton hc] at h
    obtain rfl := Option.some.inj h
    exact ⟨hc, List.prefix_refl text⟩

/-- A later field is a field of what follows the first separator. -/
theorem exists_of_later_field {n : Nat} {field : List Char}
    (h : (text.splitOn c)[n + 1]? = some field) :
    ∃ first rest, c ∉ first ∧ text = first ++ c :: rest ∧ (rest.splitOn c)[n]? = some field := by
  by_cases hc : c ∈ text
  · obtain ⟨before, after, rfl, hbefore⟩ := List.eq_append_cons_of_mem hc
    rw [List.splitOn_append_cons_self_of_not_mem hbefore, List.getElem?_cons_succ] at h
    exact ⟨before, after, hbefore, rfl, h⟩
  · rw [List.splitOn_eq_singleton hc] at h
    exact nomatch h

/-! ## Words and lines -/

/-- A word is a part of its text. -/
theorem infix_of_mem_words {text word : List Char} (h : word ∈ words text) :
    word <:+: text := by
  by_cases hsolid : ∀ c ∈ text, isBlank c = false
  · rcases eq_or_ne text [] with rfl | hne
    · exact nomatch h
    · rw [words_of_solid hne hsolid, List.mem_singleton] at h
      exact h ▸ List.infix_refl text
  · -- split at a blank; the word is on one side of it
    push Not at hsolid
    obtain ⟨c, hc, hblank⟩ := hsolid
    obtain ⟨before, after, rfl, -⟩ := List.eq_append_cons_of_mem hc
    rw [words_append_cons (by simpa using hblank)] at h
    rcases List.mem_append.mp h with h | h
    · exact (infix_of_mem_words h).trans (List.prefix_append _ _).isInfix
    · exact infix_of_infix_after (infix_of_mem_words h)
termination_by text.length

/-- The words of a text are the words of its lines. -/
theorem flatMap_words_lines (text : List Char) : (lines text).flatMap words = words text := by
  by_cases h : '\n' ∈ text
  · obtain ⟨line, rest, rfl, hline⟩ := List.eq_append_cons_of_mem h
    rw [lines_append_cons hline, List.flatMap_cons, words_dropReturn, flatMap_words_lines rest,
      words_append_cons rfl]
  · rw [lines_of_notMem h]
    split
    · next hnil => rw [hnil]; rfl
    · exact List.flatMap_singleton words text
termination_by text.length

/-- Lines that end with a carriage return and a line feed are read as they are. -/
theorem lines_flatMap_ended {ended : List (List Char)} (h : ∀ line ∈ ended, '\n' ∉ line) :
    lines (ended.flatMap (· ++ ['\r', '\n'])) = ended := by
  induction ended with
  | nil => rfl
  | cons line ended ih =>
    obtain ⟨hline, hended⟩ := List.forall_mem_cons.mp h
    have hreturn : '\n' ∉ line ++ ['\r'] := by simpa using hline
    have hsplit : line ++ ['\r', '\n'] ++ ended.flatMap (· ++ ['\r', '\n'])
        = (line ++ ['\r']) ++ '\n' :: ended.flatMap (· ++ ['\r', '\n']) := by simp
    rw [List.flatMap_cons, hsplit, lines_append_cons hreturn, ih hended]
    simp [dropReturn]

end VparFleet.Text
