import Mathlib.Data.List.Basic
import Mathlib.Data.Nat.Notation
import VparFleet.Proofs.Text.Digits
import VparFleet.Text.Blank
import VparFleet.Text.Decimal

/-!
# Reading printed texts

What is printed with blanks between words is split into these words, whatever the blanks are; what
is printed in lines is split into these lines, however each of them ends. A number is read from its
digits and from nothing else.

* `words_append_cons`: words are split at a blank. All else about words follows from it.
* `lines_append_cons`, `words_dropReturn`: lines are split at a line feed, and a carriage return
  before it is in no word.
* `Numeral`, `read?_eq_some_iff`: the texts of a number; `PrintedNumber`: a number with such a text.
-/

namespace VparFleet.Text

variable {c : Char} {cs ds gap pad word : List Char}

/-! ## Words -/

/-- A blank splits a text in two. -/
theorem words_append_cons (h : isBlank c = true) :
    words (cs ++ c :: ds) = words cs ++ words ds := by
  rw [words, List.splitOnP_append_cons cs ds h, List.filter_append]
  rfl

@[simp] theorem words_nil : words [] = [] :=
  rfl

theorem words_cons (h : isBlank c = true) : words (c :: cs) = words cs :=
  @words_append_cons c [] cs h

/-- Blanks in front are in no word. -/
theorem words_append_left (h : ∀ c ∈ pad, isBlank c = true) : words (pad ++ cs) = words cs := by
  induction pad with
  | nil => rfl
  | cons c pad ih =>
    obtain ⟨hc, hpad⟩ := List.forall_mem_cons.mp h
    rw [List.cons_append, words_cons hc, ih hpad]

/-- Blanks split a text. -/
theorem words_append_gap (hgap : gap ≠ []) (h : ∀ c ∈ gap, isBlank c = true) :
    words (cs ++ (gap ++ ds)) = words cs ++ words ds := by
  obtain ⟨c, gap, rfl⟩ := List.exists_cons_of_ne_nil hgap
  obtain ⟨hc, hrest⟩ := List.forall_mem_cons.mp h
  rw [List.cons_append, words_append_cons hc, words_append_left hrest]

/-- Blanks at the end are in no word. -/
theorem words_append_right (h : ∀ c ∈ pad, isBlank c = true) : words (cs ++ pad) = words cs := by
  cases pad with
  | nil => rw [List.append_nil]
  | cons c pad =>
    have hsplit : words (cs ++ (c :: pad ++ [])) = words cs ++ words [] :=
      words_append_gap (List.cons_ne_nil c pad) h
    rwa [List.append_nil, words_nil, List.append_nil] at hsplit

/-- A text without blanks is one word. -/
theorem words_of_solid (hword : word ≠ []) (h : ∀ c ∈ word, isBlank c = false) :
    words word = [word] := by
  rw [words, List.splitOnP_eq_singleton h]
  simpa using hword

/-- A carriage return is a blank, so dropping it loses no word. -/
theorem words_dropReturn (line : List Char) : words (dropReturn line) = words line := by
  unfold dropReturn
  split
  · next h =>
    have hreturn : ∀ c ∈ ['\r'], isBlank c = true := List.forall_mem_singleton.mpr rfl
    conv_rhs => rw [← List.dropLast_append_getLast? '\r' h, words_append_right hreturn]
  · rfl

/-! ## Lines -/

/-- A line feed ends a line. -/
theorem lines_append_cons (h : '\n' ∉ cs) :
    lines (cs ++ '\n' :: ds) = dropReturn cs :: lines ds := by
  have hne := List.splitOn_ne_nil '\n' ds
  rw [lines, List.splitOn_append_cons_self_of_not_mem h, List.dropLast_cons_of_ne_nil hne,
    List.getLast?_cons_of_ne_nil hne]
  rfl

/-- A text without line feeds is one line, or none. -/
theorem lines_of_notMem (h : '\n' ∉ cs) : lines cs = if cs = [] then [] else [cs] := by
  rw [lines, List.splitOn_eq_singleton h]
  cases cs with
  | nil => rfl
  | cons c cs => rfl

namespace Decimal

/-! ## Numbers -/

/-- The texts of a number: digits after at most one plus sign. -/
def Numeral (n : Nat) (cs : List Char) : Prop :=
  ∃ digits : List Char, (cs = digits ∨ cs = '+' :: digits) ∧ digits ≠ [] ∧
    (∀ c ∈ digits, c.isDigit = true) ∧ Nat.ofDigitChars 10 digits 0 = n

/-- A number is written with digits and a sign. -/
theorem mem_of_numeral {n : Nat} (h : Numeral n cs) (hc : c ∈ cs) : c = '+' ∨ c.isDigit = true := by
  obtain ⟨digits, hcs, -, hdigits, -⟩ := h
  rcases hcs with rfl | rfl
  · exact .inr (hdigits c hc)
  · exact (List.mem_cons.mp hc).imp_right (hdigits c)

/-- Any other character is not in it. -/
theorem notMem_numeral {n : Nat} (h : Numeral n cs) (hplus : c ≠ '+') (hdigit : c.isDigit = false) :
    c ∉ cs := by
  intro hc
  rcases mem_of_numeral h hc with rfl | hc
  · exact hplus rfl
  · rw [hc] at hdigit
    exact nomatch hdigit

/-- A number is one word. -/
theorem isBlank_eq_false_of_numeral {n : Nat} (h : Numeral n cs) :
    cs ≠ [] ∧ ∀ c ∈ cs, isBlank c = false := by
  refine ⟨?_, fun c hc => ?_⟩
  · obtain ⟨digits, hcs, hne, -, -⟩ := h
    rcases hcs with rfl | rfl
    · exact hne
    · exact List.cons_ne_nil _ _
  · rcases mem_of_numeral h hc with rfl | hdigit
    · decide
    · have hcode := Instant.toNat_of_isDigit hdigit
      simp only [isBlank, Bool.or_eq_false_iff, Bool.and_eq_false_iff, decide_eq_false_iff_not,
        beq_eq_false_iff_ne]
      omega

/-- A digit is read by its code. -/
theorem digit?_eq_some_iff {d : Nat} :
    digit? c = some d ↔ c.isDigit = true ∧ c.toNat - 48 = d := by
  have hdigit : ('0' ≤ c ∧ c ≤ '9') ↔ c.isDigit = true := by
    simp [Char.isDigit, Char.le_def]
  simp only [digit?, hdigit, Option.ite_none_right_eq_some, Option.some.injEq]

/-- Digits are read exactly when all of them are digits. -/
theorem digits?_eq_some_iff {value n : Nat} :
    digits? value cs = some n ↔
      (∀ c ∈ cs, c.isDigit = true) ∧ Nat.ofDigitChars 10 cs value = n := by
  induction cs generalizing value with
  | nil => simp [digits?]
  | cons c cs ih =>
    have hcode : '0'.toNat = 48 := rfl
    rw [digits?, Option.bind_eq_some_iff, List.forall_mem_cons, Nat.ofDigitChars_cons, hcode,
      Nat.mul_comm 10]
    constructor
    · -- the first digit is read, and the others after it
      rintro ⟨d, hd, hrest⟩
      obtain ⟨hc, rfl⟩ := digit?_eq_some_iff.mp hd
      obtain ⟨hcs, hn⟩ := ih.mp hrest
      exact ⟨⟨hc, hcs⟩, hn⟩
    · rintro ⟨⟨hc, hcs⟩, hn⟩
      exact ⟨_, digit?_eq_some_iff.mpr ⟨hc, rfl⟩, ih.mpr ⟨hcs, hn⟩⟩

/-- A number is read from its texts if it is within the bound, and from nothing else. -/
theorem read?_eq_some_iff {bound n : Nat} :
    read? bound cs = some n ↔ Numeral n cs ∧ n < bound := by
  -- what is read after the sign
  have hbody (digits : List Char) :
      (if digits.isEmpty then none else (digits? 0 digits).filter (· < bound)) = some n ↔
        (digits ≠ [] ∧ (∀ c ∈ digits, c.isDigit = true) ∧ Nat.ofDigitChars 10 digits 0 = n) ∧
          n < bound := by
    cases digits with
    | nil => simp
    | cons c digits => simp [Option.filter_eq_some_iff, digits?_eq_some_iff]
  unfold read? Numeral
  by_cases hplus : cs.head? = some '+'
  · obtain ⟨digits, rfl⟩ := List.head?_eq_some_iff.mp hplus
    rw [if_pos hplus, hbody]
    -- a plus sign is no digit
    have hsign : '+'.isDigit = false := by decide
    simp [hsign]
  · rw [if_neg hplus, hbody]
    have hsigned (digits : List Char) : cs ≠ '+' :: digits := by
      rintro rfl
      exact hplus rfl
    simp [hsigned]

/-- A number as it is printed into a field of a certain width. -/
structure PrintedNumber (bound : Nat) where
  value : Nat
  inRange : value < bound
  /-- The text of the number. -/
  numeral : List Char
  writes : Numeral value numeral

/-- The digits of a number are one of its texts. -/
theorem numeral_toString (n : Nat) : Numeral n (toString n).toList := by
  rw [show toString n = n.repr from rfl, Nat.toList_repr]
  exact ⟨Nat.toDigits 10 n, .inl rfl, Nat.toDigits_ne_nil,
    fun c hc => Nat.isDigit_of_mem_toDigits (by decide) (by decide) hc,
    Nat.ofDigitChars_ten_toDigits⟩

namespace PrintedNumber

/-- A number in its digits. -/
def ofNat {bound : Nat} (n : Nat) (h : n < bound) : PrintedNumber bound :=
  ⟨n, h, (toString n).toList, numeral_toString n⟩

variable {bound : Nat} (number : PrintedNumber bound)

theorem solid : ∀ c ∈ number.numeral, isBlank c = false :=
  (isBlank_eq_false_of_numeral number.writes).2

theorem read?_numeral : read? bound number.numeral = some number.value :=
  read?_eq_some_iff.mpr ⟨number.writes, number.inRange⟩

end PrintedNumber

end Decimal

end VparFleet.Text
