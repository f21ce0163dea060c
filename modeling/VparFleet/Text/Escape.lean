import VparFleet.Text.Find

/-!
# Terminal escape sequences

A console mixes colour and cursor sequences into its output. They are removed before the output is
searched.

* A sequence is the escape character with `[`, parameters and a final character between `@` and
  `~`, or the escape character with any one other character.
* Some consoles swallow the escape character of a colour reset; the bare `[0m` left behind is
  removed as well.
* A sequence that the text cuts off stays, so that text arriving later can complete it.
-/

namespace VparFleet.Text.Escape

/-- The escape character. -/
def esc : Char := '\x1b'

/-- Whether a character ends a sequence of the form `ESC [ …`. -/
def isFinal (c : Char) : Bool :=
  '@' ≤ c && c ≤ '~'

/-- What follows the sequence whose escape character has just been read; nothing when the text ends
inside the sequence. -/
def afterSequence? : List Char → Option (List Char)
  | [] => none
  | '[' :: params => (params.dropWhile (!isFinal ·)).tail?
  | _ :: rest => some rest

/-- A sequence takes at least its first character off the text. -/
theorem length_afterSequence? {cs rest : List Char} (h : afterSequence? cs = some rest) :
    rest.length < cs.length := by
  unfold afterSequence? at h
  split at h
  · simp at h
  · rename_i params
    have hle := (List.dropWhile_sublist (!isFinal ·) (l := params)).length_le
    match hd : params.dropWhile (!isFinal ·) with
    | [] => simp [hd] at h
    | _ :: tail =>
      simp only [hd, List.tail?_cons, Option.some.injEq] at h
      subst h
      rw [hd] at hle
      simp only [List.length_cons] at hle ⊢
      omega
  · simp_all

/-- Removes the sequences that are complete, in one pass from the left. -/
def dropSequences : List Char → List Char
  | [] => []
  | c :: cs =>
    if c = esc then
      match _h : afterSequence? cs with
      | some rest => dropSequences rest
      | none => c :: cs
    else c :: dropSequences cs
termination_by cs => cs.length
decreasing_by
  · have := length_afterSequence? _h
    simp only [List.length_cons]
    omega
  · simp

/-- What a bare colour reset leaves behind. -/
def bareReset : List Char := ['[', '0', 'm']

/-- Removes the complete sequences, then the bare resets. -/
def strip (cs : List Char) : List Char :=
  replaceAll bareReset [] (dropSequences cs)

/-- Text without an escape character has no sequence to remove. -/
theorem dropSequences_eq_self {cs : List Char} (h : esc ∉ cs) : dropSequences cs = cs := by
  induction cs with
  | nil => simp [dropSequences]
  | cons c cs ih =>
    simp only [List.mem_cons, not_or] at h
    rw [dropSequences, if_neg (Ne.symm h.1), ih h.2]

end VparFleet.Text.Escape
