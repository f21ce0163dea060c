/-!
# Finding and replacing parts of a text

* `occurs part text`: whether `part` stands somewhere in `text`.
* `replaceAll part by' text`: every occurrence of `part`, taken from the left and without
  overlaps, replaced.
-/

namespace VparFleet.Text

/-- Whether `part` is a contiguous part of the text. -/
def occurs (part : List Char) : List Char → Bool
  | [] => part.isEmpty
  | c :: cs => part.isPrefixOf (c :: cs) || occurs part cs

/-- Replaces the non-overlapping occurrences of `part`, from the left. An empty `part` occurs
nowhere for this purpose. -/
def replaceAll (part new : List Char) : List Char → List Char
  | [] => []
  | c :: cs =>
    if part ≠ [] ∧ part.isPrefixOf (c :: cs) then
      new ++ replaceAll part new (cs.drop (part.length - 1))
    else c :: replaceAll part new cs
termination_by cs => cs.length
decreasing_by
  · simp only [List.length_drop, List.length_cons]; omega
  · simp

/-- A text is found exactly where it stands as a whole. -/
theorem occurs_iff {part text : List Char} : occurs part text = true ↔ part <:+: text := by
  induction text with
  | nil => simp [occurs]
  | cons c cs ih => simp [occurs, ih, List.infix_cons_iff]

/-- The last `n` characters, or all when there are fewer. -/
def lastChars (n : Nat) (cs : List Char) : List Char :=
  cs.drop (cs.length - n)

end VparFleet.Text
