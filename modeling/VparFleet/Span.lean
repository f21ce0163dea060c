/-!
# Spans of time

A span is a whole number of milliseconds. Settings give spans in seconds, the rehearsal clock and
console waits in milliseconds, and messages print a span in the largest unit that leaves a whole
number in front of the point.
-/

namespace VparFleet

/-- A length of time. -/
structure Span where
  /-- The length in milliseconds. -/
  millis : Nat
  deriving DecidableEq, Repr

namespace Span

/-- A span of whole seconds. -/
def ofSeconds (seconds : Nat) : Span :=
  ⟨seconds * 1000⟩

/-- The digits of a fraction of a second, without the zeros at the end. -/
def fraction (millis : Nat) : List Char :=
  let digits := (Nat.toDigits 10 (1000 + millis)).drop 1
  (digits.reverse.dropWhile (· == '0')).reverse

/-- The span as a message shows it: seconds with a fraction that is as short as possible,
milliseconds below one second, and the empty span as `0ns`. -/
def text (span : Span) : String :=
  if span.millis = 0 then "0ns"
  else if span.millis < 1000 then s!"{span.millis}ms"
  else if span.millis % 1000 = 0 then s!"{span.millis / 1000}s"
  else s!"{span.millis / 1000}.{String.ofList (fraction (span.millis % 1000))}s"

example : text ⟨1500⟩ = "1.5s" ∧ text ⟨50⟩ = "50ms" ∧ text ⟨0⟩ = "0ns" := by decide +kernel
example : text ⟨2005⟩ = "2.005s" ∧ text (ofSeconds 1200) = "1200s" := by decide +kernel

end Span

end VparFleet
