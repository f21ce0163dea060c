import VparFleet.Fault
import VparFleet.Pattern.Basic
import VparFleet.Span
import VparFleet.Text.Escape
import VparFleet.Text.Quoted
import VparFleet.Text.Utf8
import VparFleet.Text.Blank

/-!
# Console conversations

Console output arrives in chunks of bytes. It is decoded and freed of escape sequences as it
arrives, and a wait for a prompt takes it up to and with the prompt.

* `Conversation.waitFor`: waits for a prompt, for so long at most. It ends with the text before the
  prompt, with the end or the failure of the channel, or at its deadline, and leaves what was not
  used for the next wait.
* `waitFor_time_le`: no wait outlasts its deadline.
-/

namespace VparFleet

/-- What a channel gives to a receiver. -/
inductive Signal where
  /-- Some bytes of output. -/
  | chunk (bytes : List UInt8)
  /-- The end of the channel. -/
  | ended
  /-- A failure of the channel. -/
  | failed (fault : Fault)
  deriving DecidableEq, Repr

/-- A signal and when it can be received, in milliseconds. -/
structure Delivery where
  /-- The moment. -/
  time : Nat
  signal : Signal
  deriving DecidableEq, Repr

/-- Output that has been received and not yet been taken. -/
structure Conversation where
  /-- The text. -/
  buffer : List Char
  /-- The bytes of a character whose rest has not arrived. -/
  pending : List UInt8
  deriving DecidableEq, Repr

namespace Conversation

/-- Nothing has been received. -/
def empty : Conversation := ⟨[], []⟩

/-- Takes in a chunk. -/
def feed (conversation : Conversation) (bytes : List UInt8) : Conversation :=
  let (text, pending) := Text.Utf8.decode (conversation.pending ++ bytes)
  ⟨Text.Escape.strip (conversation.buffer ++ text), pending⟩

/-- Takes the text up to and with the first prompt, and gives the part before the prompt. -/
def takePrompt? (conversation : Conversation) (prompt : Pattern) :
    Option (List Char × Conversation) :=
  (prompt.find? conversation.buffer).map fun found =>
    (found.before, { conversation with buffer := found.after })

/-- The number of characters of output that a fault shows. -/
def shownOutput : Nat := 80

/-- The fault of a wait that reached its deadline. -/
def timeoutFault (conversation : Conversation) (limit : Span) : Fault :=
  let shown := Text.trim (Text.lastChars shownOutput conversation.buffer)
  ⟨.timeout, s!"no prompt within {limit.text}; last output: "
    ++ Text.quoted (String.ofList shown)⟩

/-- The fault of a wait that met the end of the channel. -/
def closedFault : Fault :=
  ⟨.connectivity, "console channel closed while waiting for prompt"⟩

/-- How a wait ended. -/
structure Wait where
  /-- The text before the prompt, or why there is none. -/
  outcome : Outcome (List Char)
  /-- What is left to be taken. -/
  conversation : Conversation
  /-- What is left to be received. -/
  deliveries : List Delivery
  /-- The moment. -/
  time : Nat

/-- Waits for a prompt until a deadline, from the moment `now` on. At the deadline nothing more is
received. -/
def waitUntil (prompt : Pattern) (limit : Span) (deadline : Nat) (conversation : Conversation)
    (now : Nat) : List Delivery → Wait
  | [] =>
    match conversation.takePrompt? prompt with
    | some (before, left) => ⟨.ok before, left, [], now⟩
    | none => ⟨.error (conversation.timeoutFault limit), conversation, [], max now deadline⟩
  | delivery :: rest =>
    -- What is there already may hold the prompt, so it is searched before anything is received.
    match conversation.takePrompt? prompt with
    | some (before, left) => ⟨.ok before, left, delivery :: rest, now⟩
    | none =>
      if deadline ≤ now || deadline ≤ delivery.time then
        ⟨.error (conversation.timeoutFault limit), conversation, delivery :: rest,
          max now deadline⟩
      else
        let later := max now delivery.time
        match delivery.signal with
        | .chunk bytes => waitUntil prompt limit deadline (conversation.feed bytes) later rest
        | .ended => ⟨.error closedFault, conversation, rest, later⟩
        | .failed fault => ⟨.error fault, conversation, rest, later⟩

/-- Waits for a prompt for so long at most. -/
def waitFor (conversation : Conversation) (prompt : Pattern) (limit : Span) (now : Nat)
    (deliveries : List Delivery) : Wait :=
  waitUntil prompt limit (now + limit.millis) conversation now deliveries

/-- A wait that begins before its deadline is over by then, whatever is still to come. -/
theorem waitUntil_time_le {prompt : Pattern} {limit : Span} {deadline now : Nat}
    {conversation : Conversation} {deliveries : List Delivery} (h : now ≤ deadline) :
    (waitUntil prompt limit deadline conversation now deliveries).time ≤ deadline := by
  induction deliveries generalizing conversation now with
  | nil =>
    simp only [waitUntil]
    split <;> simp only <;> omega
  | cons delivery rest ih =>
    simp only [waitUntil]
    split
    · exact h
    · split
      · simp only
        omega
      · rename_i hlt
        simp only [Bool.or_eq_true, decide_eq_true_eq, not_or, Nat.not_le] at hlt
        split
        · -- a chunk before the deadline moves the clock to its own time at most
          exact ih (by omega)
        · simp only
          omega
        · simp only
          omega

/-- No wait takes longer than it may. -/
theorem waitFor_time_le (conversation : Conversation) (prompt : Pattern) (limit : Span) (now : Nat)
    (deliveries : List Delivery) :
    (conversation.waitFor prompt limit now deliveries).time ≤ now + limit.millis :=
  waitUntil_time_le (Nat.le_add_right _ _)

end Conversation

end VparFleet
