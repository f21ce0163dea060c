import VparFleet.Fault
import VparFleet.Span
import VparFleet.Text.Utf8

/-!
# The output of a command

A command that runs on a host reports over a channel: output in pieces, its exit status, the end of
the output, and at last the end of the channel.

* `Output.collect`: all output up to the end of the channel, if that comes in time. Output counts
  only when the command is known to have finished.
* `collectUntil_append_of_ends`: what follows the end of the channel does not matter.
* `nextPiece`: a conversation takes output piece by piece instead.
-/

namespace VparFleet.Session

/-- What comes over a channel. -/
inductive ChannelMessage where
  /-- A piece of output. -/
  | data (bytes : List UInt8)
  /-- A piece of output on another stream, such as that for errors. -/
  | extended (bytes : List UInt8)
  | exitStatus (code : Nat)
  /-- The end of the output. -/
  | eof
  /-- The end of the channel. -/
  | close
  /-- The end of the whole connection. -/
  | hungUp
  /-- Anything else; nobody needs it. -/
  | other
  deriving DecidableEq, Repr

namespace ChannelMessage

/-- Whether nothing can come after a message. -/
def isEnd : ChannelMessage → Bool
  | close => true
  | hungUp => true
  | _ => false

/-- The output in a message. -/
def payload : ChannelMessage → List UInt8
  | data bytes => bytes
  | extended bytes => bytes
  | _ => []

/-- Whether a message tells that the command has finished. -/
def isFinish : ChannelMessage → Bool
  | exitStatus _ => true
  | eof => true
  | _ => false

end ChannelMessage

/-- A message and when it comes, in milliseconds. -/
structure Arrival where
  /-- The moment. -/
  time : Nat
  message : ChannelMessage
  deriving DecidableEq, Repr

/-- What has come of the output of a command. -/
structure Output where
  /-- The output. -/
  bytes : List UInt8
  /-- Whether the command is known to have finished. -/
  finished : Bool
  deriving DecidableEq, Repr

namespace Output

/-- Nothing has come. -/
def empty : Output := ⟨[], false⟩

/-- Takes in a message. -/
def take (output : Output) (message : ChannelMessage) : Output :=
  ⟨output.bytes ++ message.payload, output.finished || message.isFinish⟩

/-- Collects up to the end of the channel. Nothing means that the end does not come until the
deadline. -/
def collectUntil (deadline : Nat) (output : Output) : List Arrival → Option Output
  | [] => none
  | arrival :: rest =>
    -- A message that comes with the deadline still counts.
    if deadline < arrival.time then none
    else if arrival.message.isEnd then some output
    else collectUntil deadline (output.take arrival.message) rest

/-- The fault of a command whose channel did not end in time. -/
def timeoutFault (host : String) (limit : Span) : Fault :=
  ⟨.timeout, s!"command on {host} did not finish within {limit.text}"⟩

/-- The fault of a command whose channel ended before the command did. -/
def cutFault (host : String) : Fault :=
  ⟨.connectivity, s!"channel to {host} closed before the command finished"⟩

/-- The text of output that was collected. -/
def outcome (host : String) (output : Output) : Outcome String :=
  if output.finished then .ok (String.ofList (Text.Utf8.decodeAll output.bytes))
  else .error (cutFault host)

/-- The output of a command that was started at the moment `now`, if it comes within so long. -/
def collect (host : String) (limit : Span) (now : Nat) (arrivals : List Arrival) :
    Outcome String :=
  match collectUntil (now + limit.millis) empty arrivals with
  | some output => output.outcome host
  | none => .error (timeoutFault host limit)

/-- What arrives after the end of an output is not looked at. -/
theorem collectUntil_append_of_ends {deadline : Nat} {output : Output} {arrivals : List Arrival}
    (h : ∃ arrival ∈ arrivals, arrival.message.isEnd = true) (more : List Arrival) :
    collectUntil deadline output (arrivals ++ more) = collectUntil deadline output arrivals := by
  induction arrivals generalizing output with
  | nil => simp at h
  | cons arrival rest ih =>
    simp only [List.cons_append, collectUntil]
    split
    · rfl
    · split
      · rfl
      · rename_i he
        apply ih
        obtain ⟨a, ha, hend⟩ := h
        rcases List.mem_cons.1 ha with rfl | ha
        · exact absurd hend he
        · exact ⟨a, ha, hend⟩

end Output

/-- The next piece of output of a conversation and what follows it. The end of the output and the
end of the channel count as a missing piece; after the end of the channel every piece is missing.
Nothing means that no message comes. -/
def nextPiece : List ChannelMessage → Option (Option (List UInt8) × List ChannelMessage)
  | [] => none
  | .data bytes :: rest => some (some bytes, rest)
  | .extended bytes :: rest => some (some bytes, rest)
  | .eof :: rest => some (none, rest)
  | .close :: rest => some (none, .close :: rest)
  | .hungUp :: rest => some (none, .hungUp :: rest)
  | .exitStatus _ :: rest => nextPiece rest
  | .other :: rest => nextPiece rest

end VparFleet.Session
