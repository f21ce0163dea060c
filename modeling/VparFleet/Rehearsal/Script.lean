import VparFleet.Console.Conversation
import VparFleet.Text.Find

/-!
# Scripts

A script stands in for all hosts: rules answer command lines, and console scripts answer what is
sent to consoles. Moments are in milliseconds.

* `Script.answer`: answers a command by the first rule that matches. A rule uses its replies up one
  by one and repeats the last.
* `Channel.send`: what a console shows after a line; chunks come one after the other.
-/

namespace VparFleet.Rehearsal

/-- The answer to a command, and how long it takes. -/
structure HostReply where
  /-- The time that passes before it. -/
  delay : Nat
  /-- The output, or a fault of the transport. -/
  outcome : Outcome String

/-- Answers command lines that hold a text. -/
structure Rule where
  /-- What the command line has to hold. -/
  needle : String
  /-- The only host that the rule is for, if there is one. -/
  host : Option String
  /-- The answers, the next one first. -/
  replies : List HostReply

namespace Rule

/-- Whether a rule answers a command on a host. -/
def matches? (rule : Rule) (host command : String) : Bool :=
  Text.occurs rule.needle.toList command.toList && rule.host.all (· = host)

/-- The rule after it has answered once. -/
def used (rule : Rule) : Rule :=
  match rule.replies with
  | _ :: reply :: rest => { rule with replies := reply :: rest }
  | _ => rule

end Rule

/-- A signal, and how long after the one before it, or after its cause, it comes. -/
structure Chunk where
  /-- The time in between. -/
  after : Nat
  signal : Signal

/-- What a console does when something is sent to it. -/
inductive Reaction where
  /-- Shows chunks. -/
  | show (chunks : List Chunk)
  /-- Refuses what is sent. -/
  | refuse (fault : Fault)

/-- How a console chooses its reactions. -/
inductive Reactions where
  /-- The first of the list, the next time the second, and so on. -/
  | inTurn (list : List Reaction)
  /-- The first whose text is in what is sent. -/
  | byText (list : List (String × Reaction))

namespace Reactions

/-- The reaction to a text, and how to choose the next one. -/
def next (reactions : Reactions) (text : String) : Reaction × Reactions :=
  match reactions with
  | inTurn [] => (.show [], inTurn [])
  | inTurn (reaction :: rest) => (reaction, inTurn rest)
  | byText list =>
    match list.find? fun entry => Text.occurs entry.1.toList text.toList with
    | some entry => (entry.2, byText list)
    | none => (.show [], byText list)

end Reactions

/-- The script of one console. -/
inductive ConsoleScript where
  /-- The login fails. -/
  | refused (fault : Fault)
  /-- The console opens, greets, reacts, and may fail to close. -/
  | opened (greeting : List Chunk) (reactions : Reactions) (closeFault : Option Fault)

/-- An open console. -/
structure Channel where
  /-- What will be received, the next first. -/
  deliveries : List Delivery
  /-- When the last chunk that was queued can be received. -/
  lastDelivery : Nat
  /-- What has been received and not been taken. -/
  conversation : Conversation
  /-- How the console reacts. -/
  reactions : Reactions
  /-- Why closing fails, if it does. -/
  closeFault : Option Fault

namespace Channel

/-- Queues chunks. Each can be received a while after the later of now and the moment of the one
before it. -/
def queue (channel : Channel) (now : Nat) (chunks : List Chunk) : Channel :=
  chunks.foldl (fun channel chunk =>
    let time := max now channel.lastDelivery + chunk.after
    { channel with
      deliveries := channel.deliveries ++ [⟨time, chunk.signal⟩]
      lastDelivery := time }) channel

/-- A console that has just been opened. -/
def greet (now : Nat) (greeting : List Chunk) (reactions : Reactions)
    (closeFault : Option Fault) : Channel :=
  queue ⟨[], now, .empty, reactions, closeFault⟩ now greeting

/-- Sends a text. -/
def send (channel : Channel) (now : Nat) (text : String) : Outcome Unit × Channel :=
  let (reaction, reactions) := channel.reactions.next text
  let channel := { channel with reactions }
  match reaction with
  | .show chunks => (.ok (), channel.queue now chunks)
  | .refuse fault => (.error fault, channel)

/-- Waits for a prompt: the outcome, the channel and the moment after it. -/
def waitFor (channel : Channel) (now : Nat) (prompt : Pattern) (limit : Span) :
    Outcome (List Char) × Channel × Nat :=
  let wait := channel.conversation.waitFor prompt limit now channel.deliveries
  (wait.outcome,
    { channel with conversation := wait.conversation, deliveries := wait.deliveries }, wait.time)

/-- Closes the console. -/
def close (channel : Channel) : Outcome Unit :=
  match channel.closeFault with
  | some fault => .error fault
  | none => .ok ()

end Channel

/-- What stands in for all hosts. -/
structure Script where
  /-- The rules, the first that matches counts. -/
  rules : List Rule
  /-- The consoles that have not been opened yet. -/
  consoles : List ConsoleScript

namespace Script

/-- The fault of a command that no rule answers. -/
def unanswered (host command : String) : Fault :=
  ⟨.connectivity, s!"unscripted command on {host}: {command}"⟩

/-- The fault of a login for which there is no console. -/
def noConsole : Fault :=
  ⟨.connectivity, "no console scripted"⟩

/-- Answers a command by a list of rules. -/
def answerBy (host command : String) : List Rule → HostReply × List Rule
  | [] => (⟨0, .error (unanswered host command)⟩, [])
  | rule :: rules =>
    if rule.matches? host command then
      ((rule.replies.head?).getD ⟨0, .error (unanswered host command)⟩, rule.used :: rules)
    else
      let (reply, rules) := answerBy host command rules
      (reply, rule :: rules)

/-- Answers a command. -/
def answer (script : Script) (host command : String) : HostReply × Script :=
  let (reply, rules) := answerBy host command script.rules
  (reply, { script with rules })

/-- Opens the next console. -/
def openNext (script : Script) (now : Nat) : Outcome Channel × Script :=
  match script.consoles with
  | [] => (.error noConsole, script)
  | .refused fault :: consoles => (.error fault, { script with consoles })
  | .opened greeting reactions closeFault :: consoles =>
    (.ok (.greet now greeting reactions closeFault), { script with consoles })

end Script

end VparFleet.Rehearsal
