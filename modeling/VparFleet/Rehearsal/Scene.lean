import VparFleet.Rehearsal.Script
import VparFleet.Shared

/-!
# The scene of a rehearsal

Everything that programs act on in a rehearsal: what tasks share, scripted hosts, and a clock that
moves only while everybody waits.

* `Scene.answer`: answers one action of one task, now or after a while, or makes the task wait.
-/

namespace VparFleet.Rehearsal

/-- What reached the hosts. -/
inductive HostEvent where
  /-- A command line. -/
  | run (host command : String)
  /-- A login for a conversation. -/
  | opened (host : String)
  /-- A text sent to a console. -/
  | sent (text : String)
  /-- The end of a conversation. -/
  | closed
  deriving DecidableEq, Repr

/-- What programs act on. -/
structure Scene where
  /-- The milliseconds since the start. -/
  now : Nat
  /-- The instant of the start. -/
  start : Instant
  /-- How often the clock was looked at. No two looks show the same instant. -/
  looks : Nat
  /-- What stands in for the hosts. -/
  script : Script
  /-- The consoles opened so far. -/
  channels : List Channel
  /-- What reached the hosts and when, the latest first. -/
  log : List (Nat × HostEvent)
  /-- What the tasks share. -/
  shared : Shared

namespace Scene

/-- A scene with a script and an empty store. -/
def set (start : Instant) (script : Script) : Scene where
  now := 0
  start := start
  looks := 0
  script := script
  channels := []
  log := []
  shared := .ofStore .empty

/-- The store of a scene. -/
def store (scene : Scene) : Store := scene.shared.store

/-- The scene with another store. -/
def withStore (scene : Scene) (store : Store) : Scene :=
  { scene with shared := { scene.shared with store } }

/-- The answer to an action, and the time that passes before it. -/
structure Answer (action : Action) where
  /-- The time that passes. -/
  delay : Nat
  reply : action.Reply

/-- Notes what reached the hosts. -/
def note (scene : Scene) (event : HostEvent) : Scene :=
  { scene with log := (scene.now, event) :: scene.log }

/-- The events so far, the earliest first. -/
def events (scene : Scene) : List (Nat × HostEvent) :=
  scene.log.reverse

/-- Asks the store. -/
def query {α : Type} (scene : Scene) (statement : Store.Statement α) : Outcome α × Scene :=
  let (outcome, shared) := scene.shared.query statement
  (outcome, { scene with shared })

/-- Looks at the clock. -/
def look (scene : Scene) : Instant × Scene :=
  -- A rehearsed program may look twice without waiting; the later look must still be later.
  (scene.start.addMillis (scene.now + scene.looks), { scene with looks := scene.looks + 1 })

/-- The fault of a console that was never opened. -/
def unknownConsole : Fault :=
  ⟨.connectivity, "no such console"⟩

/-- Sends bytes to a console. -/
def send (scene : Scene) (console : ConsoleId) (bytes : List UInt8) : Outcome Unit × Scene :=
  match scene.channels[console]? with
  | none => (.error unknownConsole, scene)
  | some channel =>
    let text := String.ofList (Text.Utf8.decodeAll bytes)
    let scene := scene.note (.sent text)
    let (outcome, channel) := channel.send scene.now text
    (outcome, { scene with channels := scene.channels.set console channel })

/-- Waits for a prompt on a console: the outcome, how long that took, and the scene. -/
def waitFor (scene : Scene) (console : ConsoleId) (prompt : Pattern) (limit : Span) :
    Outcome (List Char) × Nat × Scene :=
  match scene.channels[console]? with
  | none => (.error unknownConsole, 0, scene)
  | some channel =>
    let (outcome, channel, time) := channel.waitFor scene.now prompt limit
    (outcome, time - scene.now, { scene with channels := scene.channels.set console channel })

/-- Closes a console. -/
def close (scene : Scene) (console : ConsoleId) : Outcome Unit × Scene :=
  match scene.channels[console]? with
  | none => (.error unknownConsole, scene)
  | some channel => (channel.close, scene.note .closed)

/-- Logs in to a host. -/
def openConsole (scene : Scene) (host : String) : Outcome ConsoleId × Scene :=
  let scene := scene.note (.opened host)
  match scene.script.openNext scene.now with
  | (.ok channel, script) =>
    (.ok scene.channels.length, { scene with script, channels := scene.channels ++ [channel] })
  | (.error fault, script) => (.error fault, { scene with script })

/-- Runs a command. -/
def run (scene : Scene) (host command : String) : HostReply × Scene :=
  let scene := scene.note (.run host command)
  let (reply, script) := scene.script.answer host command
  (reply, { scene with script })

/-- An answer that takes no time. -/
def atOnce {action : Action} (result : action.Reply × Scene) : Option (Answer action) × Scene :=
  (some ⟨0, result.1⟩, result.2)

/-- Answers one action of one task. No answer means that the task has to wait for another one. -/
def answer (scene : Scene) (task : Nat) (action : Action) : Option (Answer action) × Scene :=
  match scene.shared.answer task action with
  | .reply reply shared => (some ⟨0, reply⟩, { scene with shared })
  | .wait shared => (none, { scene with shared })
  | .outside =>
    match action with
    | .run host command =>
      let (reply, scene) := scene.run host command
      (some ⟨reply.delay, reply.outcome⟩, scene)
    | .openConsole host => atOnce (scene.openConsole host)
    | .send console bytes => atOnce (scene.send console bytes)
    | .waitForPrompt console prompt limit =>
      let (outcome, delay, scene) := scene.waitFor console prompt limit
      (some ⟨delay, outcome⟩, scene)
    | .closeConsole console => atOnce (scene.close console)
    | .pause span => (some ⟨span.millis, ()⟩, scene)
    | .clock => atOnce scene.look
    | _ => (none, scene)

end Scene

end VparFleet.Rehearsal
