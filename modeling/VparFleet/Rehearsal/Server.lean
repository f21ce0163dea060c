import VparFleet.Session.Basic
import VparFleet.Session.Output

/-!
# A scripted server

A script that stands in for the host at the other end of a session, down to the messages on the
channel. Every answer of the server takes a moment, so a session without any time to wait never gets
one.

* `Peer.exec`: a command, from the connection to its output.
* `Peer.converse`: a conversation, step by step.
-/

namespace VparFleet.Rehearsal

open Session (ChannelMessage HostKey KnownHosts LoginReply Terminal)

/-- A server that can be reached. -/
structure Server where
  /-- The key that it shows. -/
  key : HostKey
  /-- Whether it accepts a connection and then stays silent. -/
  silent : Bool
  /-- Its answers during a login. -/
  replies : List LoginReply
  opensChannels : Bool
  /-- What it sends when a command is started. -/
  onExec : List ChannelMessage
  /-- What it sends when a conversation is started. -/
  onShell : List ChannelMessage
  /-- What it sends after each text that it gets, one after the other. -/
  onData : List (List ChannelMessage)

/-- What is at the other end. -/
inductive Peer where
  /-- A server. -/
  | reached (server : Server)
  /-- Nothing that can be reached: the reason. -/
  | unreachable (cause : SessionCause)

/-- What a server sees. -/
inductive ServerEvent where
  /-- The password is offered. -/
  | password (user password : String)
  /-- The user is ready to answer questions. -/
  | interactive (user : String)
  /-- A terminal is wanted. -/
  | terminal (terminal : Terminal)
  /-- A command is started. -/
  | exec (command : String)
  /-- A conversation is started. -/
  | shell
  /-- A text is sent. -/
  | data (text : String)
  deriving DecidableEq, Repr

/-- What came of a session. -/
structure Contact (α : Type) where
  /-- The result. -/
  outcome : Outcome α
  /-- What the server saw. -/
  events : List ServerEvent
  /-- The known host keys afterwards. -/
  known : Option KnownHosts

namespace Contact

/-- A session that ended in a fault. -/
def failed {α : Type} (fault : Fault) (events : List ServerEvent) (known : Option KnownHosts) :
    Contact α :=
  ⟨.error fault, events, known⟩

/-- Turns the result of a session into another one. -/
def map {α β : Type} (f : α → β) (contact : Contact α) : Contact β :=
  ⟨contact.outcome.map f, contact.events, contact.known⟩

/-- Goes on with a session. -/
def andThen {α β : Type} (contact : Contact α)
    (next : α → Outcome β × List ServerEvent) : Contact β :=
  match contact.outcome with
  | .ok a =>
    let (outcome, events) := next a
    ⟨outcome, contact.events ++ events, contact.known⟩
  | .error fault => ⟨.error fault, contact.events, contact.known⟩

end Contact

/-- How long a server takes for an answer. -/
def answerTime : Nat := 1

namespace Peer

/-- What the server sees of a login. -/
def loginEvents (session : Session) (replies : List LoginReply) : List ServerEvent :=
  let user := session.credentials.username
  .password user session.credentials.password
    :: match replies with
      | .refused :: _ => [.interactive user]
      | _ => []

/-- Connects and logs in. -/
def connect (session : Session) (host : String) (peer : Peer) (known : Option KnownHosts) :
    Contact Server :=
  match peer with
  | .unreachable cause => .failed cause.fault [] known
  | .reached server =>
    if server.silent || session.loginTimeout.millis < answerTime then
      .failed (session.lateLogin host) [] known
    else
      let (accepted, known) := Session.accept known host session.tcpPort server.key
      if !accepted then .failed SessionCause.unknownKey.fault [] known
      else
        let events := loginEvents session server.replies
        match Session.login session.credentials server.replies with
        | some (.ok ()) => ⟨.ok server, events, known⟩
        | some (.error fault) => .failed fault events known
        | none => .failed (session.lateLogin host) events known

/-- Connects, logs in and opens a channel. -/
def openChannel (session : Session) (host : String) (peer : Peer) (known : Option KnownHosts) :
    Contact Server :=
  (connect session host peer known).andThen fun server =>
    if server.opensChannels then (.ok server, [.terminal .preset])
    else (.error SessionCause.channelRefused.fault, [])

/-- Runs a command. -/
def exec (session : Session) (host : String) (peer : Peer) (known : Option KnownHosts)
    (command : String) : Contact String :=
  (openChannel session host peer known).andThen fun server =>
    let arrivals := server.onExec.map (Session.Arrival.mk answerTime)
    (Session.Output.collect host session.commandTimeout 0 arrivals, [.exec command])

end Peer

/-! ## Conversations -/

/-- A step of a conversation. -/
inductive ShellStep where
  /-- Sends a text. -/
  | send (text : String)
  /-- Takes the next piece of output. -/
  | receive
  /-- Ends the conversation. -/
  | close

/-- The result of a step. -/
inductive StepResult where
  /-- Something was done, or not. -/
  | done (outcome : Outcome Unit)
  /-- A piece of output, or its end. -/
  | piece (bytes : Option (List UInt8))
  /-- The step would never end. -/
  | stuck

/-- A conversation. -/
structure Shell where
  /-- The messages that have not been taken. -/
  incoming : List ChannelMessage
  /-- What the server will send. -/
  onData : List (List ChannelMessage)
  /-- Whether the conversation has not been ended. -/
  isOpen : Bool

namespace Shell

/-- Whether texts can be sent. -/
def canSend (shell : Shell) : Bool :=
  shell.isOpen && !shell.incoming.contains .hungUp

/-- Takes one step. -/
def step (host : String) (shell : Shell) :
    ShellStep → StepResult × List ServerEvent × Shell
  | .send text =>
    if !shell.canSend then (.done (.error (Session.failedWrite host .sendFailed)), [], shell)
    else if text.isEmpty then (.done (.ok ()), [], shell)
    else
      (.done (.ok ()), [.data text],
        { shell with
          incoming := shell.incoming ++ shell.onData.head?.getD []
          onData := shell.onData.drop 1 })
  | .receive =>
    match Session.nextPiece shell.incoming with
    | some (bytes, incoming) => (.piece bytes, [], { shell with incoming })
    | none => (if shell.isOpen then .stuck else .piece none, [], shell)
  | .close => (.done (.ok ()), [], { shell with isOpen := false })

/-- Takes steps one after the other. -/
def run (host : String) (shell : Shell) : List ShellStep → List StepResult × List ServerEvent
  | [] => ([], [])
  | s :: rest =>
    let (result, events, shell) := shell.step host s
    let (results, more) := shell.run host rest
    (result :: results, events ++ more)

end Shell

/-- Holds a conversation. -/
def Peer.converse (session : Session) (host : String) (peer : Peer) (known : Option KnownHosts)
    (steps : List ShellStep) : Contact (List StepResult) :=
  (openChannel session host peer known).andThen fun server =>
    let (results, events) := Shell.run host ⟨server.onShell, server.onData, true⟩ steps
    (.ok results, .shell :: events)

end VparFleet.Rehearsal
