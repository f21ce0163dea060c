import VparFleet.Session.HostKeys
import VparFleet.Session.Login
import VparFleet.Settings

/-!
# Remote sessions

How hosts are reached: the port, the login and the bounds on time. Every command and every
conversation has a session of its own, with a terminal of a fixed size.

* `Session.ofSettings`: the sessions of a configuration.
* `Terminal.preset`: the terminal that is asked for.
-/

namespace VparFleet

/-- How hosts are reached. -/
structure Session where
  credentials : Credentials
  tcpPort : Nat
  /-- The bound on connecting and logging in. -/
  loginTimeout : Span
  /-- The bound on a command. -/
  commandTimeout : Span
  /-- The file of known host keys. -/
  knownHosts : Option String

namespace Session

/-- The sessions of a configuration. -/
def ofSettings (remote : RemoteSettings) : Session where
  credentials := remote.credentials
  tcpPort := remote.tcpPort
  loginTimeout := remote.stepTimeout
  commandTimeout := remote.commandTimeout
  knownHosts := remote.knownHosts

/-- A terminal as a host is asked for it. -/
structure Terminal where
  /-- The kind of terminal. -/
  kind : String
  columns : Nat
  rows : Nat
  deriving DecidableEq, Repr

/-- The terminal of every channel. It is wide, so that lines of output are not broken. -/
def Terminal.preset : Terminal := ⟨"vt100", 200, 50⟩

/-- The fault of a login that takes too long. -/
def lateLogin (session : Session) (host : String) : Fault :=
  ⟨.timeout, s!"login to {host} not completed within {session.loginTimeout.text}"⟩

/-- The fault of a text that could not be written to a conversation. -/
def failedWrite (host : String) (cause : SessionCause) : Fault :=
  ⟨.connectivity, s!"write to {host} failed: {cause.detail}"⟩

end Session

end VparFleet
