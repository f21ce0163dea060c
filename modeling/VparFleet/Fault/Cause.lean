import VparFleet.Fault

/-!
# Causes of faults

What the layers below report, a remote session, the store or a file, and the fault that it becomes.

* `SessionCause.kind`: a session ends in a protocol fault only where trust is at stake; everything
  else counts as lost connectivity.
-/

namespace VparFleet

/-- Why a remote session failed. -/
inductive SessionCause where
  /-- The session was ended. -/
  | disconnected
  /-- The other side closed the connection. -/
  | hungUp
  /-- No connection came about in time. -/
  | connectionTimeout
  /-- The other side did not answer a keepalive in time. -/
  | keepaliveTimeout
  /-- Nothing happened for too long. -/
  | inactivityTimeout
  /-- Reading from or writing to the connection failed. -/
  | io (text : String)
  /-- The server key is not the known one. -/
  | unknownKey
  /-- The server signed with another key than it showed. -/
  | wrongSignature
  /-- Something was asked for before the login. -/
  | notAuthenticated
  /-- There is no way left to log in. -/
  | noAuthMethod
  /-- A message could not be handed to the session. -/
  | sendFailed
  /-- Too much is waiting to be sent. -/
  | pendingLimit
  /-- The other side refused a request. -/
  | requestDenied
  /-- A packet cannot be decrypted. -/
  | decryption
  /-- A packet carries a wrong authentication code. -/
  | packetAuth
  /-- The conversation is in an impossible state. -/
  | inconsistent
  /-- A packet is shorter than it has to be. -/
  | outOfBounds
  /-- A message belongs to a channel that is not open. -/
  | wrongChannel
  /-- There is no place to keep host keys. -/
  | noHome
  /-- A key cannot be read. -/
  | unreadableKey
  /-- The key exchange could not start. -/
  | keyExchangeStart
  /-- The key exchange failed. -/
  | keyExchange
  /-- The other side speaks no known version. -/
  | version
  /-- An algorithm is not known. -/
  | unknownAlgorithm
  /-- The sides share no key exchange algorithm. -/
  | noCommonExchange
  /-- The sides share no key algorithm. -/
  | noCommonKey
  /-- The sides share no cipher. -/
  | noCommonCipher
  /-- The sides share no compression. -/
  | noCommonCompression
  /-- The sides share no authentication code. -/
  | noCommonMac
  /-- The other side does not open the channel. -/
  | channelRefused
  deriving DecidableEq, Repr

namespace SessionCause

/-- The wording of a cause. -/
def detail : SessionCause → String
  | disconnected => "Disconnected"
  | hungUp => "Connection closed by the remote side"
  | connectionTimeout => "Connection timeout"
  | keepaliveTimeout => "Keepalive timeout"
  | inactivityTimeout => "Inactivity timeout"
  | io text => text
  | unknownKey => "Unknown server key"
  | wrongSignature => "Wrong server signature"
  | notAuthenticated => "Not yet authenticated"
  | noAuthMethod => "No authentication method"
  | sendFailed => "Channel send error"
  | pendingLimit => "Pending buffer limit reached"
  | requestDenied => "The request was rejected by the other party"
  | decryption => "Failed to decrypt a packet"
  | packetAuth => "Wrong packet authentication code"
  | inconsistent => "Inconsistent state of the protocol"
  | outOfBounds => "Index out of bounds"
  | wrongChannel => "Channel not open"
  | noHome => "No home directory when saving host key"
  | unreadableKey => "Could not read key"
  | keyExchangeStart => "Key exchange init failed"
  | keyExchange => "Key exchange failed"
  | version => "invalid SSH version string"
  | unknownAlgorithm => "Unknown algorithm"
  | noCommonExchange => "No common key exchange algorithm"
  | noCommonKey => "No common key algorithm"
  | noCommonCipher => "No common key cipher"
  | noCommonCompression => "No common compression algorithm"
  | noCommonMac => "No common MAC algorithm"
  | channelRefused => "Failed to open channel (AdministrativelyProhibited)"

/-- The kind of fault that a cause leads to. -/
def kind : SessionCause → Fault.Kind
  | unknownKey => .protocol
  | wrongSignature => .protocol
  | notAuthenticated => .protocol
  | _ => .connectivity

/-- The fault that a cause leads to. -/
def fault (cause : SessionCause) : Fault :=
  ⟨cause.kind, cause.detail⟩

/-- There is no network to reach a host over. -/
def noNetwork : SessionCause :=
  io "Network is unreachable (os error 101)"

end SessionCause

/-- Why the store could not do what it was asked to. -/
inductive StoreCause where
  /-- The database refused a statement: its result code and its words. -/
  | refused (code : Nat) (text : String)
  /-- There is no row where one has to be. -/
  | noRow
  /-- A row lacks a column. -/
  | noColumn (column : String)
  /-- The database answered something unexpected. -/
  | unexpected (text : String)
  /-- No connection came free in time. -/
  | busy
  /-- The store has been closed. -/
  | closed
  /-- The worker behind a connection is gone. -/
  | workerGone
  deriving DecidableEq, Repr

namespace StoreCause

/-- The wording of a cause. -/
def detail : StoreCause → String
  | refused code text => s!"error returned from database: (code: {code}) {text}"
  | noRow => "no rows returned by a query that expected to return at least one row"
  | noColumn column => s!"no column found for name: {column}"
  | unexpected text => s!"encountered unexpected or invalid data: {text}"
  | busy => "pool timed out while waiting for an open connection"
  | closed => "attempted to acquire a connection on a closed pool"
  | workerGone => "attempted to communicate with a crashed background worker"

/-- The fault that a cause leads to. -/
def fault (cause : StoreCause) : Fault :=
  ⟨.database, cause.detail⟩

end StoreCause

/-- Why a file could not be used. -/
inductive FileCause where
  /-- There is nothing at the path. -/
  | missing
  /-- Access is denied. -/
  | denied
  /-- There is something at the path already. -/
  | occupied
  /-- A part of the path that has to be a directory is none. -/
  | notDirectory
  /-- There is a directory at the path. -/
  | isDirectory
  /-- The content is no text. -/
  | notText
  /-- Another reason, in words. -/
  | other (text : String)
  deriving DecidableEq, Repr

namespace FileCause

/-- The wording of a cause. -/
def detail : FileCause → String
  | missing => "No such file or directory (os error 2)"
  | denied => "Permission denied (os error 13)"
  | occupied => "File exists (os error 17)"
  | notDirectory => "Not a directory (os error 20)"
  | isDirectory => "Is a directory (os error 21)"
  | notText => "stream did not contain valid UTF-8"
  | other text => text

/-- The fault that a cause leads to. -/
def fault (cause : FileCause) : Fault :=
  ⟨.io, cause.detail⟩

end FileCause

end VparFleet
