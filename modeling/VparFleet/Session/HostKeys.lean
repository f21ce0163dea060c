/-!
# Host keys

A host proves who it is by its key. The key that a host shows first is trusted and kept; from then
on the host has to show the same one.

* `KeyFile.accept`: whether a host is let in, and the file afterwards, for any kind of file that can
  be asked and added to; `KnownHosts.accept`: the same for the files of this library.
-/

namespace VparFleet.Session

/-- The public key that a host shows. -/
structure HostKey where
  /-- The key as it goes over the wire. -/
  blob : List UInt8
  deriving DecidableEq, Repr

/-- A host at a TCP port, and its key. -/
structure KnownHost where
  host : String
  tcpPort : Nat
  key : HostKey
  deriving DecidableEq, Repr

/-- What is known about a key. -/
inductive Standing where
  /-- It is the known key of the host. -/
  | known
  /-- The host has another key, or the question could not be answered. -/
  | changed
  /-- No key of the host is known. -/
  | unseen
  deriving DecidableEq, Repr

/-- How a kind of file of known hosts is asked and added to. -/
structure KeyFile (File : Type) where
  /-- What is known about the key that a host at a TCP port shows. -/
  standing : File → String → Nat → HostKey → Standing
  /-- Adds an entry; nothing if that fails. -/
  learn? : File → KnownHost → Option File

/-- Whether a host is let in, and the file afterwards. A host that is unseen is let in even if its
key cannot be added. -/
def KeyFile.accept {File : Type} (keys : KeyFile File) (file : File) (host : String)
    (tcpPort : Nat) (key : HostKey) : Bool × File :=
  match keys.standing file host tcpPort key with
  | .known => (true, file)
  | .unseen => (true, (keys.learn? file ⟨host, tcpPort, key⟩).getD file)
  | .changed => (false, file)

/-- The file of known hosts. -/
structure KnownHosts where
  /-- The entries, the oldest first. A missing file has none. -/
  entries : List KnownHost
  /-- Whether entries can be added. -/
  writable : Bool
  deriving DecidableEq, Repr

namespace KnownHosts

/-- A file without entries. -/
def empty : KnownHosts := ⟨[], true⟩

/-- The keys that are known of a host at a TCP port. -/
def keysOf (known : KnownHosts) (host : String) (tcpPort : Nat) : List HostKey :=
  (known.entries.filter fun entry => entry.host = host && entry.tcpPort = tcpPort).map (·.key)

/-- What is known about the key that a host shows. -/
def standing (known : KnownHosts) (host : String) (tcpPort : Nat) (key : HostKey) : Standing :=
  let keys := known.keysOf host tcpPort
  -- One entry with another key is enough for a refusal, even beside one with this key.
  if keys.any (· ≠ key) then .changed
  else if keys.isEmpty then .unseen
  else .known

/-- Adds an entry, if the file can be written. -/
def learn? (known : KnownHosts) (entry : KnownHost) : Option KnownHosts :=
  if known.writable then some { known with entries := known.entries ++ [entry] } else none

/-- How the file is asked and added to. -/
def keyFile : KeyFile KnownHosts := ⟨standing, learn?⟩

/-- Whether a host is let in, and what is known afterwards. -/
def accept (known : KnownHosts) (host : String) (tcpPort : Nat) (key : HostKey) :
    Bool × KnownHosts :=
  keyFile.accept known host tcpPort key

end KnownHosts

/-- Whether a host is let in, and what is known afterwards. Without a file every host is let in and
nothing is kept. -/
def accept (known? : Option KnownHosts) (host : String) (tcpPort : Nat) (key : HostKey) :
    Bool × Option KnownHosts :=
  match known? with
  | none => (true, none)
  | some known =>
    let (accepted, known) := known.accept host tcpPort key
    (accepted, some known)

end VparFleet.Session
