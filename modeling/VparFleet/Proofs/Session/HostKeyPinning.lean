import Mathlib.Data.List.Induction
import Mathlib.Data.List.Nodup
import VparFleet.Session.HostKeys

/-!
# Trust on first use

What connections leave in the file of known hosts is the first connection to each host, whatever
keys the hosts show later. So a host is let in exactly as long as it shows the key that it showed
first.

* `KeyFile.Documented`: what is expected of a file of known hosts.
* `KeyFile.afterAll`, `KeyFile.passed`, `KeyFile.Records`: connections in a row.
* `pins`: the first connection to each host.
* `Documented.accept_pinned`: one connection, `entries_afterAll`: connections in a row.
* `keys_pinned`: which connections pass, and what they add to the file.
-/

namespace VparFleet.Session

/-- A connection to a host, and the key that the host shows. -/
structure Connection where
  host : String
  key : HostKey
  deriving DecidableEq, Repr

/-- The entry of a host at a TCP port. -/
def Connection.entry (tcpPort : Nat) (connection : Connection) : KnownHost :=
  ⟨connection.host, tcpPort, connection.key⟩

/-! ## The first connections -/

/-- Adds a connection to those that are the first one to their host. -/
def pin (pinned : List Connection) (connection : Connection) : List Connection :=
  if pinned.any (·.host = connection.host) then pinned else pinned ++ [connection]

/-- The first connection to each host. -/
def pins (connections : List Connection) : List Connection :=
  connections.foldl pin []

variable {connections pinned : List Connection} {connection : Connection} {host : String}
  {tcpPort : Nat}

theorem pins_concat (connections : List Connection) (connection : Connection) :
    pins (connections ++ [connection]) = pin (pins connections) connection := by
  rw [pins, List.foldl_append]
  rfl

theorem any_host_eq_true_iff :
    pinned.any (·.host = host) = true ↔ ∃ first, pinned.find? (·.host = host) = some first := by
  rw [← Option.isSome_iff_exists, List.find?_isSome]
  simp

theorem pin_of_some {first : Connection}
    (h : pinned.find? (·.host = connection.host) = some first) :
    pin pinned connection = pinned :=
  if_pos (any_host_eq_true_iff.mpr ⟨first, h⟩)

/-- The first connection to a host is. -/
theorem pin_of_none (h : pinned.find? (·.host = connection.host) = none) :
    pin pinned connection = pinned ++ [connection] := by
  refine if_neg fun hany => ?_
  obtain ⟨first, hfirst⟩ := any_host_eq_true_iff.mp hany
  rw [h] at hfirst
  cases hfirst

/-- Adding only first connections does not change which one is found. -/
theorem find?_pin (pinned : List Connection) (connection : Connection) (host : String) :
    (pin pinned connection).find? (·.host = host) =
      (pinned ++ [connection]).find? (·.host = host) := by
  cases hfirst : pinned.find? (·.host = connection.host) with
  | none => rw [pin_of_none hfirst]
  | some first =>
    rw [pin_of_some hfirst, List.find?_append]
    -- a connection that is left out is none to the host that is looked for, or not the first
    cases hhost : pinned.find? (·.host = host) with
    | some other => rfl
    | none =>
      have hne : connection.host ≠ host := by
        rintro rfl
        rw [hfirst] at hhost
        cases hhost
      simp [hne]

/-- The first connection to a host is found among the first ones as among all. -/
theorem find?_pins (connections : List Connection) (host : String) :
    (pins connections).find? (·.host = host) = connections.find? (·.host = host) := by
  induction connections using List.reverseRecOn with
  | nil => rfl
  | append_singleton connections connection ih =>
    rw [pins_concat, find?_pin, List.find?_append, List.find?_append, ih]

theorem mem_map_host_iff :
    host ∈ connections.map Connection.host ↔ (connections.find? (·.host = host)).isSome = true := by
  rw [List.find?_isSome, List.mem_map]
  simp

theorem mem_map_host_pins (connections : List Connection) (host : String) :
    host ∈ (pins connections).map Connection.host ↔ host ∈ connections.map Connection.host := by
  rw [mem_map_host_iff, mem_map_host_iff, find?_pins]

/-- Adding a first connection keeps the hosts different. -/
theorem nodup_pin (h : (pinned.map Connection.host).Nodup) :
    ((pin pinned connection).map Connection.host).Nodup := by
  cases hfirst : pinned.find? (·.host = connection.host) with
  | some first => rwa [pin_of_some hfirst]
  | none =>
    rw [pin_of_none hfirst, List.map_append, List.map_singleton, List.nodup_append]
    refine ⟨h, List.nodup_singleton _, ?_⟩
    -- a connection is added only if none to its host is there
    rintro host hmem other hother rfl
    obtain ⟨entry, hentry, rfl⟩ := List.mem_map.mp hmem
    have hne := List.find?_eq_none.mp hfirst entry hentry
    exact hne (by simpa using List.mem_singleton.mp hother)

/-- Each host has one first connection. -/
theorem nodup_pins (connections : List Connection) :
    ((pins connections).map Connection.host).Nodup := by
  induction connections using List.reverseRecOn with
  | nil => exact List.nodup_nil
  | append_singleton connections connection ih =>
    rw [pins_concat]
    exact nodup_pin ih

/-! ## Files of known hosts -/

namespace KeyFile

variable {File : Type} {keys : KeyFile File} {entries : File → List KnownHost} {file : File}

/-- What is expected of a file of known hosts: it knows the key in the entry of a host, answers that
another key is not that one, answers that a host without an entry is unseen, and what is added is a
last entry. Nothing is expected of a host with entries that contradict each other. -/
structure Documented (keys : KeyFile File) (entries : File → List KnownHost) : Prop where
  known : ∀ file host tcpPort key, ⟨host, tcpPort, key⟩ ∈ entries file →
    (∀ other, ⟨host, tcpPort, other⟩ ∈ entries file → other = key) →
    keys.standing file host tcpPort key = .known
  changed : ∀ file host tcpPort key other, ⟨host, tcpPort, other⟩ ∈ entries file →
    ⟨host, tcpPort, key⟩ ∉ entries file → keys.standing file host tcpPort key = .changed
  unseen : ∀ file host tcpPort key, (∀ other, ⟨host, tcpPort, other⟩ ∉ entries file) →
    keys.standing file host tcpPort key = .unseen
  learnt : ∀ file entry learnt, keys.learn? file entry = some learnt →
    entries learnt = entries file ++ [entry]

/-- Whether a connection passes. -/
def admits (keys : KeyFile File) (tcpPort : Nat) (file : File) (connection : Connection) : Bool :=
  (keys.accept file connection.host tcpPort connection.key).1

/-- The file after a connection. -/
def after (keys : KeyFile File) (tcpPort : Nat) (file : File) (connection : Connection) : File :=
  (keys.accept file connection.host tcpPort connection.key).2

/-- The file after connections in a row. -/
def afterAll (keys : KeyFile File) (tcpPort : Nat) (file : File) (connections : List Connection) :
    File :=
  connections.foldl (keys.after tcpPort) file

/-- Those of connections in a row that pass. -/
def passed (keys : KeyFile File) (tcpPort : Nat) (file : File) : List Connection → List Connection
  | [] => []
  | connection :: rest =>
    (if keys.admits tcpPort file connection then [connection] else [])
      ++ keys.passed tcpPort (keys.after tcpPort file connection) rest

/-- Whether an entry can be added for each connection in a row that is to be added. -/
def Records (keys : KeyFile File) (tcpPort : Nat) (file : File) : List Connection → Prop
  | [] => True
  | connection :: rest =>
    (keys.standing file connection.host tcpPort connection.key = .unseen →
      (keys.learn? file (connection.entry tcpPort)).isSome = true) ∧
    keys.Records tcpPort (keys.after tcpPort file connection) rest

/-- What passes of connections in a row, and then of one more. -/
theorem passed_concat (connections : List Connection) (connection : Connection) :
    keys.passed tcpPort file (connections ++ [connection]) =
      keys.passed tcpPort file connections ++
        if keys.admits tcpPort (keys.afterAll tcpPort file connections) connection then [connection]
        else [] := by
  induction connections generalizing file with
  | nil => exact List.append_nil _
  | cons first connections ih =>
    rw [List.cons_append, passed, passed, ih, List.append_assoc]
    rfl

/-- What is recorded of connections in a row, and then of one more. -/
theorem records_concat_iff {connections : List Connection} {connection : Connection} :
    keys.Records tcpPort file (connections ++ [connection]) ↔
      keys.Records tcpPort file connections ∧
        (keys.standing (keys.afterAll tcpPort file connections) connection.host tcpPort
            connection.key = .unseen →
          (keys.learn? (keys.afterAll tcpPort file connections)
            (connection.entry tcpPort)).isSome = true) := by
  induction connections generalizing file with
  | nil => simp [Records, afterAll]
  | cons first connections ih =>
    rw [List.cons_append, Records, Records, ih, and_assoc]
    rfl

/-- The file after connections in a row, and then after one more. -/
theorem afterAll_concat (connections : List Connection) (connection : Connection) :
    keys.afterAll tcpPort file (connections ++ [connection]) =
      keys.after tcpPort (keys.afterAll tcpPort file connections) connection := by
  rw [afterAll, List.foldl_append]
  rfl

/-! ## One connection -/

/-- The file has an entry for each first connection, and no others. -/
theorem entry_mem_iff (hfile : entries file = pinned.map (Connection.entry tcpPort))
    {key : HostKey} :
    ⟨host, tcpPort, key⟩ ∈ entries file ↔ (⟨host, key⟩ : Connection) ∈ pinned := by
  rw [hfile, List.mem_map]
  constructor
  · rintro ⟨⟨_, _⟩, hmem, hentry⟩
    obtain ⟨rfl, -, rfl⟩ := KnownHost.mk.inj hentry
    exact hmem
  · exact fun hmem => ⟨_, hmem, rfl⟩

/-- There is one first connection to each host. -/
theorem eq_of_same_host (hnodup : (pinned.map Connection.host).Nodup) {other : Connection}
    (h : connection ∈ pinned) (hother : other ∈ pinned) (hhost : other.host = connection.host) :
    other = connection :=
  List.inj_on_of_nodup_map hnodup hother h hhost

/-- A connection, when the file holds the first connection to each host: it passes if it shows the
key of the first one to its host or is itself the first one, and then it is added. -/
theorem Documented.accept_pinned (hkeys : keys.Documented entries)
    (hfile : entries file = pinned.map (Connection.entry tcpPort))
    (hnodup : (pinned.map Connection.host).Nodup)
    (hrecord : keys.standing file connection.host tcpPort connection.key = .unseen →
      (keys.learn? file (connection.entry tcpPort)).isSome = true) :
    (keys.admits tcpPort file connection = true ↔
      ∀ first, pinned.find? (·.host = connection.host) = some first →
        connection.key = first.key) ∧
    entries (keys.after tcpPort file connection) =
      (pin pinned connection).map (Connection.entry tcpPort) := by
  -- the first connection to its host, or a later one
  cases hfirst : pinned.find? (·.host = connection.host) with
  | none =>
    -- no entry of the host, so it is unseen, and its entry is added
    have hunseen : keys.standing file connection.host tcpPort connection.key = .unseen := by
      refine hkeys.unseen _ _ _ _ fun other hmem => ?_
      exact List.find?_eq_none.mp hfirst _ ((entry_mem_iff hfile).mp hmem) (by simp)
    obtain ⟨learnt, hlearnt⟩ := Option.isSome_iff_exists.mp (hrecord hunseen)
    have hafter : keys.after tcpPort file connection = learnt := by
      rw [after, accept, hunseen]
      exact congrArg (·.getD file) hlearnt
    refine ⟨⟨fun _ first hnone => ?_, fun _ => by rw [admits, accept, hunseen]⟩, ?_⟩
    · cases hnone
    · rw [hafter, hkeys.learnt _ _ _ hlearnt, hfile, pin_of_none hfirst, List.map_append,
        List.map_singleton]
  | some first =>
    have hmem : first ∈ pinned := List.mem_of_find?_eq_some hfirst
    have hhost : first.host = connection.host := by simpa using List.find?_some hfirst
    -- the file has the key that the host showed first, and no other
    have hentry : ⟨connection.host, tcpPort, first.key⟩ ∈ entries file :=
      (entry_mem_iff hfile).mpr (hhost ▸ hmem)
    rw [pin_of_some hfirst]
    by_cases hkey : connection.key = first.key
    · -- the same key: the host is let in, and the file stays as it is
      have hknown : keys.standing file connection.host tcpPort connection.key = .known := by
        refine hkeys.known _ _ _ _ (hkey ▸ hentry) fun other hother => ?_
        have hsame := eq_of_same_host hnodup hmem ((entry_mem_iff hfile).mp hother) hhost.symm
        exact (congrArg Connection.key hsame).trans hkey.symm
      refine ⟨⟨?_, fun _ => by rw [admits, accept, hknown]⟩, by rw [after, accept, hknown, hfile]⟩
      intro _ other hother
      rw [← Option.some.inj hother]
      exact hkey
    · -- another key: the host is turned away, and the file stays as it is
      have hchanged : keys.standing file connection.host tcpPort connection.key = .changed := by
        refine hkeys.changed _ _ _ _ first.key hentry fun hother => ?_
        have hsame := eq_of_same_host hnodup hmem ((entry_mem_iff hfile).mp hother) hhost.symm
        exact hkey (congrArg Connection.key hsame)
      refine ⟨⟨fun hadmits => ?_, fun hall => absurd (hall first rfl) hkey⟩,
        by rw [after, accept, hchanged, hfile]⟩
      rw [admits, accept, hchanged] at hadmits
      cases hadmits

/-! ## Connections in a row -/

/-- Connections in a row leave the first connection to each host in a file that was empty. -/
theorem Documented.entries_afterAll (hkeys : keys.Documented entries) (hempty : entries file = [])
    (hrecords : keys.Records tcpPort file connections) :
    entries (keys.afterAll tcpPort file connections) =
      (pins connections).map (Connection.entry tcpPort) := by
  induction connections using List.reverseRecOn with
  | nil => exact hempty
  | append_singleton connections connection ih =>
    -- the file before the last connection holds the first ones so far
    obtain ⟨hearlier, hrecord⟩ := records_concat_iff.mp hrecords
    rw [afterAll_concat, pins_concat]
    exact (hkeys.accept_pinned (ih hearlier) (nodup_pins connections) hrecord).2

/-- A connection passes exactly if it shows the key of the first connection to its host. -/
theorem Documented.admits_iff (hkeys : keys.Documented entries) (hempty : entries file = [])
    (hrecords : keys.Records tcpPort file (connections ++ [connection])) :
    keys.admits tcpPort (keys.afterAll tcpPort file connections) connection = true ↔
      ∀ first, connections.find? (·.host = connection.host) = some first →
        connection.key = first.key := by
  obtain ⟨hearlier, hrecord⟩ := records_concat_iff.mp hrecords
  rw [← find?_pins]
  exact (hkeys.accept_pinned (hkeys.entries_afterAll hempty hearlier) (nodup_pins connections)
    hrecord).1

/-- The first connection to a host passes, so it is the first one that passes. -/
theorem Documented.find?_passed (hkeys : keys.Documented entries) (hempty : entries file = [])
    (hrecords : keys.Records tcpPort file connections) (host : String) :
    (keys.passed tcpPort file connections).find? (·.host = host) =
      connections.find? (·.host = host) := by
  induction connections using List.reverseRecOn with
  | nil => rfl
  | append_singleton connections connection ih =>
    have hearlier := (records_concat_iff.mp hrecords).1
    rw [passed_concat, List.find?_append, List.find?_append, ih hearlier]
    -- only a host that was not connected to before can be found in the last connection
    cases hfirst : connections.find? (·.host = host) with
    | some first => rfl
    | none =>
      rw [Option.none_or, Option.none_or]
      by_cases hhost : connection.host = host
      · have hadmits := (hkeys.admits_iff hempty hrecords).mpr (by simp [hhost, hfirst])
        rw [if_pos hadmits]
      · split <;> simp [hhost]

/-- Host keys are trusted on first use and pinned then. Of connections to hosts at one TCP port,
with a file that was empty and every recording succeeding, a connection passes exactly if it shows
the key of the first connection to its host that passed, or if none passed before; in that case, and
in no other, its entry is added, so that the file has one entry for every host that was connected
to. -/
theorem keys_pinned (keys : KeyFile File) (entries : File → List KnownHost)
    (hkeys : keys.Documented entries) (tcpPort : Nat) (file : File) (hempty : entries file = [])
    (earlier : List Connection) (next : Connection)
    (hrecords : keys.Records tcpPort file (earlier ++ [next])) :
    let before := keys.afterAll tcpPort file earlier
    let first? := (keys.passed tcpPort file earlier).find? (·.host = next.host)
    let known := entries (keys.after tcpPort before next)
    (keys.admits tcpPort before next = true ↔
      ∀ first, first? = some first → next.key = first.key) ∧
    known = entries before ++ (if first? = none then [next.entry tcpPort] else []) ∧
    ∀ host, (known.map KnownHost.host).count host =
      if host ∈ (earlier ++ [next]).map Connection.host then 1 else 0 := by
  intro before first? known
  have hearlier := (records_concat_iff.mp hrecords).1
  have hfirst : first? = earlier.find? (·.host = next.host) := hkeys.find?_passed hempty hearlier _
  have hbefore : entries before = (pins earlier).map (Connection.entry tcpPort) :=
    hkeys.entries_afterAll hempty hearlier
  have hknown : known = (pins (earlier ++ [next])).map (Connection.entry tcpPort) := by
    rw [← hkeys.entries_afterAll hempty hrecords, afterAll_concat]
  refine ⟨hfirst ▸ hkeys.admits_iff hempty hrecords, ?_, fun host => ?_⟩
  · rw [hknown, hbefore, hfirst, pins_concat, ← find?_pins]
    cases hpinned : (pins earlier).find? (·.host = next.host) with
    | none => rw [pin_of_none hpinned, if_pos rfl, List.map_append, List.map_singleton]
    | some first => rw [pin_of_some hpinned, if_neg nofun, List.append_nil]
  · -- the hosts in the file are those of the first connections, each once
    have hhosts : known.map KnownHost.host = (pins (earlier ++ [next])).map Connection.host := by
      rw [hknown, List.map_map]
      rfl
    rw [hhosts, (nodup_pins _).count]
    simp only [mem_map_host_pins]

end KeyFile

/-! ## The files of this library -/

namespace KnownHosts

variable {known : KnownHosts} {key : HostKey}

/-- The keys of a host are those of its entries. -/
theorem mem_keysOf_iff :
    key ∈ known.keysOf host tcpPort ↔ ⟨host, tcpPort, key⟩ ∈ known.entries := by
  simp only [keysOf, List.mem_map, List.mem_filter, Bool.and_eq_true, decide_eq_true_eq]
  constructor
  · rintro ⟨⟨_, _, _⟩, ⟨hmem, rfl, rfl⟩, rfl⟩
    exact hmem
  · exact fun hmem => ⟨_, ⟨hmem, rfl, rfl⟩, rfl⟩

/-- The files of this library do what is expected of files of known hosts. -/
theorem documented_keyFile : keyFile.Documented KnownHosts.entries where
  known known host tcpPort key hmem hall := by
    -- no key of the host is another one
    have hnone : (known.keysOf host tcpPort).any (· ≠ key) = false := by
      simpa [mem_keysOf_iff] using hall
    have hsome : (known.keysOf host tcpPort).isEmpty = false := by
      rw [List.isEmpty_eq_false_iff_exists_mem]
      exact ⟨key, mem_keysOf_iff.mpr hmem⟩
    simp only [keyFile, standing, hnone, hsome, Bool.false_eq_true, if_false]
  changed known host tcpPort key other hmem hnot := by
    have hother : (known.keysOf host tcpPort).any (· ≠ key) = true := by
      rw [List.any_eq_true]
      refine ⟨other, mem_keysOf_iff.mpr hmem, ?_⟩
      rw [decide_eq_true_eq]
      rintro rfl
      exact hnot hmem
    simp only [keyFile, standing, hother, if_true]
  unseen known host tcpPort key hnone := by
    have hempty : known.keysOf host tcpPort = [] :=
      List.eq_nil_iff_forall_not_mem.mpr fun other hmem => hnone other (mem_keysOf_iff.mp hmem)
    simp [keyFile, standing, hempty]
  learnt known entry learnt hlearnt := by
    simp only [keyFile, learn?, Option.ite_none_right_eq_some, Option.some.injEq] at hlearnt
    rw [← hlearnt.2]

/-- Connections do not change whether a file can be written. -/
theorem writable_after (known : KnownHosts) (tcpPort : Nat) (connection : Connection) :
    (keyFile.after tcpPort known connection).writable = known.writable := by
  simp only [KeyFile.after, KeyFile.accept, keyFile, learn?]
  split
  · rfl
  · split <;> rfl
  · rfl

/-- A file that can be written takes every entry. -/
theorem records_of_writable (h : known.writable = true) :
    keyFile.Records tcpPort known connections := by
  induction connections generalizing known with
  | nil => exact trivial
  | cons connection connections ih =>
    refine ⟨fun _ => ?_, ih ((writable_after _ _ _).trans h)⟩
    simp [keyFile, learn?, h]

end KnownHosts

/-- Three connections: the second one is to another host with the same key, and the third one shows
another key than the first. -/
def sampleConnections : List Connection :=
  [⟨"10.0.0.11", ⟨[1]⟩⟩, ⟨"10.0.0.12", ⟨[1]⟩⟩, ⟨"10.0.0.11", ⟨[2]⟩⟩]

/-- The second host may show the same key, and the first one no other than before. -/
theorem keys_pinned_sample :
    let known := KnownHosts.keyFile.afterAll 22 .empty sampleConnections
    (known.accept "10.0.0.11" 22 ⟨[1]⟩).1 = true ∧
      (known.accept "10.0.0.11" 22 ⟨[2]⟩).1 = false ∧
      known.entries.map KnownHost.host = ["10.0.0.11", "10.0.0.12"] := by
  intro known
  have hpinned (key : HostKey) := KeyFile.keys_pinned KnownHosts.keyFile KnownHosts.entries
    KnownHosts.documented_keyFile 22 .empty rfl sampleConnections ⟨"10.0.0.11", key⟩
    (KnownHosts.records_of_writable rfl)
  refine ⟨(hpinned ⟨[1]⟩).1.mpr (by decide), ?_, by decide⟩
  rw [← Bool.not_eq_true]
  exact fun hpasses => absurd ((hpinned ⟨[2]⟩).1.mp hpasses) (by decide)

end VparFleet.Session
