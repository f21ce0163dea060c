/-!
# Locks by key

One lock per key, made when the key is first asked for and forgotten when nobody needs it any more.
The table of keys does not keep a lock alive: only claims do. A claim is one attempt to hold the
lock of a key, from the look into the table to the end of its last reference.

Every function is one atomic step of one claim; steps of other claims may come in between.

* `access`: looks a key up and claims its lock, makes a new lock, or clears a dead entry away.
* `acquire`, `release`: take and give back the lock itself.
* `countReferences`, `forget`, `leave`: what the last one to leave does to the table.
* `abandon`: gives up waiting.
-/

namespace VparFleet

namespace KeyedLock

/-- How far a claim has come. -/
inductive Phase where
  /-- Waiting for the lock. -/
  | waiting
  /-- Holding the lock. -/
  | holding
  /-- The lock has been given back. -/
  | released
  /-- Nobody else was seen to refer to the lock. -/
  | last
  /-- Nothing is left to do but to drop the last reference. -/
  | leaving
  deriving DecidableEq, Repr

/-- The number of references that a claim holds to its lock: one of its own, and one for the lock
that it waits for or holds. -/
def Phase.references : Phase → Nat
  | waiting => 2
  | holding => 2
  | _ => 1

end KeyedLock

open KeyedLock (Phase)

/-- An attempt to hold the lock of a key. -/
structure KeyedLock.Claim (κ ι : Type) where
  /-- Who makes it. -/
  task : ι
  key : κ
  /-- The lock found under the key. -/
  lock : Nat
  /-- How far it has come. -/
  phase : Phase
  deriving DecidableEq, Repr

/-- The locks of all keys. -/
structure KeyedLock (κ ι : Type) where
  /-- The lock under each key, alive or dead. -/
  entries : List (κ × Nat)
  /-- The claims, in the order in which they were made. -/
  claims : List (KeyedLock.Claim κ ι)
  /-- The number of locks made so far, which names the next one. -/
  made : Nat
  deriving Repr

namespace KeyedLock

variable {κ ι : Type}

/-- No key has a lock. -/
def empty : KeyedLock κ ι := ⟨[], [], 0⟩

/-- The number of references to a lock. -/
def references (locks : KeyedLock κ ι) (lock : Nat) : Nat :=
  (locks.claims.filter (·.lock = lock)).foldr (·.phase.references + ·) 0

/-- Whether a lock is held. -/
def isHeld (locks : KeyedLock κ ι) (lock : Nat) : Bool :=
  locks.claims.any fun claim => claim.lock = lock && claim.phase = .holding

/-- The number of keys whose lock is alive. -/
def active (locks : KeyedLock κ ι) : Nat :=
  (locks.entries.filter fun entry => 0 < locks.references entry.2).length

variable [DecidableEq κ] [DecidableEq ι]

/-- Looks a key up. A living lock is claimed, a dead entry is only cleared away, and for a missing
one a lock is made and claimed. -/
def access (locks : KeyedLock κ ι) (task : ι) (key : κ) : KeyedLock κ ι :=
  match locks.entries.lookup key with
  | some lock =>
    if 0 < locks.references lock then
      { locks with claims := locks.claims ++ [⟨task, key, lock, .waiting⟩] }
    else { locks with entries := locks.entries.filter (·.1 ≠ key) }
  | none =>
    { entries := locks.entries ++ [(key, locks.made)]
      claims := locks.claims ++ [⟨task, key, locks.made, .waiting⟩]
      made := locks.made + 1 }

/-- The claim of a task. -/
def claim? (locks : KeyedLock κ ι) (task : ι) : Option (Claim κ ι) :=
  locks.claims.find? (·.task = task)

/-- Moves the claim of a task to another phase. -/
def setPhase (locks : KeyedLock κ ι) (task : ι) (phase : Phase) : KeyedLock κ ι :=
  { locks with
    claims := locks.claims.map fun claim =>
      if claim.task = task then { claim with phase } else claim }

/-- Takes the claim of a task out. -/
def drop (locks : KeyedLock κ ι) (task : ι) : KeyedLock κ ι :=
  { locks with claims := locks.claims.filter (·.task ≠ task) }

/-- Takes the lock, if it is free. -/
def acquire? (locks : KeyedLock κ ι) (task : ι) : Option (KeyedLock κ ι) := do
  let claim ← locks.claim? task
  guard (claim.phase = .waiting && !locks.isHeld claim.lock)
  return locks.setPhase task .holding

/-- Gives the lock back. -/
def release? (locks : KeyedLock κ ι) (task : ι) : Option (KeyedLock κ ι) := do
  let claim ← locks.claim? task
  guard (claim.phase = .holding)
  return locks.setPhase task .released

/-- Reads how many references there are. -/
def countReferences? (locks : KeyedLock κ ι) (task : ι) : Option (KeyedLock κ ι) := do
  let claim ← locks.claim? task
  guard (claim.phase = .released)
  return locks.setPhase task (if locks.references claim.lock = 1 then .last else .leaving)

/-- Takes the entry of the key out of the table, if it still leads to this lock. -/
def forget? (locks : KeyedLock κ ι) (task : ι) : Option (KeyedLock κ ι) := do
  let claim ← locks.claim? task
  guard (claim.phase = .last)
  return { locks.setPhase task .leaving with
    entries := locks.entries.filter (· ≠ (claim.key, claim.lock)) }

/-- Drops the last reference. -/
def leave? (locks : KeyedLock κ ι) (task : ι) : Option (KeyedLock κ ι) := do
  let claim ← locks.claim? task
  guard (claim.phase = .leaving)
  return locks.drop task

/-- Gives up waiting. -/
def abandon? (locks : KeyedLock κ ι) (task : ι) : Option (KeyedLock κ ι) := do
  let claim ← locks.claim? task
  guard (claim.phase = .waiting)
  return locks.drop task

/-! ## Whole calls

A call whose steps nobody interrupts. -/

/-- Makes a claim: a second look finds the table cleared of a dead entry. -/
def enter (locks : KeyedLock κ ι) (task : ι) (key : κ) : KeyedLock κ ι :=
  let looked := locks.access task key
  -- No claim yet means that the look found a dead entry and cleared it.
  if (looked.claim? task).isSome then looked else looked.access task key

/-- Whether a claim is the first of those that wait for its lock. -/
def isFirst (locks : KeyedLock κ ι) (claim : Claim κ ι) : Bool :=
  (locks.claims.find? fun other => other.lock = claim.lock && other.phase = .waiting).any
    (·.task = claim.task)

/-- Takes the lock if it is free and no earlier claim waits for it. -/
def acquireInTurn? (locks : KeyedLock κ ι) (task : ι) : Option (KeyedLock κ ι) := do
  let claim ← locks.claim? task
  guard (locks.isFirst claim)
  locks.acquire? task

/-- Gives the lock back and leaves. -/
def finish (locks : KeyedLock κ ι) (task : ι) : KeyedLock κ ι :=
  -- A step that is not due leaves everything as it is, so the last three run only for a holder.
  let released := (locks.release? task).getD locks
  let counted := (released.countReferences? task).getD released
  let forgotten := (counted.forget? task).getD counted
  (forgotten.leave? task).getD forgotten

/-- Ends the claim of a task, whether it holds the lock or waits for it. -/
def giveUp (locks : KeyedLock κ ι) (task : ι) : KeyedLock κ ι :=
  match locks.abandon? task with
  | some left => left
  | none => locks.finish task

/-- Lets every claim take its lock whose turn it is, looking at the claims once in their order. -/
def settle (locks : KeyedLock κ ι) : KeyedLock κ ι :=
  locks.claims.foldl (fun locks claim => (locks.acquireInTurn? claim.task).getD locks) locks

/-- The tasks that hold a lock. -/
def holders (locks : KeyedLock κ ι) : List ι :=
  (locks.claims.filter (·.phase = .holding)).map (·.task)

/-- The tasks that wait for a lock. -/
def waiters (locks : KeyedLock κ ι) : List ι :=
  (locks.claims.filter (·.phase = .waiting)).map (·.task)

end KeyedLock

end VparFleet
