import VparFleet.KeyedLock
import VparFleet.Program
import VparFleet.Store

/-!
# What tasks share

The tasks of one controller share a store, the locks on partition names, the guard of refreshes and
the report of the last one. They act on these one action at a time.

* `Shared.answer`: answers one action of one task, unless hosts or the clock have to.
-/

namespace VparFleet

/-- What all tasks of a controller share. -/
structure Shared where
  /-- The tables. -/
  store : Store
  /-- The locks on partition names. -/
  names : KeyedLock String Nat
  /-- The tasks that want the refresh guard, the holder first. -/
  refreshers : List Nat
  /-- The report of the last completed refresh. -/
  cached : Option RefreshReport
  /-- The number of completed refreshes. -/
  generation : Nat

/-- What becomes of an action. -/
inductive Answered (action : Action) where
  /-- It is answered. -/
  | reply (reply : action.Reply) (shared : Shared)
  /-- The task has to wait for another one. -/
  | wait (shared : Shared)
  /-- The answer is up to the hosts or the clock. -/
  | outside

namespace Shared

/-- Nothing has been done with a store. -/
def ofStore (store : Store) : Shared := ⟨store, .empty, [], none, 0⟩

/-- Asks the store. -/
def query {α : Type} (shared : Shared) (statement : Store.Statement α) : Outcome α × Shared :=
  let (outcome, store) := statement.run.run shared.store
  (outcome, { shared with store })

/-- Wants the lock on a name, and takes it if it is the task's turn. -/
def lockName (shared : Shared) (task : Nat) (name : String) : Bool × Shared :=
  -- A task that waits already has its place in the queue.
  let names := if (shared.names.claim? task).isSome then shared.names
    else shared.names.enter task name
  match names.acquireInTurn? task with
  | some names => (true, { shared with names })
  | none => (false, { shared with names })

/-- Wants the refresh guard, and takes it if it is the task's turn. -/
def lockRefresh (shared : Shared) (task : Nat) : Bool × Shared :=
  let refreshers :=
    if shared.refreshers.contains task then shared.refreshers else shared.refreshers ++ [task]
  (refreshers.head? = some task, { shared with refreshers })

/-- The answer of a statement. -/
def answered {action : Action} (result : action.Reply × Shared) : Answered action :=
  .reply result.1 result.2

/-- Answers one action of one task. -/
def answer (shared : Shared) (task : Nat) : (action : Action) → Answered action
  | .listNodes => answered (shared.query Store.listNodes)
  | .findNode address => answered (shared.query (Store.findNode address))
  | .addNode node => answered (shared.query (Store.addNode node))
  | .updateNode node => answered (shared.query (Store.updateNode node))
  | .findPlacement partition => answered (shared.query (Store.findPlacement partition))
  | .recordPlacement placement => answered (shared.query (Store.recordPlacement placement))
  | .removePlacement workload => answered (shared.query (Store.removePlacement workload))
  | .lockName name =>
    let (taken, shared) := shared.lockName task name
    if taken then .reply () shared else .wait shared
  | .unlockName _ => .reply () { shared with names := shared.names.finish task }
  | .generation => .reply shared.generation shared
  | .lockRefresh =>
    let (taken, shared) := shared.lockRefresh task
    if taken then .reply () shared else .wait shared
  | .unlockRefresh => .reply () { shared with refreshers := shared.refreshers.drop 1 }
  | .cached => .reply shared.cached shared
  | .publish report => .reply () { shared with cached := some report }
  | .bumpGeneration => .reply () { shared with generation := shared.generation + 1 }
  | .run _ _ => .outside
  | .openConsole _ => .outside
  | .send _ _ => .outside
  | .waitForPrompt _ _ _ => .outside
  | .closeConsole _ => .outside
  | .pause _ => .outside
  | .clock => .outside

end Shared

end VparFleet
