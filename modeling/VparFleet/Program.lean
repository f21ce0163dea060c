import VparFleet.Fault
import VparFleet.Monitor.Report
import VparFleet.Pattern.Basic
import VparFleet.Placement
import VparFleet.Span

/-!
# Programs of actions

What the controller does is a program: a sequence of actions on hosts, tables, locks and the clock,
each chosen by what the earlier ones answered. A program says nothing about how actions are
answered, so it can be run against a rehearsal, and stepped in any interleaving with others.

* `Action`, `Action.Reply`: the actions, and what each is answered with. Between two actions other
  programs may act.
* `Program`: a tree whose inner nodes are actions.
* `Operation`: a program that may end in a fault.
-/

namespace VparFleet

/-- Tells the open consoles apart. -/
abbrev ConsoleId := Nat

/-- What a program can do. -/
inductive Action where
  /-- Runs a command line on a host. -/
  | run (host command : String)
  /-- Logs in to a host for a conversation. -/
  | openConsole (host : String)
  /-- Writes bytes to a console. -/
  | send (console : ConsoleId) (bytes : List UInt8)
  /-- Waits for a prompt on a console. -/
  | waitForPrompt (console : ConsoleId) (prompt : Pattern) (limit : Span)
  /-- Ends the conversation on a console. -/
  | closeConsole (console : ConsoleId)
  /-- Lets time pass. -/
  | pause (span : Span)
  /-- Looks at the clock. -/
  | clock
  /-- Reads all nodes, in registry order. -/
  | listNodes
  /-- Reads the node with an address. -/
  | findNode (address : String)
  /-- Adds a node. -/
  | addNode (node : Node)
  /-- Replaces the row of a node that is there. -/
  | updateNode (node : Node)
  /-- Reads the latest placement of a partition. -/
  | findPlacement (partition : String)
  /-- Records the placement of a workload. -/
  | recordPlacement (placement : Placement)
  /-- Removes the placement of a workload. -/
  | removePlacement (workload : String)
  /-- Waits for the lock on a partition name and takes it. -/
  | lockName (name : String)
  /-- Gives the lock on a partition name back. -/
  | unlockName (name : String)
  /-- Reads how many refreshes have completed. -/
  | generation
  /-- Waits for the refresh guard and takes it. -/
  | lockRefresh
  /-- Gives the refresh guard back. -/
  | unlockRefresh
  /-- Reads the report of the last completed refresh. -/
  | cached
  /-- Keeps a report as that of the last completed refresh. -/
  | publish (report : RefreshReport)
  /-- Counts a completed refresh. -/
  | bumpGeneration
  deriving Repr

/-- What an action is answered with. -/
def Action.Reply : Action → Type
  | run _ _ => Outcome String
  | openConsole _ => Outcome ConsoleId
  | send _ _ => Outcome Unit
  | waitForPrompt _ _ _ => Outcome (List Char)
  | closeConsole _ => Outcome Unit
  | pause _ => Unit
  | clock => Instant
  | listNodes => Outcome (List Node)
  | findNode _ => Outcome (Option Node)
  | addNode _ => Outcome Unit
  | updateNode _ => Outcome Unit
  | findPlacement _ => Outcome (Option Placement)
  | recordPlacement _ => Outcome Unit
  | removePlacement _ => Outcome Bool
  | lockName _ => Unit
  | unlockName _ => Unit
  | generation => Nat
  | lockRefresh => Unit
  | unlockRefresh => Unit
  | cached => Option RefreshReport
  | publish _ => Unit
  | bumpGeneration => Unit

/-- A program that ends with an `α`. -/
inductive Program (α : Type) where
  /-- The end. -/
  | done (a : α)
  /-- An action, and how the program goes on after each answer. -/
  | act (action : Action) (next : action.Reply → Program α)

namespace Program

/-- Goes on with another program at the end. -/
def bind {α β : Type} : Program α → (α → Program β) → Program β
  | done a, k => k a
  | act action next, k => act action fun reply => (next reply).bind k

instance : Monad Program where
  pure := done
  bind := bind

/-- The program of one action. -/
def perform (action : Action) : Program action.Reply :=
  act action done

/-- Runs a program where each action is answered in some way. -/
def answerBy {m : Type → Type} [Monad m] {α : Type} (answer : (action : Action) → m action.Reply) :
    Program α → m α
  | done a => pure a
  | act action next => answer action >>= fun reply => (next reply).answerBy answer

@[simp] theorem done_bind {α β : Type} (a : α) (k : α → Program β) : (done a >>= k) = k a :=
  rfl

@[simp] theorem act_bind {α β : Type} (action : Action) (next : action.Reply → Program α)
    (k : α → Program β) :
    (act action next >>= k) = act action fun reply => next reply >>= k :=
  rfl

theorem bind_done {α : Type} (p : Program α) : p.bind done = p := by
  induction p with
  | done a => rfl
  | act action next ih => simp [bind, ih]

/-- How programs in a row are grouped does not matter. -/
theorem bind_assoc {α β γ : Type} (p : Program α) (k : α → Program β) (l : β → Program γ) :
    (p.bind k).bind l = p.bind fun a => (k a).bind l := by
  induction p with
  | done a => rfl
  | act action next ih => simp [bind, ih]

instance : LawfulMonad Program :=
  LawfulMonad.mk' Program bind_done (fun _ _ => rfl) bind_assoc

end Program

/-- A program that may end in a fault. -/
abbrev Operation (α : Type) := ExceptT Fault Program α

namespace Operation

/-- An action that may be answered with a fault. -/
def ask {α : Type} (p : Program (Outcome α)) : Operation α :=
  ExceptT.mk p

/-- An action that is always answered. -/
def perform (action : Action) : Operation action.Reply :=
  ExceptT.lift (Program.perform action)

/-- An outcome known without any action. -/
def ofOutcome {α : Type} (outcome : Outcome α) : Operation α :=
  ExceptT.mk (pure outcome)

/-- Names the step that an operation is, should it fail. -/
def atStep {α : Type} (step : String) (operation : Operation α) : Operation α :=
  ExceptT.mk do return Outcome.atStep step (← operation.run)

/-- Takes something first and gives it back at the end, whether the operation fails or not. -/
def between {α : Type} (take giveBack : Program Unit) (operation : Operation α) : Operation α :=
  ExceptT.mk do
    take
    let outcome ← operation.run
    giveBack
    return outcome

/-- Runs a command line on a host. -/
def exec (host command : String) : Operation String :=
  ask (Program.perform (.run host command))

/-- Logs in to a host for a conversation. -/
def openConsole (host : String) : Operation ConsoleId :=
  ask (Program.perform (.openConsole host))

/-- Lets time pass. -/
def pause (span : Span) : Operation Unit :=
  perform (.pause span)

/-- Looks at the clock. -/
def clock : Operation Instant :=
  perform .clock

/-- Reads all nodes, in registry order. -/
def listNodes : Operation (List Node) :=
  ask (Program.perform .listNodes)

/-- Reads the node with an address. -/
def findNode (address : String) : Operation (Option Node) :=
  ask (Program.perform (.findNode address))

/-- Adds a node. -/
def addNode (node : Node) : Operation Unit :=
  ask (Program.perform (.addNode node))

/-- Replaces the row of a node that is there. -/
def updateNode (node : Node) : Operation Unit :=
  ask (Program.perform (.updateNode node))

/-- Reads the latest placement of a partition. -/
def findPlacement (partition : String) : Operation (Option Placement) :=
  ask (Program.perform (.findPlacement partition))

/-- Records the placement of a workload. -/
def recordPlacement (placement : Placement) : Operation Unit :=
  ask (Program.perform (.recordPlacement placement))

/-- Removes the placement of a workload: whether there was one. -/
def removePlacement (workload : String) : Operation Bool :=
  ask (Program.perform (.removePlacement workload))

/-- Reads how many refreshes have completed. -/
def generation : Operation Nat :=
  perform .generation

/-- Reads the report of the last completed refresh. -/
def cached : Operation (Option RefreshReport) :=
  perform .cached

end Operation

end VparFleet
