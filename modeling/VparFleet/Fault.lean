/-!
# Faults

Every operation that can fail answers with a fault: its kind and a detail. A step that passes a
fault on names itself in front of the detail and leaves the kind alone.

* `atStep_kind`, `atSteps_kind`: naming steps never changes the kind.
* `atSteps_detail`: the outermost step is named first.
-/

namespace VparFleet

/-- What went wrong, as far as a caller has to tell cases apart. -/
inductive Fault.Kind where
  /-- The configuration cannot be read or used. -/
  | config
  /-- The node or placement table could not be read or written. -/
  | database
  /-- A connection could not be opened or ended too early. -/
  | connectivity
  /-- Something expected did not happen in time. -/
  | timeout
  /-- A conversation went out of its expected order, or the other side is not trusted. -/
  | protocol
  /-- There is no such node or partition, or no node has room. -/
  | notFound
  /-- A command ran, but its output lacks what it had to report. -/
  | remoteCommand
  /-- A request was refused before any remote work. -/
  | invalidRequest
  /-- A file could not be read. -/
  | io
  deriving DecidableEq, Repr

/-- All kinds. -/
def Fault.Kind.all : List Fault.Kind :=
  [.config, .database, .connectivity, .timeout, .protocol, .notFound, .remoteCommand,
    .invalidRequest, .io]

/-- The name of a kind in front of a message. -/
def Fault.Kind.label : Fault.Kind → String
  | .config => "config"
  | .database => "db"
  | .connectivity => "connectivity"
  | .timeout => "timeout"
  | .protocol => "protocol"
  | .notFound => "not found"
  | .remoteCommand => "remote command"
  | .invalidRequest => "invalid request"
  | .io => "io"

/-- The name of a kind in a report for developers. -/
def Fault.Kind.word : Fault.Kind → String
  | .config => "Config"
  | .database => "Db"
  | .connectivity => "Connectivity"
  | .timeout => "Timeout"
  | .protocol => "Protocol"
  | .notFound => "NotFound"
  | .remoteCommand => "RemoteCommand"
  | .invalidRequest => "InvalidRequest"
  | .io => "Io"

/-- A failure of an operation. -/
structure Fault where
  kind : Fault.Kind
  /-- What happened, in words. -/
  detail : String
  deriving DecidableEq, Repr

namespace Fault

/-- The full text of a fault. -/
def message (fault : Fault) : String :=
  fault.kind.label ++ ": " ++ fault.detail

/-- Names the step in which the fault arose. -/
def atStep (step : String) (fault : Fault) : Fault :=
  { fault with detail := step ++ ": " ++ fault.detail }

/-- Names several steps, the innermost first. -/
def atSteps (steps : List String) (fault : Fault) : Fault :=
  steps.foldl (fun fault step => fault.atStep step) fault

@[simp] theorem atStep_kind (step : String) (fault : Fault) :
    (fault.atStep step).kind = fault.kind :=
  rfl

/-- However many steps a fault passes, it stays of its kind. -/
@[simp] theorem atSteps_kind (steps : List String) (fault : Fault) :
    (fault.atSteps steps).kind = fault.kind := by
  induction steps generalizing fault with
  | nil => rfl
  | cons step steps ih => exact ih _

/-- Every step stands in front of those inside it, each with a colon. -/
theorem atSteps_detail (steps : List String) (fault : Fault) :
    (fault.atSteps steps).detail
      = String.join (steps.reverse.map (· ++ ": ")) ++ fault.detail := by
  induction steps generalizing fault with
  | nil => simp [atSteps]
  | cons step steps ih =>
    rw [show fault.atSteps (step :: steps) = (fault.atStep step).atSteps steps from rfl, ih]
    simp [atStep, String.append_assoc]

end Fault

/-- The result of an operation that can fail. -/
abbrev Outcome (α : Type) := Except Fault α

/-- Passes a fault on under the name of the step in which it arose. -/
def Outcome.atStep {α : Type} (step : String) : Outcome α → Outcome α
  | .ok a => .ok a
  | .error fault => .error (fault.atStep step)

end VparFleet
