import VparFleet.Fault
import VparFleet.Ipv4
import VparFleet.Text.Blank
import VparFleet.Text.Quoted

/-!
# Spawn requests

What the orchestrator asks for: a partition with resources, an install image and addresses. A
request is checked before any remote work, because its names end up in command lines on remote
shells.

* `SpawnRequest.validate`: the first flaw, if there is one.
* `validate_eq_ok_iff`: a request passes exactly when it has none of the flaws.
-/

namespace VparFleet

/-- The resources asked for one workload. -/
structure ResourceRequest where
  /-- The orchestrator's name for the workload, which also names the boot volume. -/
  workload : String
  /-- Memory, in megabytes. -/
  memory : Nat
  cpus : Nat
  /-- The size of the boot volume, in gigabytes. -/
  disk : Nat
  deriving DecidableEq, Repr

/-- An address that the orchestrator assigned on one of its networks. -/
structure FixedIp where
  /-- The label of the network. -/
  label : String
  address : String
  deriving DecidableEq, Repr

/-- Everything needed to create and boot one partition. -/
structure SpawnRequest where
  /-- The name of the partition. -/
  name : String
  resources : ResourceRequest
  /-- The install image on the provisioning server. -/
  image : String
  /-- The assigned addresses. -/
  fixedIps : List FixedIp
  gateway : String
  netmask : String
  deriving DecidableEq, Repr

/-- Whether a character may stand in a name: ASCII letters and digits, point, underscore and
hyphen. -/
def isNameChar (c : Char) : Bool :=
  c.isAlphanum || c = '.' || c = '_' || c = '-'

/-- Whether a text can be part of a shell command line as it is. -/
def isShellSafe (s : String) : Bool :=
  !s.toList.isEmpty && s.toList.all isNameChar

/-- Whether a character is a control character (general category Cc). -/
def isControl (c : Char) : Bool :=
  c.toNat < 0x20 || (0x7F ≤ c.toNat && c.toNat < 0xA0)

/-- Whether a character has no place in an image name: quotes, shell expansions, the escape of the
shell, and control characters. -/
def isUnsafeInImage (c : Char) : Bool :=
  c = '"' || c = '\'' || c.toNat = 0x60 || c = '$' || c = '\\' || isControl c

/-- Whether an image name can be written into an install configuration. -/
def isImageName (s : String) : Bool :=
  !Text.isBlankText s && !s.toList.any isUnsafeInImage

namespace SpawnRequest

/-- What can be wrong with a request. -/
inductive Flaw where
  /-- The partition name is empty or holds a character that names do not have. -/
  | badName (value : String)
  /-- The workload name is empty or holds a character that names do not have. -/
  | badWorkload (value : String)
  /-- One of the amounts is zero. -/
  | noResources
  /-- The image name is blank or holds a character that cannot be written. -/
  | badImage
  /-- The field holds no IPv4 address. -/
  | badAddress (field value : String)
  /-- No assigned address on the management network is IPv4. -/
  | noManagementIp (label name : String)
  /-- The partition already has a placement. -/
  | alreadyPlaced (name node workload : String)
  deriving DecidableEq, Repr

/-- The wording of a flaw. -/
def Flaw.detail : Flaw → String
  | badName value =>
    "partition name " ++ Text.quoted value ++ " must be non-empty and use only [A-Za-z0-9._-]"
  | badWorkload value =>
    "workload id " ++ Text.quoted value ++ " must be non-empty and use only [A-Za-z0-9._-]"
  | noResources => "memory, cpus and disk must all be greater than zero"
  | badImage => "image must be non-empty and free of quotes, shell expansions and control characters"
  | badAddress field value => field ++ " " ++ Text.quoted value ++ " is not an IPv4 address"
  | noManagementIp label name => s!"no IPv4 address on network {label} for {name}"
  | alreadyPlaced name node workload =>
    s!"partition {name} is already placed on {node} for workload {workload}"

/-- The fault that a flaw leads to. -/
def Flaw.fault (flaw : Flaw) : Fault :=
  ⟨.invalidRequest, flaw.detail⟩

/-- Whether one of the amounts asked for is zero. -/
def lacksResources (request : SpawnRequest) : Bool :=
  request.resources.memory = 0 || request.resources.cpus = 0 || request.resources.disk = 0

/-- The checks in their order, each with the flaw that it finds. -/
def checks (request : SpawnRequest) : List (Bool × Flaw) :=
  [(isShellSafe request.name, .badName request.name),
    (isShellSafe request.resources.workload, .badWorkload request.resources.workload),
    (!request.lacksResources, .noResources),
    (isImageName request.image, .badImage),
    (Ipv4.isLiteral request.gateway, .badAddress "gateway" request.gateway),
    (Ipv4.isLiteral request.netmask, .badAddress "netmask" request.netmask)]

/-- The first flaw of a request. -/
def flaw? (request : SpawnRequest) : Option Flaw :=
  (request.checks.find? (!·.1)).map (·.2)

/-- Refuses a request with the fault of its first flaw. -/
def validate (request : SpawnRequest) : Outcome Unit :=
  match request.flaw? with
  | none => .ok ()
  | some flaw => .error flaw.fault

/-- The first IPv4 address assigned on the network with this label. -/
def managementIp? (request : SpawnRequest) (label : String) : Option String :=
  ((request.fixedIps.filter (·.label = label)).map (·.address)).find? Ipv4.isLiteral

/-- A request passes exactly when each of its checks does. -/
theorem validate_eq_ok_iff (request : SpawnRequest) :
    request.validate = .ok () ↔
      isShellSafe request.name = true ∧ isShellSafe request.resources.workload = true
        ∧ request.lacksResources = false ∧ isImageName request.image = true
        ∧ Ipv4.isLiteral request.gateway = true ∧ Ipv4.isLiteral request.netmask = true := by
  have h : request.validate = .ok () ↔ request.checks.find? (!·.1) = none := by
    unfold validate flaw?
    cases request.checks.find? (!·.1) <;> simp
  rw [h, List.find?_eq_none]
  simp [checks]

end SpawnRequest

end VparFleet
