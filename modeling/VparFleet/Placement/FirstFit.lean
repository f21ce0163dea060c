import VparFleet.Node
import VparFleet.Request

/-!
# Placement by first fit

A workload goes to the first node, in registry order, that has strictly more free memory,
processors and disk than asked for. A node that fits exactly does not qualify.

* `choose_eq_some_iff`: the chosen node fits and no node before it does.
-/

namespace VparFleet

namespace ResourceRequest

/-- Whether a node has room for the request with something left over on every dimension. -/
def fits (request : ResourceRequest) (node : Node) : Bool :=
  request.memory < node.freeMemory && request.cpus < node.freeVcpus
    && request.disk < node.freeDisk

/-- The first node with room. -/
def choose (request : ResourceRequest) (nodes : List Node) : Option Node :=
  nodes.find? request.fits

/-- The position of the first node with room. -/
def chooseIndex (request : ResourceRequest) (nodes : List Node) : Option Nat :=
  nodes.findIdx? request.fits

/-- The chosen node is the first that a request fits on. -/
theorem choose_eq_some_iff {request : ResourceRequest} {nodes : List Node} {node : Node} :
    request.choose nodes = some node ↔
      request.fits node = true ∧
        ∃ before after, nodes = before ++ node :: after ∧
          ∀ other ∈ before, request.fits other = false := by
  simp [choose, List.find?_eq_some_iff_append]

end ResourceRequest

end VparFleet
