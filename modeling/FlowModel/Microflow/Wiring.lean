import FlowModel.Digraph
import FlowModel.Microflow.Basic

/-!
# The wiring of a microflow

A flow is wired when both its ends name a node of the microflow; otherwise it dangles. The wired flows are the
arrows of a directed graph on node ids. Flows that leave an id are given newest first: the flow stored last
comes first. Whoever wants to know about the graph of a microflow asks a `GraphView`; the wiring answers its
questions.
-/

namespace FlowModel

/-- The wired flows of a microflow, in stored order. -/
structure Wiring where
  flows : List Flow
deriving DecidableEq, Repr, Inhabited

namespace Wiring

/-- The flows that leave an id, newest first. -/
def departures (wiring : Wiring) (id : NodeId) : List Flow :=
  (wiring.flows.filter fun flow => flow.origin == id).reverse

/-- How many flows leave an id. -/
def outDegree (wiring : Wiring) (id : NodeId) : Nat := wiring.flows.countP fun flow => flow.origin == id

/-- How many flows enter an id. -/
def inDegree (wiring : Wiring) (id : NodeId) : Nat := wiring.flows.countP fun flow => flow.destination == id

/-- The flows as arrows between ids. -/
def arrows (wiring : Wiring) : List (NodeId × NodeId) :=
  wiring.flows.map fun flow => (flow.origin, flow.destination)

/-- The ids that flows lead to from an id, itself included. -/
def reached (wiring : Wiring) (id : NodeId) : List NodeId := Digraph.visits wiring.arrows [id]

/-- Whether some walk along flows returns to its start. -/
def isCyclic (wiring : Wiring) : Bool := Digraph.hasCycle wiring.arrows

end Wiring

namespace Microflow

/-- Whether some node has the id. -/
def hasNode (microflow : Microflow) (id : NodeId) : Bool := microflow.nodes.any fun node => node.id == id

/-- Whether both ends of a flow name a node. -/
def wires (microflow : Microflow) (flow : Flow) : Bool :=
  microflow.hasNode flow.origin && microflow.hasNode flow.destination

/-- The flows whose ends both name a node. -/
def wiring (microflow : Microflow) : Wiring := ⟨microflow.flows.filter microflow.wires⟩

/-- The flows with an end that names no node, in stored order. -/
def danglingFlows (microflow : Microflow) : List Flow := microflow.flows.filter fun flow => !microflow.wires flow

/-- The ids that can be reached from an id, each once; none for an id without a node. -/
def reachableFrom (microflow : Microflow) (id : NodeId) : List NodeId :=
  if microflow.hasNode id then (microflow.wiring.reached id).eraseDups else []

end Microflow

/-- What can be asked of the graph of a microflow: the ends of the flows that dangle, how many edges there are, what
flows lead to from an id, how many flows leave and enter an id, the ids that can be reached from an id, and whether
some walk returns to its start. -/
structure GraphView where
  dangling : List (NodeId × NodeId)
  edgeCount : Nat
  outgoing : NodeId → List (NodeId × Link)
  outgoingCount : NodeId → Nat
  incomingCount : NodeId → Nat
  reachableFrom : NodeId → List NodeId
  isCyclic : Bool

/-- What the wiring of a microflow tells. -/
def Microflow.wiringView (microflow : Microflow) : GraphView where
  dangling := microflow.danglingFlows.map Flow.ends
  edgeCount := microflow.wiring.flows.length
  outgoing id := (microflow.wiring.departures id).map Flow.arrival
  outgoingCount := microflow.wiring.outDegree
  incomingCount := microflow.wiring.inDegree
  reachableFrom := microflow.reachableFrom
  isCyclic := microflow.wiring.isCyclic

end FlowModel
