import FlowModel.Microflow.Basic

/-!
# The main line of a microflow

The main line starts at the first start event. It leaves a split by the first flow with the case `true` and any
other node by its first flow, and goes to the first node with the id the flow enters. It ends where there is no
such flow or node, and before an id it has met already; so it is never longer than the list of nodes.
-/

namespace FlowModel.Microflow

/-- The flow by which the main line leaves a node. -/
def mainFlow? (microflow : Microflow) (node : Node) : Option Flow :=
  if node.isSplit then
    (microflow.flowsFrom node.id).find? fun flow => flow.label == some (caseLabel true)
  else
    (microflow.flowsFrom node.id).head?

/-- The node after a node on the main line. -/
def mainSuccessor? (microflow : Microflow) (node : Node) : Option Node :=
  (microflow.mainFlow? node).bind fun flow => microflow.node? flow.destination

/-- The main line from a node on, while ids are new, for a number of nodes at most. -/
def lineFrom (microflow : Microflow) : Nat → List NodeId → Node → List Node
  | 0, _, _ => []
  | atMost + 1, met, node =>
    if node.id ∈ met then []
    else
      node :: match microflow.mainSuccessor? node with
        | none => []
        | some next => microflow.lineFrom atMost (node.id :: met) next

/-- The nodes of the main line, from the first start event on. -/
def mainLine (microflow : Microflow) : List Node :=
  match microflow.start? with
  | none => []
  | some start => microflow.lineFrom microflow.nodes.length [] start

end FlowModel.Microflow
